import SolverInput.Text.Units
import Mathlib.Data.List.Basic

/-!
# UTF-16 code units

`Text.units` counts the UTF-16 code units of a text; `Text.utf16` lists them, so that a column and
a length name a slice. Where every character is of the basic plane, units and characters are the
same: a slice of units is the slice of characters (`slice_utf16`), and cutting a line at a column
of units cuts it at that character (`takeUnits_of_basic`).
-/

namespace SolverInput.Text

/-- The UTF-16 code units of a character: one unit in the basic plane, else a surrogate pair. -/
def charUtf16 (c : Char) : List UInt16 :=
  if c.toNat < 0x10000 then [c.toNat.toUInt16]
  else [(0xD800 + (c.toNat - 0x10000) / 0x400).toUInt16,
    (0xDC00 + (c.toNat - 0x10000) % 0x400).toUInt16]

/-- The UTF-16 code units of a text. -/
def utf16 (t : Text) : List UInt16 :=
  t.flatMap charUtf16

lemma utf16_append (s t : Text) : utf16 (s ++ t) = utf16 s ++ utf16 t := by
  unfold utf16
  rw [List.flatMap_append]

lemma length_charUtf16 (c : Char) : (charUtf16 c).length = charUnits c := by
  unfold charUtf16 charUnits
  split <;> rfl

/-- The width of a text is the number of its units. -/
lemma length_utf16 (t : Text) : (utf16 t).length = units t := by
  induction t with
  | nil => rfl
  | cons c cs ih =>
    have hcons : utf16 (c :: cs) = charUtf16 c ++ utf16 cs := rfl
    rw [hcons, List.length_append, length_charUtf16, ih, units]

lemma units_append (s t : Text) : units (s ++ t) = units s + units t := by
  rw [← length_utf16, utf16_append, List.length_append, length_utf16, length_utf16]

/-- In the basic plane every character takes one unit. -/
lemma units_of_basic {t : Text} (h : ∀ c ∈ t, c.toNat < 0x10000) : units t = t.length := by
  induction t with
  | nil => rfl
  | cons c cs ih =>
    have hc : charUnits c = 1 := if_pos (h c (by simp))
    have hcs := ih fun d hd => h d (List.mem_cons_of_mem _ hd)
    rw [units, hc, hcs, List.length_cons]
    omega

/-- A text has no more characters than units. -/
lemma length_le_units (t : Text) : t.length ≤ units t := by
  induction t with
  | nil => exact Nat.le_refl _
  | cons c cs ih =>
    have hc : 1 ≤ charUnits c := by
      unfold charUnits
      split <;> omega
    rw [List.length_cons, units]
    omega

/-- Where all characters before a column are of the basic plane, the column counts characters. -/
lemma takeUnits_of_basic {t : Text} {n : Nat} (h : ∀ c ∈ t.take n, c.toNat < 0x10000) :
    takeUnits n t = t.take n := by
  induction t generalizing n with
  | nil => cases n <;> rfl
  | cons c cs ih =>
    cases n with
    | zero => rfl
    | succ n =>
      rw [List.take_succ_cons] at h ⊢
      have hc : charUnits c = 1 := if_pos (h c (by simp))
      have hcs := ih fun d hd => h d (List.mem_cons_of_mem _ hd)
      rw [takeUnits, hc, Nat.add_sub_cancel, hcs]

/-- Units that follow a text of the basic plane stand where the characters stand. -/
lemma slice_utf16 {before mid after : Text} (hbefore : ∀ c ∈ before, c.toNat < 0x10000)
    (hmid : ∀ c ∈ mid, c.toNat < 0x10000) :
    ((utf16 (before ++ mid ++ after)).drop before.length).take mid.length = utf16 mid := by
  have hb : (utf16 before).length = before.length := by
    rw [length_utf16, units_of_basic hbefore]
  have hm : (utf16 mid).length = mid.length := by
    rw [length_utf16, units_of_basic hmid]
  rw [utf16_append, utf16_append, List.append_assoc, ← hb, List.drop_left, ← hm, List.take_left]

end SolverInput.Text
