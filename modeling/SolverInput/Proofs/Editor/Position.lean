import SolverInput.Editor.Position
import SolverInput.Proofs.Files.Tree
import SolverInput.Proofs.Text.Lines
import SolverInput.Proofs.Text.Units
import Mathlib

/-!
# Cutting a line at a cursor

A cursor column counts UTF-16 units, and a line is cut at a character. `Text.IsCut` says which
characters come before the cursor without walking down the line: the shortest initial part that is
as wide as the column. Everything about a cut is drawn from this:

* how wide it is (`IsCut.units_eq`, `IsCut.units_of_insidePair`): as wide as the column, unless
  the column is past the end or inside a surrogate pair;
* that a greater column cuts off no less (`IsCut.mono`).

`Text.takeUnits` gives the cut (`isCut_takeUnits`). A walk down the line that counts units in a word
of 32 bits finds the same place, as a number of bytes, and its counter never wraps around on a line
of fewer than `2 ^ 32` units (`cursorBytes?_eq`).
-/

namespace SolverInput

namespace Text

/-! ## Widths -/

lemma charUnits_cases (c : Char) : charUnits c = 1 ∨ charUnits c = 2 := by
  unfold charUnits
  split
  · exact .inl rfl
  · exact .inr rfl

/-- A part at the start is no wider than the whole. -/
lemma units_le_of_prefix {p t : Text} (h : p <+: t) : units p ≤ units t := by
  obtain ⟨rest, rfl⟩ := h
  rw [units_append]
  omega

lemma takeUnits_nil (n : Nat) : takeUnits n [] = [] := by
  cases n <;> rfl

/-! ## Cuts -/

/-- `p` is what comes before a column on a line: the shortest initial part that is at least as wide
as the column, or the whole line if the line is narrower. -/
structure IsCut (line : Text) (column : Nat) (p : Text) : Prop where
  /-- A cut does not split a character. -/
  isPrefix : p <+: line
  whole : units line < column → p = line
  reaches : column ≤ units line → column ≤ units p
  shortest : ∀ q, q <+: line → column ≤ units q → p <+: q

/-- A column lies between the two units of a character. -/
def InsidePair (line : Text) (column : Nat) : Prop :=
  ∃ before c, before ++ [c] <+: line ∧ charUnits c = 2 ∧ column = units before + 1

lemma isCut_zero (line : Text) : IsCut line 0 [] where
  isPrefix := List.nil_prefix
  whole h := absurd h (Nat.not_lt_zero _)
  reaches _ := Nat.zero_le _
  shortest _ _ _ := List.nil_prefix

lemma isCut_nil (column : Nat) : IsCut [] column [] where
  isPrefix := List.nil_prefix
  whole _ := rfl
  reaches h := h
  shortest _ _ _ := List.nil_prefix

/-- A column behind the first character cuts the rest of the line at the rest of the column. -/
lemma IsCut.cons {c : Char} {rest p : Text} {column : Nat} (hcolumn : 0 < column)
    (h : IsCut rest (column - charUnits c) p) : IsCut (c :: rest) column (c :: p) where
  isPrefix := List.cons_prefix_cons.2 ⟨rfl, h.isPrefix⟩
  whole hlt := by
    rw [units] at hlt
    rw [h.whole (by omega)]
  reaches hle := by
    rw [units] at hle ⊢
    have := h.reaches (by omega)
    omega
  shortest q hq hle := by
    cases q with
    | nil =>
      -- the empty text has no width, and the column is not zero
      exact absurd hle (Nat.not_le_of_lt hcolumn)
    | cons d q =>
      obtain ⟨rfl, hrest⟩ := List.cons_prefix_cons.1 hq
      rw [units] at hle
      exact List.cons_prefix_cons.2 ⟨rfl, h.shortest q hrest (by omega)⟩

lemma isCut_takeUnits (column : Nat) (line : Text) : IsCut line column (takeUnits column line) := by
  induction line generalizing column with
  | nil =>
    rw [takeUnits_nil]
    exact isCut_nil column
  | cons c rest ih =>
    cases column with
    | zero => exact isCut_zero (c :: rest)
    | succ n => exact (ih (n + 1 - charUnits c)).cons (Nat.succ_pos n)

section Cut

variable {line p p' : Text} {column column' : Nat}

/-- A greater column cuts off no less. -/
lemma IsCut.mono (h : IsCut line column p) (h' : IsCut line column' p') (hle : column ≤ column') :
    p <+: p' := by
  by_cases hwide : column' ≤ units line
  · exact h.shortest p' h'.isPrefix (Nat.le_trans hle (h'.reaches hwide))
  · rw [h'.whole (Nat.lt_of_not_le hwide)]
    exact h.isPrefix

/-- Without its last character a cut no longer reaches the column. -/
lemma IsCut.units_lt {q : Text} {c : Char} (h : IsCut line column (q ++ [c])) : units q < column := by
  by_contra hle
  have hq : q <+: line := (List.prefix_append q [c]).trans h.isPrefix
  have hlength := (h.shortest q hq (Nat.le_of_not_lt hle)).length_le
  rw [List.length_append, List.length_singleton] at hlength
  omega

/-- A cut is as wide as the column, unless the column is past the end or inside a pair. -/
lemma IsCut.units_eq (h : IsCut line column p) (hwide : column ≤ units line)
    (hpair : ¬ InsidePair line column) : units p = column := by
  have hreach : column ≤ units p := h.reaches hwide
  rcases List.eq_nil_or_concat p with rfl | ⟨q, c, rfl⟩
  · exact (Nat.le_zero.1 hreach).symm
  · rw [List.concat_eq_append] at *
    have hlt : units q < column := h.units_lt
    have hsum : units (q ++ [c]) = units q + charUnits c := units_append q [c]
    -- only between the two units of `c` the column is neither before nor behind `c`
    have hnot : ¬ (charUnits c = 2 ∧ column = units q + 1) := fun hc =>
      hpair ⟨q, c, h.isPrefix, hc.1, hc.2⟩
    have := charUnits_cases c
    omega

/-- Inside a pair the cut takes in the whole character. -/
lemma IsCut.units_of_insidePair (h : IsCut line column p) (hpair : InsidePair line column) :
    units p = column + 1 := by
  obtain ⟨before, c, hline, hc, rfl⟩ := hpair
  have hsum : units (before ++ [c]) = units before + charUnits c := units_append before [c]
  have hwide := units_le_of_prefix hline
  have hp : p <+: before ++ [c] := h.shortest _ hline (by omega)
  rcases List.prefix_concat_iff.1 hp with rfl | hp
  · omega
  · -- what comes before the character does not reach the column
    have hreach := h.reaches (by omega)
    have hle := units_le_of_prefix hp
    omega

end Cut

/-! ## Bytes -/

lemma toBytes_append (s t : Text) : toBytes (s ++ t) = toBytes s ++ toBytes t := by
  unfold toBytes
  rw [String.ofList_append]
  rfl

lemma size_toBytes_cons (c : Char) (t : Text) :
    (toBytes (c :: t)).size = c.utf8Size + (toBytes t).size := by
  have hcons : toBytes (c :: t) = toBytes [c] ++ toBytes t := toBytes_append [c] t
  have hone : (toBytes [c]).size = c.utf8Size := by
    unfold toBytes
    rw [← String.singleton_eq_ofList]
    exact String.utf8ByteSize_singleton
  rw [hcons, ByteArray.size_append, hone]

/-- The bytes of a part at the start of a text are a part at the start of its bytes. -/
lemma ofBytes?_extract {p t : Text} (h : p <+: t) :
    ofBytes? ((toBytes t).extract 0 (toBytes p).size) = some p := by
  obtain ⟨rest, rfl⟩ := h
  rw [toBytes_append, ByteArray.extract_append_eq_left rfl, ofBytes?_toBytes]

end Text

namespace Editor

open Text

/-! ## A counter of 32 bits -/

/-- The sum of two words, if it does not wrap around. -/
def checkedAdd (a b : UInt32) : Option UInt32 :=
  if a.toNat + b.toNat < 2 ^ 32 then some (a + b) else none

/-- Walks down a line and keeps count of the bytes and of the units, the latter in a word. It stops
where the counter has reached the column, or at the end of the line, and gives the bytes up to
there. It fails if the counter wraps around. -/
def cursorBytes? (column : UInt32) (bytes : Nat) (counter : UInt32) : Text → Option Nat
  | [] => some bytes
  | c :: rest =>
    if column ≤ counter then some bytes
    else do
      let next ← checkedAdd counter (charUnits c).toUInt32
      cursorBytes? column (bytes + c.utf8Size) next rest

/-- A character is counted exactly, if the sum fits into a word. -/
lemma checkedAdd_charUnits {counter : UInt32} (c : Char)
    (h : counter.toNat + charUnits c < 2 ^ 32) :
    ∃ next, checkedAdd counter (charUnits c).toUInt32 = some next ∧
      next.toNat = counter.toNat + charUnits c := by
  have hc : (charUnits c).toUInt32.toNat = charUnits c := by
    rcases charUnits_cases c with hc | hc <;> rw [hc] <;> rfl
  refine ⟨counter + (charUnits c).toUInt32, ?_, ?_⟩
  · unfold checkedAdd
    rw [hc, if_pos h]
  · rw [UInt32.toNat_add, hc, Nat.mod_eq_of_lt h]

/-- The walk finds the cut, if a word can count the units of the line. -/
lemma cursorBytes?_eq {column counter : UInt32} {bytes : Nat} {line : Text}
    (h : counter.toNat + units line < 2 ^ 32) :
    cursorBytes? column bytes counter line
      = some (bytes + (toBytes (takeUnits (column.toNat - counter.toNat) line)).size) := by
  induction line generalizing bytes counter with
  | nil =>
    rw [takeUnits_nil]
    rfl
  | cons c rest ih =>
    rw [units] at h
    unfold cursorBytes?
    split_ifs with hstop
    · -- the counter has reached the column: there is nothing left to cut off
      rw [UInt32.le_iff_toNat_le] at hstop
      rw [Nat.sub_eq_zero_of_le hstop]
      rfl
    · rw [UInt32.le_iff_toNat_le] at hstop
      have hfits : counter.toNat + charUnits c < 2 ^ 32 := by omega
      obtain ⟨next, hadd, hnext⟩ := checkedAdd_charUnits c hfits
      have hahead : column.toNat - counter.toNat ≠ 0 := by omega
      obtain ⟨n, hn⟩ := Nat.exists_eq_succ_of_ne_zero hahead
      have hrest : column.toNat - next.toNat = n + 1 - charUnits c := by omega
      rw [hadd, hn, takeUnits, size_toBytes_cons, ← hrest, ← Nat.add_assoc]
      exact ih (by omega)

/-- **A line is cut at the cursor, and never through a character.** Below the last line of a text
there is nothing before the cursor. On a line, what comes before the cursor is the shortest initial
part that is as wide as the column, or the whole line. It is as wide as the column, unless the
column is past the end or inside a surrogate pair, which takes one unit more. A greater column cuts
off no less. On lines of fewer than `2 ^ 32` units, a walk that counts in a word finds that many
bytes, its counter does not wrap around, and the bytes up to there are whole characters. -/
theorem textBefore_cuts_line (text : Text) (l c : UInt32)
    (h : ∀ line ∈ lines text, units line < 2 ^ 32) :
    ((lines text).length ≤ l.toNat → textBefore text ⟨l.toNat, c.toNat⟩ = []) ∧
    (∀ line, (lines text)[l.toNat]? = some line →
      let p := textBefore text ⟨l.toNat, c.toNat⟩
      IsCut line c.toNat p ∧
      (InsidePair line c.toNat → units p = c.toNat + 1) ∧
      (c.toNat ≤ units line → ¬ InsidePair line c.toNat → units p = c.toNat) ∧
      cursorBytes? c 0 0 line = some (toBytes p).size ∧
      ofBytes? ((toBytes line).extract 0 (toBytes p).size) = some p) ∧
    ∀ c' : UInt32, c ≤ c' →
      textBefore text ⟨l.toNat, c.toNat⟩ <+: textBefore text ⟨l.toNat, c'.toNat⟩ := by
  have hcut : ∀ line, (lines text)[l.toNat]? = some line → ∀ column : Nat,
      textBefore text ⟨l.toNat, column⟩ = takeUnits column line := by
    intro line hline column
    unfold textBefore
    rw [hline]
  refine ⟨fun hlength => ?_, fun line hline => ?_, fun c' hle => ?_⟩
  · unfold textBefore
    rw [List.getElem?_eq_none hlength]
  · intro p
    have hp : p = takeUnits c.toNat line := hcut line hline c.toNat
    have hisCut : IsCut line c.toNat p := hp ▸ isCut_takeUnits c.toNat line
    have hcounter : (0 : UInt32).toNat + units line < 2 ^ 32 := by
      rw [UInt32.toNat_zero, Nat.zero_add]
      exact h line (List.mem_of_getElem? hline)
    refine ⟨hisCut, hisCut.units_of_insidePair, hisCut.units_eq, ?_, ofBytes?_extract hisCut.isPrefix⟩
    rw [cursorBytes?_eq hcounter, UInt32.toNat_zero, Nat.zero_add, Nat.sub_zero, hp]
  · cases hline : (lines text)[l.toNat]? with
    | none =>
      unfold textBefore
      rw [hline]
    | some line =>
      rw [hcut line hline, hcut line hline]
      exact (isCut_takeUnits _ line).mono (isCut_takeUnits _ line) (UInt32.le_iff_toNat_le.1 hle)

/-- A column between the units of a character on the second line: the whole character comes before
the cursor, five bytes in all. -/
theorem textBefore_cuts_line_inside_pair :
    let text : Text := "k\r\na😀b".toList
    let p := textBefore text ⟨1, 2⟩
    (∀ line ∈ lines text, units line < 2 ^ 32) ∧ (lines text)[1]? = some "a😀b".toList ∧
      InsidePair "a😀b".toList 2 ∧ p = "a😀".toList ∧ units p = 3 ∧
      cursorBytes? 2 0 0 "a😀b".toList = some (toBytes p).size ∧
      p <+: textBefore text ⟨1, 4⟩ := by
  intro text p
  have hbound : ∀ line ∈ lines text, units line < 2 ^ 32 := by decide
  have hline : (lines text)[1]? = some "a😀b".toList := by decide
  have hpair : InsidePair "a😀b".toList 2 := ⟨['a'], '😀', by decide, by decide, by decide⟩
  obtain ⟨-, hcut, hmono⟩ := textBefore_cuts_line text 1 2 hbound
  obtain ⟨-, hunits, -, hbytes, -⟩ := hcut _ hline
  exact ⟨hbound, hline, hpair, by decide, hunits hpair, hbytes, hmono 4 (by decide)⟩

end Editor

end SolverInput
