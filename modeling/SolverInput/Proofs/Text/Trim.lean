import SolverInput.Text.Blank
import Mathlib.Data.List.DropRight

/-!
# Trimming

`Text.trim` drops the blanks at both ends of a text. What it does is said here without its two
scans:

* a text is its trimmed part between two runs of blanks (`exists_eq_append_trim`), so trimming
  leaves nothing exactly if all characters are blank (`trim_eq_nil_iff`);
* blanks that are added at either end are dropped again (`trim_append`), so what is trimmed has
  nothing to trim (`trim_trim`).
-/

namespace SolverInput.Text

/-- A text of blanks only, which may be empty. -/
def IsBlanks (t : Text) : Prop :=
  ∀ c ∈ t, isBlank c = true

instance (t : Text) : Decidable (IsBlanks t) :=
  List.decidableBAll (fun c => isBlank c = true) t

lemma isBlanks_append {s t : Text} : IsBlanks (s ++ t) ↔ IsBlanks s ∧ IsBlanks t :=
  List.forall_mem_append

lemma trim_eq_rdropWhile (t : Text) : trim t = (t.dropWhile isBlank).rdropWhile isBlank := rfl

/-- Trimming leaves nothing exactly of a text of blanks. -/
lemma trim_eq_nil_iff {t : Text} : trim t = [] ↔ IsBlanks t := by
  rw [trim_eq_rdropWhile, List.rdropWhile_eq_nil_iff]
  constructor
  · intro h
    -- a scan from the left that leaves blanks only leaves nothing
    have hnil : t.dropWhile isBlank = [] := by
      rw [← List.dropWhile_idempotent, List.dropWhile_eq_nil_iff]
      exact h
    exact List.dropWhile_eq_nil_iff.1 hnil
  · intro h c hc
    exact h c ((List.dropWhile_sublist isBlank).subset hc)

/-- A text is its trimmed part between two runs of blanks. -/
lemma exists_eq_append_trim (t : Text) :
    ∃ left right, IsBlanks left ∧ IsBlanks right ∧ t = left ++ trim t ++ right := by
  refine ⟨t.takeWhile isBlank, (t.dropWhile isBlank).rtakeWhile isBlank, ?_, ?_, ?_⟩
  · exact fun c hc => List.mem_takeWhile_imp hc
  · exact fun c hc => List.mem_rtakeWhile_imp hc
  · rw [trim_eq_rdropWhile, List.append_assoc, List.rdropWhile_append_rtakeWhile,
      List.takeWhile_append_dropWhile]

/-- Trimming adds no character. -/
lemma mem_of_mem_trim {t : Text} {c : Char} (h : c ∈ trim t) : c ∈ t := by
  obtain ⟨left, right, -, -, ht⟩ := exists_eq_append_trim t
  rw [ht]
  exact List.mem_append_left _ (List.mem_append_right _ h)

lemma trim_append_left {left : Text} (h : IsBlanks left) (t : Text) :
    trim (left ++ t) = trim t := by
  unfold trim skipBlanks
  rw [List.dropWhile_append_of_pos h]

lemma trim_append_right {right : Text} (h : IsBlanks right) (t : Text) :
    trim (t ++ right) = trim t := by
  by_cases ht : IsBlanks t
  · rw [trim_eq_nil_iff.2 ht, trim_eq_nil_iff.2 (isBlanks_append.2 ⟨ht, h⟩)]
  · -- the scan from the left ends inside `t`, so both scans from the right end there
    have hne : t.dropWhile isBlank ≠ [] := fun hnil => ht (List.dropWhile_eq_nil_iff.1 hnil)
    have hback : ∀ c ∈ right.reverse, isBlank c = true := fun c hc => h c (List.mem_reverse.1 hc)
    unfold trim skipBlanks dropEndWhile
    rw [List.dropWhile_append, if_neg (by simpa using hne), List.reverse_append,
      List.dropWhile_append_of_pos hback]

/-- Blanks at either end are dropped. -/
lemma trim_append {left right : Text} (hleft : IsBlanks left) (hright : IsBlanks right) (t : Text) :
    trim (left ++ t ++ right) = trim t := by
  rw [trim_append_right hright, trim_append_left hleft]

/-- What is trimmed has nothing to trim. -/
lemma trim_trim (t : Text) : trim (trim t) = trim t := by
  obtain ⟨left, right, hleft, hright, ht⟩ := exists_eq_append_trim t
  conv_rhs => rw [ht, trim_append hleft hright]

end SolverInput.Text
