import SolverInput.Report.Extraction
import Mathlib.Algebra.Order.BigOperators.Group.List
import Mathlib.Algebra.Order.Group.Nat

/-!
# What an extraction reads

An extraction walks down a bucket with an index. In closed form: its items are what the reader makes
of the lines, in order, and its malformed rows are the lines that the reader refuses, with their
indices (`items_ofRowsFrom`, `malformed_ofRowsFrom`). For lines that were printed from a list, and
that the reader accepts one by one, this gives the whole extraction (`ofRowsFrom_map`).

A reader that gives only the end of a text cannot make up for it at another row
(`filter_map_eq_map_iff`): all texts come back exactly if each of them does. `ofBucket_map` has
both for the lines of an input (`InputLine`) that are printed into a bucket.
-/

namespace SolverInput

/-- A line of an input file that can be given back: it has a text, which is no rule. -/
structure InputLine where
  text : Text
  text_feed : '\n' ∉ text
  text_return : text.getLast? ≠ some '\r'
  text_ne : text ≠ []
  text_rule : Line.isRule text = false

namespace InputLine

lemma isContent_text (input : InputLine) : Report.isContent input.text = true := by
  simp [Report.isContent, input.text_ne, input.text_rule]

/-- A line that ends in an input line does not end in a carriage return. -/
lemma getLast?_append_text (input : InputLine) (before : Text) :
    (before ++ input.text).getLast? ≠ some '\r' := by
  rw [List.getLast?_append_of_ne_nil _ input.text_ne]
  exact input.text_return

end InputLine

namespace Extraction

section Rows

variable {α : Type} (bucket : Bucket) (read : Text → Option α) (keep : α → Bool)

/-- The items of an extraction are what is read, in order, less what is not kept. -/
lemma items_ofRowsFrom (index : Nat) (rows : List Text) :
    (ofRowsFrom bucket read keep index rows).items = (rows.filterMap read).filter keep := by
  induction rows generalizing index with
  | nil => rfl
  | cons line rest ih =>
    rw [ofRowsFrom, List.filterMap_cons]
    cases read line with
    | none => exact ih (index + 1)
    | some item =>
      by_cases hkeep : keep item = true
      · simp [hkeep, ih]
      · simp [hkeep, ih]

/-- The malformed rows of an extraction are the lines that are not read, with their places. -/
lemma malformed_ofRowsFrom (index : Nat) (rows : List Text) :
    (ofRowsFrom bucket read keep index rows).malformed
      = ((rows.zipIdx index).filter fun x => (read x.1).isNone).map
        fun x => ⟨bucket, x.2, x.1⟩ := by
  induction rows generalizing index with
  | nil => rfl
  | cons line rest ih =>
    rw [ofRowsFrom, List.zipIdx_cons]
    cases hread : read line with
    | none => simp [hread, ih]
    | some item =>
      by_cases hkeep : keep item = true
      · simp [hread, hkeep, ih]
      · simp [hread, hkeep, ih]

/-- Nothing is malformed exactly if every line is read. -/
lemma malformed_eq_nil_iff (index : Nat) (rows : List Text) :
    (ofRowsFrom bucket read keep index rows).malformed = [] ↔
      ∀ line ∈ rows, (read line).isSome = true := by
  induction rows generalizing index with
  | nil => simp [ofRowsFrom]
  | cons line rest ih =>
    rw [ofRowsFrom, List.forall_mem_cons, ← ih (index + 1)]
    cases read line with
    | none => simp
    | some item => by_cases hkeep : keep item = true <;> simp [hkeep]

/-- Lines that are all read leave no malformed row, and give their items. -/
lemma ofRowsFrom_map {ρ : Type} {xs : List ρ} {line : ρ → Text} {item : ρ → α}
    (h : ∀ x ∈ xs, read (line x) = some (item x)) (index : Nat) :
    let e := ofRowsFrom bucket read keep index (xs.map line)
    e.isClean = true ∧ e.items = (xs.map item).filter keep := by
  intro e
  constructor
  · have hmalformed : e.malformed = [] := by
      rw [malformed_eq_nil_iff]
      intro l hl
      obtain ⟨x, hx, rfl⟩ := List.mem_map.1 hl
      rw [h x hx]
      rfl
    simp [isClean, hmalformed]
  · have hitems : (xs.map line).filterMap read = xs.map item := by
      rw [List.filterMap_map, ← List.filterMap_eq_map]
      exact List.filterMap_congr fun x hx => h x hx
    rw [items_ofRowsFrom, hitems]

end Rows

/-- If each row gives an end of its text, the rows give all texts back exactly if each of them gives
its own. -/
lemma filter_map_eq_map_iff {ρ : Type} {xs : List ρ} {text item : ρ → Text} {keep : Text → Bool}
    (hkeep : ∀ x ∈ xs, keep (text x) = true) (hend : ∀ x ∈ xs, item x <:+ text x) :
    (xs.map item).filter keep = xs.map text ↔ ∀ x ∈ xs, item x = text x := by
  constructor
  · intro h
    by_contra hne
    push Not at hne
    obtain ⟨x, hx, hxne⟩ := hne
    -- a shorter text makes the sum of all lengths smaller, and leaving texts out does so too
    have hlt : (xs.map fun x => (item x).length).sum < (xs.map fun x => (text x).length).sum := by
      apply List.sum_lt_sum
      · exact fun y hy => (hend y hy).length_le
      · have hlength : (item x).length ≠ (text x).length := fun heq =>
          hxne ((hend x hx).eq_of_length heq)
        exact ⟨x, hx, Nat.lt_of_le_of_ne (hend x hx).length_le hlength⟩
    have hle : (((xs.map item).filter keep).map List.length).sum
        ≤ ((xs.map item).map List.length).sum :=
      (List.filter_sublist.map _).sum_le_sum fun _ _ => Nat.zero_le _
    rw [h, List.map_map, List.map_map] at hle
    exact absurd hlt (Nat.not_lt.2 hle)
  · intro h
    rw [List.map_congr_left h, List.filter_eq_self]
    intro t ht
    obtain ⟨x, hx, rfl⟩ := List.mem_map.1 ht
    exact hkeep x hx

/-- The extraction of a bucket that holds one line for each line of an input, if reading such a line
gives an end of the text. -/
lemma ofBucket_map {ρ : Type} {report : Report} {bucket : Bucket} (read : Text → Option Text)
    {xs : List ρ} {line item : ρ → Text} {input : ρ → InputLine}
    (hlines : report.get bucket = xs.map line)
    (hread : ∀ x ∈ xs, read (line x) = some (item x))
    (hend : ∀ x ∈ xs, item x <:+ (input x).text) :
    let e := ofBucket report bucket read Report.isContent
    e.isClean = true ∧ e.items = (xs.map item).filter Report.isContent ∧
      (e.items = xs.map (fun x => (input x).text) ↔ ∀ x ∈ xs, item x = (input x).text) := by
  intro e
  have he : e = ofRowsFrom bucket read Report.isContent 0 (xs.map line) := by
    simp only [e, ofBucket, hlines]
  obtain ⟨hclean, hitems⟩ := ofRowsFrom_map bucket read Report.isContent hread 0
  rw [← he] at hclean hitems
  refine ⟨hclean, hitems, ?_⟩
  rw [hitems]
  exact filter_map_eq_map_iff (fun x _ => (input x).isContent_text) hend

end Extraction

end SolverInput
