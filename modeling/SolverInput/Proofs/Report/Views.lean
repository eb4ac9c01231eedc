import SolverInput.Proofs.Report.Extraction
import Mathlib.Data.List.Basic

/-!
# Views of a report

The raw input, the full input and the token rows are three views of a report. Each of them walks
down one bucket, and no line of that bucket is lost: it is malformed, or it is read. What this means
is said once for any view (`Report.AccountsFor`) and proved once for the walk that all views share
(`Report.accountsFor_ofBucket`), from its closed form:

* malformed rows stand in the order of their places (`pairwise_malformed`), and they are the lines
  that are not read (`mem_malformed_iff`);
* the malformed rows of a bucket in two parts are those of both, and the places in the second part
  count on from the first (`malformed_append`, `malformed_add`);
* a strict extraction succeeds exactly if every line is read (`strict_ofRowsFrom`).
-/

namespace SolverInput

namespace Extraction

section Rows

variable {α : Type} (bucket : Bucket) (read : Text → Option α) (keep : α → Bool)

/-- Malformed rows are listed in the order of their places. -/
lemma pairwise_malformed (index : Nat) (rows : List Text) :
    (ofRowsFrom bucket read keep index rows).malformed.Pairwise (·.index < ·.index) := by
  have hplaces : (rows.zipIdx index).Pairwise (·.2 < ·.2) := by
    rw [← List.pairwise_map, List.zipIdx_map_snd]
    exact List.pairwise_lt_range'
  rw [malformed_ofRowsFrom, List.pairwise_map]
  exact hplaces.filter _

/-- The malformed rows are the lines that are not read, each at its place. -/
lemma mem_malformed_iff (rows : List Text) (row : MalformedRow) :
    row ∈ (ofRowsFrom bucket read keep 0 rows).malformed ↔
      row.bucket = bucket ∧ rows[row.index]? = some row.line ∧ read row.line = none := by
  simp only [malformed_ofRowsFrom, List.mem_map, List.mem_filter, Prod.exists,
    List.mk_mem_zipIdx_iff_getElem?, Option.isNone_iff_eq_none]
  constructor
  · rintro ⟨line, index, ⟨hline, hread⟩, rfl⟩
    exact ⟨rfl, hline, hread⟩
  · rintro ⟨rfl, hline, hread⟩
    exact ⟨row.line, row.index, ⟨hline, hread⟩, rfl⟩

/-- Rows that stand further down have greater places, and nothing else is different. -/
lemma malformed_add (index n : Nat) (rows : List Text) :
    (ofRowsFrom bucket read keep (index + n) rows).malformed
      = (ofRowsFrom bucket read keep index rows).malformed.map
        fun row => { row with index := row.index + n } := by
  induction rows generalizing index with
  | nil => rfl
  | cons line rest ih =>
    have hrest := ih (index + 1)
    rw [Nat.add_right_comm] at hrest
    rw [ofRowsFrom, ofRowsFrom, hrest]
    cases read line with
    | none => rfl
    | some item => by_cases hkeep : keep item = true <;> simp [hkeep, hrest]

lemma malformed_append (index : Nat) (xs ys : List Text) :
    (ofRowsFrom bucket read keep index (xs ++ ys)).malformed
      = (ofRowsFrom bucket read keep index xs).malformed
        ++ (ofRowsFrom bucket read keep (index + xs.length) ys).malformed := by
  rw [malformed_ofRowsFrom, malformed_ofRowsFrom, malformed_ofRowsFrom, List.zipIdx_append,
    List.filter_append, List.map_append]

/-- A strict extraction gives the items if every line is read, and else the malformed rows. -/
lemma strict_ofRowsFrom (index : Nat) (rows : List Text) :
    let e := ofRowsFrom bucket read keep index rows
    e.strict = if ∀ line ∈ rows, (read line).isSome = true then .ok e.items
      else .error e.malformed := by
  intro e
  unfold strict
  simp only [List.isEmpty_iff, e, malformed_eq_nil_iff]

end Rows

end Extraction

namespace Report

/-- A view accounts for every line of a bucket exactly once. What is read of a line is an item,
unless it fails `keep`, and a line that is not read is malformed. -/
structure AccountsFor {α : Type} (view : Report → Extraction α) (bucket : Bucket)
    (read : Text → Option α) (keep : α → Bool) : Prop where
  /-- Malformed rows are listed in the order of the bucket, none of them twice. -/
  increasing : ∀ report, (view report).malformed.Pairwise (·.index < ·.index)
  /-- They are exactly the lines that are not read, each with the bucket and its place there. -/
  mem_malformed_iff : ∀ report row, row ∈ (view report).malformed ↔
    row.bucket = bucket ∧ (report.get bucket)[row.index]? = some row.line ∧ read row.line = none
  /-- The items are what is read of the other lines, in the order of the bucket. -/
  items_eq : ∀ report, (view report).items = ((report.get bucket).filterMap read).filter keep
  /-- A bucket in two parts gives the items of the first part and those of the second. -/
  items_append : ∀ first second whole,
    whole.get bucket = first.get bucket ++ second.get bucket →
    (view whole).items = (view first).items ++ (view second).items
  /-- It gives the malformed rows of both, where those of the second part stand further down. -/
  malformed_append : ∀ first second whole,
    whole.get bucket = first.get bucket ++ second.get bucket →
    (view whole).malformed = (view first).malformed ++
      (view second).malformed.map fun row =>
        { row with index := row.index + (first.get bucket).length }
  /-- A strict view gives the items if every line is read, and else all malformed rows. -/
  strict_eq : ∀ report, (view report).strict
    = if ∀ line ∈ report.get bucket, (read line).isSome = true then .ok (view report).items
      else .error (view report).malformed

/-- The walk down a bucket accounts for every line. -/
lemma accountsFor_ofBucket {α : Type} (bucket : Bucket) (read : Text → Option α)
    (keep : α → Bool) :
    AccountsFor (fun report => .ofBucket report bucket read keep) bucket read keep where
  increasing report := Extraction.pairwise_malformed bucket read keep 0 (report.get bucket)
  mem_malformed_iff report := Extraction.mem_malformed_iff bucket read keep (report.get bucket)
  items_eq report := Extraction.items_ofRowsFrom bucket read keep 0 (report.get bucket)
  items_append first second whole h := by
    unfold Extraction.ofBucket
    rw [Extraction.items_ofRowsFrom, Extraction.items_ofRowsFrom, Extraction.items_ofRowsFrom, h,
      List.filterMap_append, List.filter_append]
  malformed_append first second whole h := by
    unfold Extraction.ofBucket
    rw [h, Extraction.malformed_append, Extraction.malformed_add]
  strict_eq report := Extraction.strict_ofRowsFrom bucket read keep 0 (report.get bucket)

/-- Content is a text that is neither empty nor a run of `-`. -/
lemma isContent_eq : isContent = fun text => !(text.isEmpty || text.all (· == '-')) := by
  funext text
  unfold isContent Line.isRule Line.isRunOf
  cases text.isEmpty <;> simp

/-- **Every view accounts for every line of its bucket**, whatever the buckets of a report hold. The
raw and the full input drop texts that are empty or a run of `-`; token rows drop nothing. -/
theorem views_account_for_every_line :
    AccountsFor rawInput .inputs Line.rowContent?
      (fun text => !(text.isEmpty || text.all (· == '-'))) ∧
    AccountsFor fullInput .prompts (fun line => (Line.prompt? line).map Prompt.text)
      (fun text => !(text.isEmpty || text.all (· == '-'))) ∧
    AccountsFor tokenRows .tokens Line.tokenCells? (fun _ => true) := by
  rw [← isContent_eq]
  refine ⟨?_, ?_, ?_⟩
  · exact accountsFor_ofBucket .inputs _ _
  · exact accountsFor_ofBucket .prompts _ _
  · exact accountsFor_ofBucket .tokens _ _

/-- A bucket in two parts: a rule in the content column is dropped without a trace, and a line that
is no row is reported at its place in the whole bucket. -/
theorem views_account_for_every_line_two_parts :
    let first : Report := { inputs := ["1|a|x = 1".toList, "no row".toList] }
    let second : Report := { inputs := ["2|b|---".toList, "".toList, "3|c|y = 2".toList] }
    let whole : Report := { inputs := first.inputs ++ second.inputs }
    whole.get .inputs = first.get .inputs ++ second.get .inputs ∧
      whole.rawInput.items = ["x = 1".toList, "y = 2".toList] ∧
      whole.rawInput.malformed = [⟨.inputs, 1, "no row".toList⟩, ⟨.inputs, 3, []⟩] := by
  intro first second whole
  have hrows : whole.get .inputs = first.get .inputs ++ second.get .inputs := rfl
  obtain ⟨hraw, -, -⟩ := views_account_for_every_line
  refine ⟨hrows, ?_, ?_⟩
  · rw [hraw.items_append first second whole hrows]
    decide
  · rw [hraw.malformed_append first second whole hrows]
    decide

end Report

end SolverInput
