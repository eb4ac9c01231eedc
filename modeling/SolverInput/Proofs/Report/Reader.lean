import SolverInput.Report.Basic
import Mathlib.Data.List.Basic

/-!
# Runs of a reader

What a reader does over many lines, from what it does on one:

* `Reader.after`, the reader that a run leaves behind, and `Reader.file_append`, which cuts a run
  at any line;
* the transition table read backwards: which classes forget the section, which lines are stored,
  and when the next line is passed over (`Reader.next_skipping_iff`);
* `Reader.Files`, the buckets that one line goes to, and `linesIn_filings`, which says that a line
  is filed once in each of them and nowhere else.

Proofs about reports use these and leave `Section.step` and `Reader.filings` closed.
-/

namespace SolverInput

/-! ## Section markers and table headers -/

/-- A section marker is the start of a section with any label, or a bare run of `=`. -/
def LineClass.isMarker : LineClass → Bool
  | .sectionStart _ => true
  | .sectionEnd => true
  | _ => false

/-- A header of a debug table of any kind. -/
def LineClass.isHeader : LineClass → Bool
  | .tableHeader _ => true
  | _ => false

lemma LineClass.isHeader_iff {c : LineClass} :
    c.isHeader = true ↔ ∃ kind, c = .tableHeader kind := by
  cases c <;> simp [LineClass.isHeader]

/-- A bucket that collects the rows of a table is not the one for prompts. -/
lemma TableKind.bucket_ne_prompts (kind : TableKind) : kind.bucket ≠ .prompts := by
  cases kind <;> simp [TableKind.bucket]

lemma TableKind.bucket_ne_macros (kind : TableKind) : kind.bucket ≠ .macros := by
  cases kind <;> simp [TableKind.bucket]

lemma TableKind.bucket_injective {kind kind' : TableKind} (h : kind.bucket = kind'.bucket) :
    kind = kind' := by
  cases kind <;> cases kind' <;> simp_all [TableKind.bucket]

namespace Section

/-- A marker forgets the section, and with it every open table. -/
lemma step_of_isMarker {c : LineClass} (hc : c.isMarker = true) (s s' : Section) :
    s.step c = s'.step c := by
  unfold Section.step
  cases c <;> simp_all [LineClass.isMarker]

/-- Outside the sections all but markers are dropped. -/
lemma step_none {c : LineClass} (hc : c.isMarker = false) :
    Section.none.step c = ⟨.none, .discard⟩ := by
  unfold Section.step
  cases c <;> simp_all [LineClass.isMarker]

/-- The macro section stores all but markers. -/
lemma step_macros {c : LineClass} (hc : c.isMarker = false) :
    Section.macros.step c = ⟨.macros, .store .macros⟩ := by
  unfold Section.step
  cases c <;> simp_all [LineClass.isMarker]

/-- Between two tables all but markers and headers are dropped. -/
lemma step_debug {c : LineClass} (hc : c.isMarker = false) (hh : ∀ kind, c ≠ .tableHeader kind) :
    Section.debug.step c = ⟨.debug, .discard⟩ := by
  unfold Section.step
  cases c <;> simp_all [LineClass.isMarker]

/-- A table stores all but markers and rules. -/
lemma step_table {c : LineClass} (kind : TableKind) (hc : c.isMarker = false) (hr : c ≠ .rule) :
    (Section.table kind).step c = ⟨.table kind, .store kind.bucket⟩ := by
  unfold Section.step
  cases c <;> simp_all [LineClass.isMarker]

/-- Only a header between two tables makes the reader pass over a line. -/
lemma action_eq_skipNext_iff (s : Section) (c : LineClass) :
    (s.step c).action = .skipNext ↔ s = .debug ∧ ∃ kind, c = .tableHeader kind := by
  unfold Section.step
  cases s <;> cases c <;> simp

/-- Only the macro section stores macro definitions. -/
lemma action_eq_store_macros_iff (s : Section) (c : LineClass) :
    (s.step c).action = .store .macros ↔ s = .macros ∧ c.isMarker = false := by
  unfold Section.step
  cases s <;> cases c <;> simp [LineClass.isMarker, TableKind.bucket_ne_macros]

/-- Only a table of the same kind stores rows of that kind. -/
lemma action_eq_store_bucket_iff (s : Section) (c : LineClass) (kind : TableKind) :
    (s.step c).action = .store kind.bucket ↔
      s = .table kind ∧ c.isMarker = false ∧ c ≠ .rule := by
  -- buckets of tables differ from each other and from that of macros
  have hinj : ∀ k : TableKind, k.bucket = kind.bucket ↔ k = kind := fun k =>
    ⟨TableKind.bucket_injective, fun h => h ▸ rfl⟩
  have hmac : ¬ Bucket.macros = kind.bucket := fun h => kind.bucket_ne_macros h.symm
  unfold Section.step
  cases s <;> cases c <;> simp [LineClass.isMarker, hinj, hmac]

/-- No section stores a line as a prompt. -/
lemma action_ne_store_prompts (s : Section) (c : LineClass) :
    (s.step c).action ≠ .store .prompts := by
  unfold Section.step
  cases s <;> cases c <;> simp [TableKind.bucket_ne_prompts]

end Section

namespace Reader

/-! ## The reader after a run -/

/-- Where the reader stands after consecutive lines. -/
def after (r : Reader) (lines : List Text) : Reader :=
  lines.foldl Reader.next r

@[simp] lemma after_nil (r : Reader) : r.after [] = r := rfl

@[simp] lemma after_cons (r : Reader) (line : Text) (rest : List Text) :
    r.after (line :: rest) = (r.next line).after rest := rfl

lemma after_append (r : Reader) (a b : List Text) : r.after (a ++ b) = (r.after a).after b := by
  unfold after
  rw [List.foldl_append]

/-- The reader that reaches line `i` of a document. -/
def reaching (lines : List Text) (i : Nat) : Reader :=
  Reader.after {} (lines.take i)

lemma reaching_zero (lines : List Text) : reaching lines 0 = {} := rfl

lemma reaching_succ {lines : List Text} {i : Nat} {line : Text} (h : lines[i]? = some line) :
    reaching lines (i + 1) = (reaching lines i).next line := by
  unfold reaching
  rw [List.take_add_one, h, after_append]
  rfl

@[simp] lemma file_nil (r : Reader) : r.file [] = [] := rfl

@[simp] lemma file_cons (r : Reader) (line : Text) (rest : List Text) :
    r.file (line :: rest) = r.filings line ++ (r.next line).file rest := rfl

/-- A run can be cut anywhere: the second part is read from where the first one ended. -/
lemma file_append (r : Reader) (a b : List Text) :
    r.file (a ++ b) = r.file a ++ (r.after a).file b := by
  induction a generalizing r with
  | nil => rfl
  | cons line rest ih =>
    rw [List.cons_append, file_cons, file_cons, after_cons, ih, List.append_assoc]

/-! ## One step -/

lemma eq_mk {r : Reader} {place : Section} {skipping : Bool} (hplace : r.place = place)
    (hskipping : r.skipping = skipping) : r = ⟨place, skipping⟩ := by
  subst hplace hskipping
  rfl

/-- A line that is passed over leaves the reader where it was. -/
lemma next_of_skipping {r : Reader} (h : r.skipping = true) (line : Text) :
    r.next line = ⟨r.place, false⟩ := by
  unfold next
  rw [if_pos h]

/-- Nothing is filed for a line that is passed over. -/
lemma filings_of_skipping {r : Reader} (h : r.skipping = true) (line : Text) :
    r.filings line = [] := by
  unfold filings
  rw [if_pos h]

/-- A line that is read moves the reader by the transition table. -/
lemma next_place_of_reading {r : Reader} (h : r.skipping = false) (line : Text) :
    (r.next line).place = (r.place.step (Line.classify line)).next := by
  unfold next
  rw [h]
  rfl

/-- The next line is passed over exactly if this one is read as a header between two tables. -/
lemma next_skipping_iff (r : Reader) (line : Text) :
    (r.next line).skipping = true ↔
      r.skipping = false ∧ r.place = .debug ∧ ∃ kind, Line.classify line = .tableHeader kind := by
  unfold next step
  cases hs : r.skipping with
  | true => simp
  | false => simp [Section.action_eq_skipNext_iff]

/-! ## Where a line is filed -/

/-- The reader files a line under a bucket: under `prompts` if it is a prompt, under any other
bucket if its section stores it there, and nowhere if it passes over the line. -/
def Files (r : Reader) (line : Text) (bucket : Bucket) : Prop :=
  r.skipping = false ∧
    if bucket = .prompts then (Line.prompt? line).isSome = true
    else (r.place.step (Line.classify line)).action = .store bucket

instance (r : Reader) (line : Text) (bucket : Bucket) : Decidable (r.Files line bucket) :=
  inferInstanceAs (Decidable (_ ∧ _))

lemma files_prompts_iff (r : Reader) (line : Text) :
    r.Files line .prompts ↔ r.skipping = false ∧ (Line.prompt? line).isSome = true := by
  simp [Files]

lemma files_macros_iff (r : Reader) (line : Text) :
    r.Files line .macros ↔
      r.skipping = false ∧ r.place = .macros ∧ (Line.classify line).isMarker = false := by
  simp [Files, Section.action_eq_store_macros_iff]

lemma files_bucket_iff (r : Reader) (line : Text) (kind : TableKind) :
    r.Files line kind.bucket ↔
      r.skipping = false ∧ r.place = .table kind ∧ (Line.classify line).isMarker = false ∧
        Line.classify line ≠ .rule := by
  simp [Files, kind.bucket_ne_prompts, Section.action_eq_store_bucket_iff]

/-- Apart from `prompts`, a line goes to one bucket at most. -/
lemma files_unique {r : Reader} {line : Text} {b b' : Bucket} (hb : b ≠ .prompts)
    (hb' : b' ≠ .prompts) (h : r.Files line b) (h' : r.Files line b') : b = b' := by
  have hstore := h.2
  have hstore' := h'.2
  rw [if_neg hb] at hstore
  rw [if_neg hb', hstore, Action.store.injEq] at hstore'
  exact hstore'

/-- What a section stores is added to the prompts. -/
private lemma linesIn_stored (action : Action) (line : Text) (prompt : List Filing)
    (bucket : Bucket) :
    Report.linesIn
        (match action with
          | .store stored => prompt ++ [⟨stored, line⟩]
          | _ => prompt) bucket
      = Report.linesIn prompt bucket ++ if action = .store bucket then [line] else [] := by
  unfold Report.linesIn
  cases action with
  | store stored =>
    rw [List.filter_append, List.map_append]
    by_cases hb : stored = bucket
    · simp [hb]
    · simp [hb]
  | discard => simp
  | skipNext => simp

/-- A line is filed once under each of its buckets, and under no other. -/
lemma linesIn_filings (r : Reader) (line : Text) (bucket : Bucket) :
    Report.linesIn (r.filings line) bucket = if r.Files line bucket then [line] else [] := by
  by_cases hs : r.skipping = true
  · simp [filings, Files, hs, Report.linesIn]
  · rw [Bool.not_eq_true] at hs
    simp only [filings, Files, hs, step, Bool.false_eq_true, if_false, true_and]
    refine (linesIn_stored _ _ _ _).trans ?_
    -- prompts come from the line alone, every other bucket from its section alone
    by_cases hb : bucket = .prompts
    · subst hb
      rw [if_neg (Section.action_ne_store_prompts r.place (Line.classify line))]
      by_cases hpr : (Line.prompt? line).isSome = true <;> simp [Report.linesIn, hpr]
    · by_cases hpr : (Line.prompt? line).isSome = true <;>
        simp [Report.linesIn, hpr, hb, Ne.symm hb]

end Reader

namespace Report

/-! ## Buckets of a run -/

lemma get_ofFilings (filings : List Filing) (bucket : Bucket) :
    (ofFilings filings).get bucket = linesIn filings bucket := by
  cases bucket <;> rfl

lemma linesIn_append (xs ys : List Filing) (bucket : Bucket) :
    linesIn (xs ++ ys) bucket = linesIn xs bucket ++ linesIn ys bucket := by
  unfold linesIn
  rw [List.filter_append, List.map_append]

/-- Each bucket of a report holds what the reader filed there. -/
lemma get_ofLines (lines : List Text) (bucket : Bucket) :
    (ofLines lines).get bucket = linesIn (Reader.file {} lines) bucket :=
  get_ofFilings _ _

/-- Two reports with the same buckets are equal. -/
lemma ext_get {x y : Report} (h : ∀ bucket, x.get bucket = y.get bucket) : x = y := by
  obtain ⟨xm, xi, xt, xv, xf, xp⟩ := x
  obtain ⟨ym, yi, yt, yv, yf, yp⟩ := y
  have hm := h .macros
  have hi := h .inputs
  have ht := h .tokens
  have hv := h .vars
  have hf := h .functions
  have hp := h .prompts
  simp only [get] at hm hi ht hv hf hp
  rw [hm, hi, ht, hv, hf, hp]

end Report

end SolverInput
