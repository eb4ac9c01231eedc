import SolverInput.Proofs.Report.Reader
import Mathlib.Data.List.Basic

/-!
# Accounting for every line

A reader carries a state, but the fate of a line does not need one: it is decided by the last
section marker before the line, the last header after that marker that opened a table, and whether a
rule stands in between. Here this rule is stated on its own, over a document together with the
lines of it that are passed over (`Reading`), and then shown to be what the reader does:

* `Reading.InSection` and `Reading.InTable`, the place of a line by last occurrences;
* `Reading.SkipRule`, which lines are passed over, and `skipRule_unique`: the rule settles it;
* `stands_of_agrees`, the invariant: the section that a reader is in is the place of its line;
* `get_ofLines_eq_pick`: a bucket is the lines whose index has a given fate, in order.
-/

namespace SolverInput

/-! ## Last occurrences -/

/-- `m` is the last index before `i` with the property `p`. -/
def IsLastBefore (p : Nat → Prop) (i m : Nat) : Prop :=
  m < i ∧ p m ∧ ∀ j < i, m < j → ¬ p j

section LastBefore

variable {p : Nat → Prop} {i m m' : Nat}

lemma IsLastBefore.unique (h : IsLastBefore p i m) (h' : IsLastBefore p i m') : m = m' := by
  obtain ⟨hm, hpm, hmax⟩ := h
  obtain ⟨hm', hpm', hmax'⟩ := h'
  rcases Nat.lt_trichotomy m m' with hlt | heq | hgt
  · exact absurd hpm' (hmax m' hm' hlt)
  · exact heq
  · exact absurd hpm (hmax' m hm hgt)

/-- An index with the property becomes the last one. -/
lemma isLastBefore_succ_of (hi : p i) : IsLastBefore p (i + 1) m ↔ m = i := by
  constructor
  · rintro ⟨hm, -, hmax⟩
    by_contra hne
    exact hmax i (by omega) (by omega) hi
  · rintro rfl
    exact ⟨by omega, hi, fun j hj hmj => by omega⟩

/-- An index without the property changes nothing. -/
lemma isLastBefore_succ_of_not (hi : ¬ p i) :
    IsLastBefore p (i + 1) m ↔ IsLastBefore p i m := by
  constructor
  · rintro ⟨hm, hpm, hmax⟩
    have hne : m ≠ i := fun h => hi (h ▸ hpm)
    exact ⟨by omega, hpm, fun j hj hmj => hmax j (by omega) hmj⟩
  · rintro ⟨hm, hpm, hmax⟩
    refine ⟨by omega, hpm, fun j hj hmj => ?_⟩
    by_cases hji : j = i
    · exact hji ▸ hi
    · exact hmax j (by omega) hmj

instance [DecidablePred p] : Decidable (IsLastBefore p i m) :=
  inferInstanceAs (Decidable (_ ∧ _ ∧ _))

end LastBefore

/-! ## The place of a line -/

/-- A document together with the lines of it that are passed over. -/
structure Reading where
  lines : List Text
  skipped : Nat → Bool

namespace Reading

variable (R : Reading)

/-- The class of line `i`, if there is such a line and it is not passed over. -/
def classAt (i : Nat) : Option LineClass :=
  if R.skipped i then none else R.lines[i]?.map Line.classify

/-- Line `i` is read as a section marker. -/
def MarkerAt (i : Nat) : Prop :=
  (R.classAt i).any LineClass.isMarker = true

/-- Line `i` is read as a header that opens a table, which is to say that the line after it is
passed over. -/
def OpeningAt (i : Nat) : Prop :=
  (R.classAt i).any LineClass.isHeader = true ∧ R.skipped (i + 1) = true

/-- The last section marker read before line `i` has this label. -/
def InSection (label : Text) (i : Nat) : Prop :=
  ∃ m, IsLastBefore R.MarkerAt i m ∧ R.classAt m = some (.sectionStart label)

/-- A table of this kind is open at line `i`: the last section marker before the line opens a
debug block, the last table opened after that marker is of this kind, and no rule has been read
since. -/
def InTable (kind : TableKind) (i : Nat) : Prop :=
  ∃ m, IsLastBefore R.MarkerAt i m ∧ R.classAt m = some (.sectionStart Line.debugLabel) ∧
    ∃ h, m < h ∧ IsLastBefore R.OpeningAt i h ∧ R.classAt h = some (.tableHeader kind) ∧
      ∀ j < i, h < j → R.classAt j ≠ some .rule

/-- Line `i` lies in a debug block, and no table is open. -/
def BetweenTables (i : Nat) : Prop :=
  R.InSection Line.debugLabel i ∧ ∀ kind, ¬ R.InTable kind i

/-- The rule for passing over lines: the first line is read, and a line is passed over exactly if
the line before it is read, is a table header, and lies in a debug block with no table open. -/
structure SkipRule : Prop where
  first : R.skipped 0 = false
  next : ∀ i < R.lines.length, R.skipped (i + 1) = true ↔
    R.skipped i = false ∧ (∃ kind, R.lines[i]?.map Line.classify = some (.tableHeader kind)) ∧
      R.BetweenTables i

/-- Line `i` is a macro definition: it is read, is no section marker, and the last marker before
it opens the macro section. -/
def StoredAsMacro (i : Nat) : Prop :=
  (R.classAt i).any (fun c => !c.isMarker) = true ∧ R.InSection Line.macroLabel i

/-- Line `i` is a row of a table: it is read, is neither a section marker nor a rule, and a table
of this kind is open. -/
def StoredAsRow (kind : TableKind) (i : Nat) : Prop :=
  (R.classAt i).any (fun c => !c.isMarker && c != .rule) = true ∧ R.InTable kind i

/-- Line `i` is read and is a prompt. -/
def KeptAsPrompt (i : Nat) : Prop :=
  R.skipped i = false ∧ R.lines[i]?.any (fun line => (Line.prompt? line).isSome) = true

/-- Line `i` is filed under a bucket. -/
def Fate : Bucket → Nat → Prop
  | .macros => R.StoredAsMacro
  | .inputs => R.StoredAsRow .inputs
  | .tokens => R.StoredAsRow .tokens
  | .vars => R.StoredAsRow .vars
  | .functions => R.StoredAsRow .functions
  | .prompts => R.KeptAsPrompt

/-! ### Specifications that can be run -/

instance (i : Nat) : Decidable (R.MarkerAt i) :=
  inferInstanceAs (Decidable (_ = true))

instance (i : Nat) : Decidable (R.OpeningAt i) :=
  inferInstanceAs (Decidable (_ ∧ _))

instance (label : Text) (i : Nat) : Decidable (R.InSection label i) :=
  decidable_of_iff
    (∃ m < i, IsLastBefore R.MarkerAt i m ∧ R.classAt m = some (.sectionStart label))
    ⟨fun ⟨m, _, h⟩ => ⟨m, h⟩, fun ⟨m, h⟩ => ⟨m, h.1.1, h⟩⟩

instance (kind : TableKind) (i : Nat) : Decidable (R.InTable kind i) :=
  decidable_of_iff
    (∃ m < i, IsLastBefore R.MarkerAt i m ∧
      R.classAt m = some (.sectionStart Line.debugLabel) ∧
      ∃ h < i, m < h ∧ IsLastBefore R.OpeningAt i h ∧ R.classAt h = some (.tableHeader kind) ∧
        ∀ j < i, h < j → R.classAt j ≠ some .rule)
    ⟨fun ⟨m, _, hm, hl, h, _, hh⟩ => ⟨m, hm, hl, h, hh⟩,
      fun ⟨m, hm, hl, h, hh⟩ => ⟨m, hm.1, hm, hl, h, hh.2.1.1, hh⟩⟩

instance : DecidablePred R.StoredAsMacro := fun _ =>
  inferInstanceAs (Decidable (_ ∧ _))

instance (kind : TableKind) : DecidablePred (R.StoredAsRow kind) := fun _ =>
  inferInstanceAs (Decidable (_ ∧ _))

instance : DecidablePred R.KeptAsPrompt := fun _ =>
  inferInstanceAs (Decidable (_ ∧ _))

instance : (bucket : Bucket) → DecidablePred (R.Fate bucket)
  | .macros => inferInstanceAs (DecidablePred R.StoredAsMacro)
  | .inputs => inferInstanceAs (DecidablePred (R.StoredAsRow .inputs))
  | .tokens => inferInstanceAs (DecidablePred (R.StoredAsRow .tokens))
  | .vars => inferInstanceAs (DecidablePred (R.StoredAsRow .vars))
  | .functions => inferInstanceAs (DecidablePred (R.StoredAsRow .functions))
  | .prompts => inferInstanceAs (DecidablePred R.KeptAsPrompt)

/-- The lines whose index has the property `p`, in document order. -/
def pick (p : Nat → Prop) [DecidablePred p] : List Text :=
  (R.lines.zipIdx.filter fun x => p x.2).map Prod.fst

/-! ## How the place of a line changes from line to line -/

variable {R}

section Step

variable {i : Nat} {label : Text} {kind : TableKind}

lemma inSection_of_inTable (h : R.InTable kind i) : R.InSection Line.debugLabel i := by
  obtain ⟨m, hm, hlabel, -⟩ := h
  exact ⟨m, hm, hlabel⟩

lemma inSection_succ_of_marker (hi : R.MarkerAt i) :
    R.InSection label (i + 1) ↔ R.classAt i = some (.sectionStart label) := by
  unfold InSection
  simp only [isLastBefore_succ_of hi]
  constructor
  · rintro ⟨m, rfl, h⟩
    exact h
  · intro h
    exact ⟨i, rfl, h⟩

lemma inSection_succ_of_not_marker (hi : ¬ R.MarkerAt i) :
    R.InSection label (i + 1) ↔ R.InSection label i := by
  unfold InSection
  simp only [isLastBefore_succ_of_not hi]

/-- No table is open right after a marker. -/
lemma not_inTable_succ_of_marker (hi : R.MarkerAt i) : ¬ R.InTable kind (i + 1) := by
  rintro ⟨m, hm, -, h, hmh, hh, -⟩
  have hmi : m = i := (isLastBefore_succ_of hi).1 hm
  have hlt : h < i + 1 := hh.1
  omega

/-- No table is open right after a rule. -/
lemma not_inTable_succ_of_rule (hi : R.classAt i = some .rule) : ¬ R.InTable kind (i + 1) := by
  rintro ⟨m, -, -, h, -, hh, hclass, hrule⟩
  have hne : h ≠ i := by
    rintro rfl
    rw [hi] at hclass
    cases hclass
  have hlt : h < i + 1 := hh.1
  exact hrule i (by omega) (by omega) hi

/-- The table that is open right after an opening header is that of the header. -/
lemma inTable_succ_of_opening (hm : ¬ R.MarkerAt i) (ho : R.OpeningAt i) :
    R.InTable kind (i + 1) ↔
      R.InSection Line.debugLabel i ∧ R.classAt i = some (.tableHeader kind) := by
  unfold InTable InSection
  simp only [isLastBefore_succ_of_not hm, isLastBefore_succ_of ho]
  constructor
  · rintro ⟨m, hlast, hlabel, h, -, rfl, hclass, -⟩
    exact ⟨⟨m, hlast, hlabel⟩, hclass⟩
  · rintro ⟨⟨m, hlast, hlabel⟩, hclass⟩
    exact ⟨m, hlast, hlabel, i, hlast.1, rfl, hclass, fun j hj hij => by omega⟩

/-- Every other line leaves the open table as it is. -/
lemma inTable_succ_of_other (hm : ¬ R.MarkerAt i) (ho : ¬ R.OpeningAt i)
    (hr : R.classAt i ≠ some .rule) : R.InTable kind (i + 1) ↔ R.InTable kind i := by
  unfold InTable
  simp only [isLastBefore_succ_of_not hm, isLastBefore_succ_of_not ho]
  constructor
  · rintro ⟨m, hlast, hlabel, h, hmh, hh, hclass, hrule⟩
    exact ⟨m, hlast, hlabel, h, hmh, hh, hclass, fun j hj hhj => hrule j (by omega) hhj⟩
  · rintro ⟨m, hlast, hlabel, h, hmh, hh, hclass, hrule⟩
    refine ⟨m, hlast, hlabel, h, hmh, hh, hclass, fun j hj hhj => ?_⟩
    by_cases hji : j = i
    · exact hji ▸ hr
    · exact hrule j (by omega) hhj

lemma inSection_unique {label' : Text} (h : R.InSection label i) (h' : R.InSection label' i) :
    label = label' := by
  obtain ⟨m, hm, hlabel⟩ := h
  obtain ⟨m', hm', hlabel'⟩ := h'
  rw [hm.unique hm', hlabel'] at hlabel
  cases hlabel
  rfl

lemma inTable_unique {kind' : TableKind} (h : R.InTable kind i) (h' : R.InTable kind' i) :
    kind = kind' := by
  obtain ⟨-, -, -, o, -, ho, hclass, -⟩ := h
  obtain ⟨-, -, -, o', -, ho', hclass', -⟩ := h'
  rw [ho.unique ho', hclass'] at hclass
  cases hclass
  rfl

end Step

/-! ## The invariant -/

variable (R) in
/-- The section of line `i`, by last occurrences. -/
def Stands (i : Nat) : Section → Prop
  | .none => ¬ R.InSection Line.macroLabel i ∧ ¬ R.InSection Line.debugLabel i
  | .macros => R.InSection Line.macroLabel i
  | .debug => R.BetweenTables i
  | .table kind => R.InTable kind i

lemma not_inSection_macros_and_debug {i : Nat} (hm : R.InSection Line.macroLabel i)
    (hd : R.InSection Line.debugLabel i) : False := by
  have h : Line.macroLabel = Line.debugLabel := inSection_unique hm hd
  exact absurd h (by decide)

/-- A line has one section. -/
lemma stands_unique {i : Nat} {s s' : Section} (h : R.Stands i s) (h' : R.Stands i s') :
    s = s' := by
  -- the last marker tells macros, debug block and outside apart, the last header the tables
  cases s <;> cases s' <;> simp only [Stands, BetweenTables] at h h'
  case none.none => rfl
  case none.macros => exact absurd h' h.1
  case none.debug => exact absurd h'.1 h.2
  case none.table => exact absurd (inSection_of_inTable h') h.2
  case macros.none => exact absurd h h'.1
  case macros.macros => rfl
  case macros.debug => exact (not_inSection_macros_and_debug h h'.1).elim
  case macros.table => exact (not_inSection_macros_and_debug h (inSection_of_inTable h')).elim
  case debug.none => exact absurd h.1 h'.2
  case debug.macros => exact (not_inSection_macros_and_debug h' h.1).elim
  case debug.debug => rfl
  case debug.table kind => exact absurd h' (h.2 kind)
  case table.none => exact absurd (inSection_of_inTable h) h'.2
  case table.macros => exact (not_inSection_macros_and_debug h' (inSection_of_inTable h)).elim
  case table.debug kind => exact absurd h (h'.2 kind)
  case table.table => rw [inTable_unique h h']

section Invariant

variable {i : Nat} {c : LineClass} {s : Section}

lemma markerAt_iff (hi : R.classAt i = some c) : R.MarkerAt i ↔ c.isMarker = true := by
  unfold MarkerAt
  rw [hi, Option.any_some]

/-- A line that is passed over changes no section. -/
lemma stands_succ_of_unread (hi : R.classAt i = none) (h : R.Stands i s) :
    R.Stands (i + 1) s := by
  have hm : ¬ R.MarkerAt i := by simp [MarkerAt, hi]
  have ho : ¬ R.OpeningAt i := by simp [OpeningAt, hi]
  have hr : R.classAt i ≠ some .rule := by simp [hi]
  cases s <;>
    simp only [Stands, BetweenTables, inSection_succ_of_not_marker hm,
      inTable_succ_of_other hm ho hr] at h ⊢ <;>
    exact h

/-- After a marker the section is the one that its label names. -/
lemma stands_succ_of_marker (hi : R.classAt i = some c) (hc : c.isMarker = true) :
    R.Stands (i + 1) (s.step c).next := by
  have hm : R.MarkerAt i := (markerAt_iff hi).2 hc
  have hsec : ∀ label, R.InSection label (i + 1) ↔ c = .sectionStart label := fun label => by
    rw [inSection_succ_of_marker hm, hi, Option.some.injEq]
  cases c with
  | sectionStart label =>
    simp only [Section.step, Section.ofLabel]
    split_ifs with hmac hdeb
    · rw [hmac] at hsec
      exact (hsec _).2 rfl
    · rw [hdeb] at hsec
      exact ⟨(hsec _).2 rfl, fun kind => not_inTable_succ_of_marker hm⟩
    · refine ⟨fun h => hmac ?_, fun h => hdeb ?_⟩
      · simpa using (hsec _).1 h
      · simpa using (hsec _).1 h
  | sectionEnd =>
    simp only [Section.step]
    exact ⟨fun h => by simpa using (hsec _).1 h, fun h => by simpa using (hsec _).1 h⟩
  | _ => simp [LineClass.isMarker] at hc

/-- **One line.** If line `i` is read in section `s`, and the line after it is passed over exactly
if line `i` is a header in a debug block, then line `i + 1` stands where the transition table
says. -/
lemma stands_succ_of_read (hi : R.classAt i = some c) (h : R.Stands i s)
    (hskip : R.skipped (i + 1) = true ↔ s = .debug ∧ c.isHeader = true) :
    R.Stands (i + 1) (s.step c).next := by
  by_cases hc : c.isMarker = true
  · exact stands_succ_of_marker hi hc
  -- from here on the last marker stays the same, and only the open table can change
  have hm : ¬ R.MarkerAt i := fun hmark => hc ((markerAt_iff hi).1 hmark)
  have hopen : R.OpeningAt i ↔ c.isHeader = true ∧ s = .debug := by
    simp only [OpeningAt, hi, Option.any_some, hskip]
    tauto
  have hsec : ∀ label, R.InSection label (i + 1) ↔ R.InSection label i := fun label =>
    inSection_succ_of_not_marker hm
  cases s with
  | none =>
    have hnext : ((Section.none).step c).next = .none := by
      cases c <;> simp_all [Section.step, LineClass.isMarker]
    rw [hnext]
    exact ⟨fun hs => h.1 ((hsec _).1 hs), fun hs => h.2 ((hsec _).1 hs)⟩
  | macros =>
    have hnext : (Section.macros.step c).next = .macros := by
      cases c <;> simp_all [Section.step, LineClass.isMarker]
    rw [hnext]
    exact (hsec _).2 h
  | debug =>
    obtain ⟨hdeb, htab⟩ := h
    cases c with
    | tableHeader kind =>
      exact (inTable_succ_of_opening hm (hopen.2 ⟨rfl, rfl⟩)).2 ⟨hdeb, hi⟩
    | rule => exact ⟨(hsec _).2 hdeb, fun kind => not_inTable_succ_of_rule hi⟩
    | text =>
      have ho : ¬ R.OpeningAt i := by simp [hopen, LineClass.isHeader]
      exact ⟨(hsec _).2 hdeb, fun kind hin =>
        htab kind ((inTable_succ_of_other hm ho (by simp [hi])).1 hin)⟩
    | _ => simp [LineClass.isMarker] at hc
  | table kind =>
    -- a header inside a table is a row like any other
    have ho : ¬ R.OpeningAt i := by simp [hopen]
    by_cases hr : c = .rule
    · subst hr
      exact ⟨(hsec _).2 (inSection_of_inTable h), fun kind' => not_inTable_succ_of_rule hi⟩
    · have hnext : ((Section.table kind).step c).next = .table kind := by
        cases c <;> simp_all [Section.step, LineClass.isMarker]
      rw [hnext]
      exact (inTable_succ_of_other hm ho (by simp [hi, hr])).2 h

end Invariant

/-! ## Along a run -/

variable (R) in
/-- Up to line `i` the reader passes over the same lines. -/
def Agrees (i : Nat) : Prop :=
  ∀ j ≤ i, R.skipped j = (Reader.reaching R.lines j).skipping

/-- **The invariant.** As long as the reader passes over the same lines, the section that it is in
is the section of its line by last occurrences. -/
lemma stands_of_agrees {i : Nat} (hi : i ≤ R.lines.length) (hR : R.Agrees i) :
    R.Stands i (Reader.reaching R.lines i).place := by
  induction i with
  | zero =>
    -- no marker stands before the first line
    rw [Reader.reaching_zero]
    exact ⟨fun ⟨m, hm, _⟩ => by have := hm.1; omega, fun ⟨m, hm, _⟩ => by have := hm.1; omega⟩
  | succ i ih =>
    have hstands := ih (by omega) fun j hj => hR j (by omega)
    obtain ⟨line, hline⟩ : ∃ line, R.lines[i]? = some line :=
      ⟨_, List.getElem?_eq_getElem (by omega)⟩
    have hthis := hR i (by omega)
    have hnext := hR (i + 1) (by omega)
    rw [Reader.reaching_succ hline] at hnext ⊢
    by_cases hskip : (Reader.reaching R.lines i).skipping = true
    · rw [Reader.next_of_skipping hskip]
      exact stands_succ_of_unread (by simp [classAt, hthis, hskip]) hstands
    · rw [Bool.not_eq_true] at hskip
      rw [Reader.next_place_of_reading hskip]
      refine stands_succ_of_read (by simp [classAt, hthis, hskip, hline]) hstands ?_
      rw [hnext, Reader.next_skipping_iff, LineClass.isHeader_iff]
      simp [hskip]

/-- The section that a reader is in, as a statement on last occurrences. -/
lemma place_eq_iff {i : Nat} (hi : i ≤ R.lines.length) (hR : R.Agrees i) (s : Section) :
    (Reader.reaching R.lines i).place = s ↔ R.Stands i s := by
  constructor
  · rintro rfl
    exact stands_of_agrees hi hR
  · intro h
    exact stands_unique (stands_of_agrees hi hR) h

/-- When the reader passes over the next line, as a statement on last occurrences. -/
lemma reaching_succ_skipping_iff {i : Nat} (hi : i < R.lines.length) (hR : R.Agrees i) :
    (Reader.reaching R.lines (i + 1)).skipping = true ↔
      R.skipped i = false ∧ (∃ kind, R.lines[i]?.map Line.classify = some (.tableHeader kind)) ∧
        R.BetweenTables i := by
  have hline : R.lines[i]? = some R.lines[i] := List.getElem?_eq_getElem hi
  have hdebug : (Reader.reaching R.lines i).place = .debug ↔ R.BetweenTables i :=
    place_eq_iff (by omega) hR .debug
  rw [Reader.reaching_succ hline, Reader.next_skipping_iff, hR i (by omega), hdebug, hline]
  simp only [Option.map_some, Option.some.injEq]
  tauto

/-- A document with the lines that its reader passes over. -/
def ofLines (lines : List Text) : Reading where
  lines := lines
  skipped := fun i => (Reader.reaching lines i).skipping

/-- The reader follows the rule for passing over lines. -/
lemma skipRule_ofLines (lines : List Text) : (ofLines lines).SkipRule where
  first := rfl
  next := fun _ hi => reaching_succ_skipping_iff (R := ofLines lines) hi fun _ _ => rfl

/-- Whatever follows the rule passes over the same lines as the reader. -/
lemma skipRule_unique (hR : R.SkipRule) {i : Nat} (hi : i ≤ R.lines.length) : R.Agrees i := by
  induction i with
  | zero =>
    intro j hj
    obtain rfl : j = 0 := by omega
    exact hR.first
  | succ i ih =>
    have hprev := ih (by omega)
    intro j hj
    -- only the last index is new, and there both follow the same rule
    by_cases hji : j ≤ i
    · exact hprev j hji
    · obtain rfl : j = i + 1 := by omega
      rw [Bool.eq_iff_iff, hR.next i (by omega), reaching_succ_skipping_iff (by omega) hprev]

/-! ## Buckets -/

lemma fate_bucket (kind : TableKind) (i : Nat) : R.Fate kind.bucket i ↔ R.StoredAsRow kind i := by
  cases kind <;> rfl

/-- The fate of a line is what the reader does with it. -/
lemma fate_ofLines_iff {lines : List Text} {i : Nat} {line : Text} (h : lines[i]? = some line)
    (bucket : Bucket) :
    (ofLines lines).Fate bucket i ↔ (Reader.reaching lines i).Files line bucket := by
  have hi : i < lines.length := (List.getElem?_eq_some_iff.1 h).1
  have hplace : ∀ s, (Reader.reaching lines i).place = s ↔ (ofLines lines).Stands i s := fun s =>
    place_eq_iff (R := ofLines lines) (Nat.le_of_lt hi) (fun _ _ => rfl) s
  have hclass : (ofLines lines).classAt i
      = if (Reader.reaching lines i).skipping then none else some (Line.classify line) := by
    simp [classAt, ofLines, h]
  -- the four kinds of rows are alike
  have hrow : ∀ kind : TableKind, (ofLines lines).Fate kind.bucket i ↔
      (Reader.reaching lines i).Files line kind.bucket := fun kind => by
    rw [fate_bucket, Reader.files_bucket_iff, hplace]
    unfold StoredAsRow
    rw [hclass]
    cases (Reader.reaching lines i).skipping <;> simp [Stands, and_comm, and_assoc]
  cases bucket with
  | macros =>
    rw [Reader.files_macros_iff, hplace]
    show (ofLines lines).StoredAsMacro i ↔ _
    unfold StoredAsMacro
    rw [hclass]
    cases (Reader.reaching lines i).skipping <;> simp [Stands, and_comm]
  | prompts =>
    rw [Reader.files_prompts_iff]
    show (ofLines lines).KeptAsPrompt i ↔ _
    simp [KeptAsPrompt, ofLines, h]
  | inputs => exact hrow .inputs
  | tokens => exact hrow .tokens
  | vars => exact hrow .vars
  | functions => exact hrow .functions

/-- Only lines of the document have a fate. -/
lemma lt_length_of_fate {bucket : Bucket} {i : Nat} (h : R.Fate bucket i) :
    i < R.lines.length := by
  by_contra hi
  have hnone : R.lines[i]? = none := List.getElem?_eq_none (by omega)
  have hclass : R.classAt i = none := by simp [classAt, hnone]
  cases bucket <;>
    simp [Fate, StoredAsMacro, StoredAsRow, KeptAsPrompt, hclass, hnone] at h

end Reading

namespace Report

/-- What a run files under a bucket are the lines at which the reader files something there. -/
private lemma linesIn_file_eq (lines : List Text) (bucket : Bucket) (p : Nat → Prop)
    [DecidablePred p] (r : Reader) (n : Nat)
    (hp : ∀ i line, lines[i]? = some line →
      (p (n + i) ↔ (r.after (lines.take i)).Files line bucket)) :
    linesIn (r.file lines) bucket
      = ((lines.zipIdx n).filter fun x => p x.2).map Prod.fst := by
  induction lines generalizing r n with
  | nil => rfl
  | cons line rest ih =>
    have hfirst : p n ↔ r.Files line bucket := hp 0 line rfl
    have hrest := ih (r.next line) (n + 1) fun i line' hi => by
      have := hp (i + 1) line' hi
      rwa [show n + (i + 1) = n + 1 + i by omega] at this
    rw [Reader.file_cons, linesIn_append, Reader.linesIn_filings, hrest, List.zipIdx_cons]
    by_cases h : p n
    · rw [if_pos (hfirst.1 h), List.filter_cons_of_pos (by simpa using h)]
      rfl
    · rw [if_neg fun hf => h (hfirst.2 hf), List.filter_cons_of_neg (by simpa using h)]
      rfl

/-- A bucket holds the lines with that fate, in document order. -/
lemma get_ofLines_eq_pick (lines : List Text) (bucket : Bucket) :
    (ofLines lines).get bucket
      = (Reading.ofLines lines).pick ((Reading.ofLines lines).Fate bucket) := by
  rw [get_ofLines]
  refine linesIn_file_eq lines bucket _ {} 0 fun i line hi => ?_
  rw [Nat.zero_add]
  exact Reading.fate_ofLines_iff hi bucket

/-- **Every line is accounted for by last occurrences.** The reader passes over lines by
`Reading.SkipRule`, which no other choice of lines satisfies; each line is filed once under each
bucket that is its fate and under no other; each bucket holds the lines with that fate in document
order; and apart from the prompts no line has two fates. -/
theorem ofLines_accounts_for_every_line (lines : List Text) :
    let R := Reading.ofLines lines
    R.SkipRule ∧
    (∀ R' : Reading, R'.lines = lines → R'.SkipRule →
      ∀ i ≤ lines.length, R'.skipped i = R.skipped i) ∧
    (∀ i line, lines[i]? = some line → ∀ bucket,
      linesIn ((Reader.reaching lines i).filings line) bucket
        = if R.Fate bucket i then [line] else []) ∧
    (∀ bucket, (ofLines lines).get bucket = R.pick (R.Fate bucket)) ∧
    (∀ i b b', b ≠ .prompts → b' ≠ .prompts → R.Fate b i → R.Fate b' i → b = b') := by
  refine ⟨Reading.skipRule_ofLines lines, ?_, ?_, get_ofLines_eq_pick lines, ?_⟩
  · rintro R' rfl hR' i hi
    exact Reading.skipRule_unique hR' hi i (Nat.le_refl i)
  · intro i line hi bucket
    rw [Reader.linesIn_filings]
    exact if_congr (Reading.fate_ofLines_iff hi bucket).symm rfl rfl
  · intro i b b' hb hb' h h'
    have hi : i < lines.length := Reading.lt_length_of_fate h
    have hline : lines[i]? = some lines[i] := List.getElem?_eq_getElem hi
    rw [Reading.fate_ofLines_iff hline] at h h'
    exact Reader.files_unique hb hb' h h'

-- a marker under a header is passed over, so the table stays open
example :
    let R := Reading.ofLines
      ["=D E B U G=".toList, "NO. VARIABLE |VALUE".toList, "=".toList, "1 |x".toList]
    R.skipped 2 = true ∧ R.pick (R.Fate .vars) = ["1 |x".toList] := by decide

end Report

end SolverInput
