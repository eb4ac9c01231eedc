import SolverInput.Proofs.Report.SectionLabel
import SolverInput.Report.Prompt
import SolverInput.Report.Row
import Mathlib.Data.List.Basic

/-!
# One verdict for a line

`Line.classify` tries its patterns in a fixed order, and so does `Line.tableKind?`. Here the patterns
stand in lists (`structuralPatterns`, `columnPatterns`), so that another order is another list. The
order is of no account wherever at most one pattern accepts a line (`findSome?_of_perm`), and this is
read off the first characters: a marker starts with `=`, a rule with `-`, a header with a letter.
A marker with a label is told from one without by its middle, and two headers by their words.

Prompts and rows start with none of these characters, so they are plain text
(`classify_of_isPromptOrRow`) and leave a reader in its section (`after_of_isPromptOrRow`).
-/

namespace SolverInput

namespace Line

/-! ## Patterns in a list -/

/-- The structural patterns, in the order in which they are tried. -/
def structuralPatterns : List (Text → Option LineClass) :=
  [fun line => (sectionLabel? line).map .sectionStart,
    fun line => if isSectionEnd line then some .sectionEnd else none,
    fun line => (tableKind? line).map .tableHeader,
    fun line => if isRule line then some .rule else none]

/-- The table headers that spell out their columns, in the order in which they are tried. -/
def columnPatterns : List (Text → Option TableKind) :=
  [fun line => if startsWithColumns "LINE" "PROPERTY" "|CONTENT" line then some .inputs else none,
    fun line => if startsWithColumns "NO." "VARIABLE" "|VALUE" line then some .vars else none,
    fun line => if startsWithColumns "NO." "FUNCTIONS" "|CONTENT" line then some .functions else none]

/-- The general table header. -/
def numberedPattern (line : Text) : Option TableKind :=
  if isNumberedHeader line then some .tokens else none

/-- Tells whether a pattern accepts a line. -/
def accepts {α : Type} (line : Text) (pattern : Text → Option α) : Bool :=
  (pattern line).isSome

/-- If at most one pattern accepts a line, then the order of the patterns does not matter. -/
lemma findSome?_of_perm {α : Type} {order patterns : List (Text → Option α)} {line : Text}
    (hperm : order.Perm patterns) (hone : patterns.countP (accepts line) ≤ 1) :
    order.findSome? (· line) = patterns.findSome? (· line) := by
  have hverdicts : (order.filterMap (· line)).Perm (patterns.filterMap (· line)) :=
    hperm.filterMap _
  have hlength : (patterns.filterMap (· line)).length ≤ 1 := by
    rw [List.length_filterMap_eq_countP]
    exact hone
  rw [← List.head?_filterMap, ← List.head?_filterMap]
  -- a list of at most one verdict has no other order
  cases hlist : patterns.filterMap (· line) with
  | nil =>
    rw [hlist, List.perm_nil] at hverdicts
    rw [hverdicts]
  | cons verdict others =>
    rw [hlist, List.length_cons] at hlength
    obtain rfl : others = [] := List.length_eq_zero_iff.1 (by omega)
    rw [hlist, List.perm_singleton] at hverdicts
    rw [hverdicts]

/-- The verdict on a line is that of the first pattern that accepts it. -/
lemma classify_eq_findSome? (line : Text) :
    classify line = (structuralPatterns.findSome? (· line)).getD .text := by
  unfold classify structuralPatterns
  simp only [List.findSome?_cons, List.findSome?_nil]
  cases sectionLabel? line with
  | some label => rfl
  | none =>
    cases tableKind? line <;> cases isSectionEnd line <;> cases isRule line <;> rfl

lemma tableKind?_eq_findSome? (line : Text) :
    tableKind? line = (columnPatterns ++ [numberedPattern]).findSome? (· line) := by
  unfold tableKind? columnPatterns numberedPattern
  simp only [List.findSome?_append, List.findSome?_cons, List.findSome?_nil]
  cases startsWithColumns "LINE" "PROPERTY" "|CONTENT" line <;>
    cases startsWithColumns "NO." "VARIABLE" "|VALUE" line <;>
    cases startsWithColumns "NO." "FUNCTIONS" "|CONTENT" line <;>
    cases isNumberedHeader line <;> rfl

/-! ## First characters -/

lemma head?_of_isRunOf {c : Char} {line : Text} (h : isRunOf c line = true) :
    line.head? = some c := by
  obtain ⟨hne, hall⟩ := isRunOf_iff.1 h
  obtain ⟨d, rest, rfl⟩ := List.exists_cons_of_ne_nil hne
  rw [List.head?_cons, hall d (by simp)]

/-- A bare run of `=` has no middle, so it has no label. -/
lemma sectionLabel?_of_isSectionEnd {line : Text} (h : isSectionEnd line = true) :
    sectionLabel? line = none := by
  have hrun : ∀ c ∈ line, (c == '=') = true := fun c hc => by simp [(isRunOf_iff.1 h).2 c hc]
  have hmiddle : middle line = [] := by
    unfold middle
    rw [List.dropWhile_eq_nil_iff.2 hrun]
    rfl
  rw [Option.eq_none_iff_forall_ne_some]
  intro label hlabel
  obtain ⟨-, -, -, hsome, -⟩ := sectionLabel?_eq_some_iff.1 hlabel
  rw [hmiddle] at hsome
  exact absurd hsome (by decide)

lemma head?_of_afterWord? {word : String} {line rest : Text} (hword : word.toList ≠ [])
    (h : afterWord? word line = some rest) : line.head? = word.toList.head? := by
  obtain ⟨gap, -, rfl⟩ := eq_of_afterWord? h
  exact List.head?_append_of_ne_nil _ hword

/-- A header of columns starts with its first word, and what follows that one with the second. -/
lemma exists_afterWord?_of_startsWithColumns {first second last : String} {line : Text}
    (h : startsWithColumns first second last line = true) :
    ∃ rest rest', afterWord? first line = some rest ∧ afterWord? second rest = some rest' := by
  unfold startsWithColumns at h
  split at h
  · rename_i rest' hcolumns
    obtain ⟨rest, hfirst, hsecond⟩ := Option.bind_eq_some_iff.1 hcolumns
    exact ⟨rest, rest', hfirst, hsecond⟩
  · cases h

lemma head?_of_startsWithColumns {first second last : String} {line : Text}
    (hfirst : first.toList ≠ []) (h : startsWithColumns first second last line = true) :
    line.head? = first.toList.head? := by
  obtain ⟨rest, -, hrest, -⟩ := exists_afterWord?_of_startsWithColumns h
  exact head?_of_afterWord? hfirst hrest

/-- Headers with the same first word differ in the first letter of the second. -/
lemma head?_eq_of_startsWithColumns {first second second' last last' : String} {line : Text}
    (hsecond : second.toList ≠ []) (hsecond' : second'.toList ≠ [])
    (h : startsWithColumns first second last line = true)
    (h' : startsWithColumns first second' last' line = true) :
    second.toList.head? = second'.toList.head? := by
  obtain ⟨rest, _, hrest, hword⟩ := exists_afterWord?_of_startsWithColumns h
  obtain ⟨rest', _, hrest', hword'⟩ := exists_afterWord?_of_startsWithColumns h'
  obtain rfl : rest = rest' := Option.some.inj (hrest.symm.trans hrest')
  rw [← head?_of_afterWord? hsecond hword, ← head?_of_afterWord? hsecond' hword']

/-- Every table header starts with a letter. -/
lemma head?_of_tableKind? {line : Text} (h : (tableKind? line).isSome = true) :
    line.head? = some 'L' ∨ line.head? = some 'N' := by
  unfold tableKind? at h
  split_ifs at h with hinputs hvars hfunctions hnumbered
  · exact .inl (head?_of_startsWithColumns (by decide) hinputs)
  · exact .inr (head?_of_startsWithColumns (by decide) hvars)
  · exact .inr (head?_of_startsWithColumns (by decide) hfunctions)
  · unfold isNumberedHeader at hnumbered
    split at hnumbered
    · rename_i rest hrest
      exact .inr (head?_of_afterWord? (by decide) hrest)
    · cases hnumbered
  · cases h

/-! ## At most one pattern -/

/-- A line that one structural pattern accepts is accepted by no other. -/
lemma countP_structuralPatterns (line : Text) :
    structuralPatterns.countP (accepts line) ≤ 1 := by
  have hlabel : (sectionLabel? line).isSome = true → line.head? = some '=' := fun h => by
    obtain ⟨label, hlabel⟩ := Option.isSome_iff_exists.1 h
    exact (sectionLabel?_eq_some_iff.1 hlabel).1
  have hend : isSectionEnd line = true → line.head? = some '=' := head?_of_isRunOf
  have hrule : isRule line = true → line.head? = some '-' := head?_of_isRunOf
  have hkind : (tableKind? line).isSome = true → line.head? = some 'L' ∨ line.head? = some 'N' :=
    head?_of_tableKind?
  have hapart : isSectionEnd line = true → sectionLabel? line = none :=
    sectionLabel?_of_isSectionEnd
  unfold structuralPatterns accepts
  simp only [List.countP_cons, List.countP_nil, Option.isSome_map, Option.isSome_ite]
  -- two patterns that accept a line would give it two first characters, or a marker two readings
  split_ifs <;> simp_all

/-- The headers that spell out their columns are told apart by their words. -/
lemma countP_columnPatterns (line : Text) : columnPatterns.countP (accepts line) ≤ 1 := by
  have hinputs : startsWithColumns "LINE" "PROPERTY" "|CONTENT" line = true →
      line.head? = some 'L' := head?_of_startsWithColumns (by decide)
  have hvars : startsWithColumns "NO." "VARIABLE" "|VALUE" line = true →
      line.head? = some 'N' := head?_of_startsWithColumns (by decide)
  have hfunctions : startsWithColumns "NO." "FUNCTIONS" "|CONTENT" line = true →
      line.head? = some 'N' := head?_of_startsWithColumns (by decide)
  have hapart : startsWithColumns "NO." "VARIABLE" "|VALUE" line = true →
      startsWithColumns "NO." "FUNCTIONS" "|CONTENT" line = false := by
    intro hv
    by_contra hf
    rw [Bool.not_eq_false] at hf
    exact absurd (head?_eq_of_startsWithColumns (by decide) (by decide) hv hf) (by decide)
  unfold columnPatterns accepts
  simp only [List.countP_cons, List.countP_nil, Option.isSome_ite]
  split_ifs <;> simp_all

/-- Without a line feed, the general header accepts every header of columns that starts with the
number. -/
lemma isNumberedHeader_of_startsWithColumns {second last : String} {line : Text}
    (hsecond : ∀ t, Text.skipBlanks (second.toList ++ t) = second.toList ++ t)
    (hlast : ∀ t, Text.skipBlanks (last.toList ++ t) = last.toList ++ t) (hbar : '|' ∈ last.toList)
    (hfeed : '\n' ∉ line) (h : startsWithColumns "NO." second last line = true) :
    isNumberedHeader line = true := by
  obtain ⟨gap, gap', tail, hgap, -, rfl⟩ := (startsWithColumns_iff hsecond hlast).1 h
  have hrest := afterWord?_append "NO." hgap (hsecond (gap' ++ (last.toList ++ tail)))
  unfold isNumberedHeader
  rw [hrest]
  simp only [List.mem_append, not_or] at hfeed
  simp [hfeed, hbar]

/-! ## Prompts and rows -/

/-- A line is a prompt, or a row of the inputs or the tokens table. -/
def IsPromptOrRow (line : Text) : Prop :=
  (prompt? line).isSome = true ∨ (rowContent? line).isSome = true ∨
    (tokenCells? line).isSome = true

instance (line : Text) : Decidable (IsPromptOrRow line) :=
  inferInstanceAs (Decidable (_ ∨ _ ∨ _))

/-- A line is plain text if its first character is of a kind that no pattern starts with. -/
lemma classify_cons_of_kind {kind : Char → Bool} {c : Char} (hkind : kind c = true)
    (hno : ∀ d ∈ ['=', '-', 'L', 'N'], kind d = false) (rest : Text) :
    classify (c :: rest) = .text := by
  have hne : ∀ d ∈ ['=', '-', 'L', 'N'], c ≠ d := by
    rintro d hd rfl
    rw [hno c hd] at hkind
    cases hkind
  exact classify_cons ⟨hne _ (by simp), hne _ (by simp), hne _ (by simp), hne _ (by simp)⟩ rest

lemma classify_of_startsWithDigit {line : Text} (h : startsWithDigit line = true) :
    classify line = .text := by
  unfold startsWithDigit at h
  split at h
  · exact classify_cons_of_kind h (by simp) _
  · cases h

lemma classify_of_echoed? {line text : Text} (h : echoed? line = some text) :
    classify line = .text := by
  unfold echoed? at h
  split at h
  · exact classify_cons (by decide) _
  · cases h

/-- A comment starts with a blank or with `#`. -/
lemma classify_of_comment? {line text : Text} (h : comment? line = some text) :
    classify line = .text := by
  cases line with
  | nil => rfl
  | cons c rest =>
    by_cases hblank : Text.isBlank c = true
    · exact classify_cons_of_kind hblank (by simp [Text.isBlank]) rest
    · unfold comment? Text.skipBlanks at h
      rw [List.dropWhile_cons_of_neg hblank] at h
      split at h
      · rename_i rest' hcons
        obtain rfl : c = '#' := (List.cons.inj hcons).1
        exact classify_cons (by decide) rest
      · cases h

/-- Prompts and rows are plain text. -/
lemma classify_of_isPromptOrRow {line : Text} (h : IsPromptOrRow line) : classify line = .text := by
  rcases h with hprompt | hrow | hcells
  · unfold prompt? at hprompt
    split at hprompt
    · rename_i text htext
      exact classify_of_echoed? htext
    · rw [Option.isSome_map, Option.isSome_iff_exists] at hprompt
      obtain ⟨text, htext⟩ := hprompt
      exact classify_of_comment? htext
  · unfold rowContent? at hrow
    split_ifs at hrow with hdigit
    · exact classify_of_startsWithDigit hdigit.1
    · cases hrow
  · unfold tokenCells? at hcells
    split_ifs at hcells with hdigit
    · exact classify_of_startsWithDigit hdigit.1
    · cases hcells

end Line

/-- Plain text moves no reader to another section. -/
lemma Section.next_text (s : Section) : (s.step .text).next = s := by
  cases s <;> rfl

/-- A reader stays in its section on a prompt or a row, and passes over no line after it. -/
lemma Reader.next_of_isPromptOrRow (r : Reader) {line : Text} (h : Line.IsPromptOrRow line) :
    r.next line = ⟨r.place, false⟩ := by
  by_cases hskip : r.skipping = true
  · exact next_of_skipping hskip line
  · have htext := Line.classify_of_isPromptOrRow h
    rw [Bool.not_eq_true] at hskip
    refine eq_mk ?_ ?_
    · rw [next_place_of_reading hskip, htext, Section.next_text]
    · rw [← Bool.not_eq_true, next_skipping_iff, htext]
      simp

/-- However many prompts and rows follow each other, a reader stays in its section. -/
lemma Reader.after_of_isPromptOrRow (r : Reader) {lines : List Text}
    (h : ∀ line ∈ lines, Line.IsPromptOrRow line) : (r.after lines).place = r.place := by
  induction lines generalizing r with
  | nil => rfl
  | cons line rest ih =>
    have hrest := ih (r.next line) fun l hl => h l (List.mem_cons_of_mem _ hl)
    rw [after_cons, hrest, r.next_of_isPromptOrRow (h line (by simp))]

namespace Line

/-- **Every line has one verdict.** At most one structural pattern accepts a line, so the patterns
may be tried in any order. At most one header that spells out its columns accepts it, so these
may be tried in any order too, as long as the general header comes last; on a line without a line
feed that one accepts the headers of variables and functions as well. Prompts and rows are plain
text, and a reader stays in its section on any number of them. -/
theorem classify_unambiguous :
    (∀ line, structuralPatterns.countP (accepts line) ≤ 1) ∧
    (∀ order : List (Text → Option LineClass), order.Perm structuralPatterns →
      ∀ line, (order.findSome? (· line)).getD .text = classify line) ∧
    (∀ line, columnPatterns.countP (accepts line) ≤ 1) ∧
    (∀ order : List (Text → Option TableKind), order.Perm columnPatterns →
      ∀ line, (order ++ [numberedPattern]).findSome? (· line) = tableKind? line) ∧
    (∀ line : Text, '\n' ∉ line →
      startsWithColumns "NO." "VARIABLE" "|VALUE" line = true ∨
        startsWithColumns "NO." "FUNCTIONS" "|CONTENT" line = true →
      isNumberedHeader line = true) ∧
    (∀ line, IsPromptOrRow line →
      classify line = .text ∧ ∀ s : Section, (s.step (classify line)).next = s) ∧
    ∀ (r : Reader) (lines : List Text), (∀ line ∈ lines, IsPromptOrRow line) →
      (r.after lines).place = r.place := by
  refine ⟨countP_structuralPatterns, fun order horder line => ?_, countP_columnPatterns,
    fun order horder line => ?_, fun line hfeed hcolumns => ?_, fun line hline => ?_,
    fun r lines => r.after_of_isPromptOrRow⟩
  · rw [findSome?_of_perm horder (countP_structuralPatterns line), ← classify_eq_findSome?]
  · rw [tableKind?_eq_findSome?, List.findSome?_append, List.findSome?_append,
      findSome?_of_perm horder (countP_columnPatterns line)]
  · rcases hcolumns with hvars | hfunctions
    · exact isNumberedHeader_of_startsWithColumns (fun _ => rfl) (fun _ => rfl) (by decide) hfeed
        hvars
    · exact isNumberedHeader_of_startsWithColumns (fun _ => rfl) (fun _ => rfl) (by decide) hfeed
        hfunctions
  · have htext := classify_of_isPromptOrRow hline
    exact ⟨htext, fun s => by rw [htext, s.next_text]⟩

/-- The header of the variables, with the patterns tried backwards: the general header accepts it
too, but comes last. A row that holds the text of a marker and a comment that holds a rule leave a
reader in its table. -/
theorem classify_unambiguous_backwards :
    let line : Text := "NO.\t VARIABLE |VALUE".toList
    let lines : List Text := ["1|x|==M A C R O==".toList, "# ----".toList]
    let r : Reader := ⟨.table .vars, false⟩
    structuralPatterns.reverse.Perm structuralPatterns ∧
      (structuralPatterns.reverse.findSome? (· line)).getD .text = classify line ∧
      columnPatterns.reverse.Perm columnPatterns ∧
      (columnPatterns.reverse ++ [numberedPattern]).findSome? (· line) = some .vars ∧
      '\n' ∉ line ∧ isNumberedHeader line = true ∧ (∀ l ∈ lines, IsPromptOrRow l) ∧
      (r.after lines).place = .table .vars := by
  intro line lines r
  have hstructural : structuralPatterns.reverse.Perm structuralPatterns := List.reverse_perm _
  have hcolumns : columnPatterns.reverse.Perm columnPatterns := List.reverse_perm _
  have hkind : tableKind? line = some .vars := by decide
  have hfeed : '\n' ∉ line := by decide
  have hlines : ∀ l ∈ lines, IsPromptOrRow l := by decide
  obtain ⟨-, hverdict, -, hheader, hnumbered, -, hrun⟩ := classify_unambiguous
  exact ⟨hstructural, hverdict _ hstructural line, hcolumns,
    (hheader _ hcolumns line).trans hkind, hfeed, hnumbered line hfeed (.inl (by decide)), hlines,
    hrun r lines hlines⟩

end Line

end SolverInput
