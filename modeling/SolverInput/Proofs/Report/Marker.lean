import SolverInput.Proofs.Text.Lines
import SolverInput.Report.Marker
import Mathlib.Data.List.TakeWhile

/-!
# Structural lines

The classes of lines read backwards, from a class to the characters of the line:

* a line of a class has the pattern of that class (`hasPattern_classify`), so markers end in `=` and
  rules and closing markers are runs of one character;
* a line that starts with another character than the patterns do is plain text (`classify_cons`);
* a header of columns is two words, each with a gap after it, then the last word and anything
  (`startsWithColumns_iff`); so a carriage return at its end makes no difference
  (`classify_dropReturn_inputs`).
-/

namespace SolverInput

/-- A line has the pattern that its class stands for. -/
def LineClass.HasPattern (line : Text) : LineClass → Prop
  | sectionStart label => Line.sectionLabel? line = some label
  | sectionEnd => Line.isSectionEnd line = true
  | tableHeader kind => Line.tableKind? line = some kind
  | rule => Line.isRule line = true
  | text => True

namespace Line

/-- A line has the pattern of its class. -/
lemma hasPattern_classify (line : Text) : (classify line).HasPattern line := by
  unfold classify
  split
  · rename_i label hlabel
    exact hlabel
  · split
    · rename_i hend
      exact hend
    · split
      · rename_i kind hkind
        exact hkind
      · split
        · rename_i hrule
          exact hrule
        · trivial

lemma hasPattern_of_classify {line : Text} {c : LineClass} (h : classify line = c) :
    c.HasPattern line :=
  h ▸ hasPattern_classify line

/-! ## Markers and rules -/

lemma isRunOf_iff {c : Char} {line : Text} :
    isRunOf c line = true ↔ line ≠ [] ∧ ∀ d ∈ line, d = c := by
  simp [isRunOf]

/-- A run of one character holds no other character, at its end or elsewhere. -/
lemma not_mem_of_isRunOf {c d : Char} {line : Text} (h : isRunOf c line = true) (hd : d ≠ c) :
    d ∉ line :=
  fun hmem => hd ((isRunOf_iff.1 h).2 d hmem)

/-- The marker of a section ends in `=`. -/
lemma getLast?_of_sectionLabel? {line label : Text} (h : sectionLabel? line = some label) :
    line.getLast? = some '=' := by
  unfold sectionLabel? at h
  split at h
  · rename_i hends
    exact hends.2
  · cases h

/-- A line that starts with none of the characters that patterns start with is plain text. -/
lemma classify_cons {c : Char} (hc : c ≠ '=' ∧ c ≠ '-' ∧ c ≠ 'L' ∧ c ≠ 'N') (rest : Text) :
    classify (c :: rest) = .text := by
  obtain ⟨hmarker, hrule, hline, hnumber⟩ := hc
  have hword : ∀ {word : String} {w : Char} {ws : Text}, word.toList = w :: ws → c ≠ w →
      afterWord? word (c :: rest) = none := by
    intro word w ws hword hne
    simp [afterWord?, hword, List.isPrefixOf?, Ne.symm hne]
  have hlabel : sectionLabel? (c :: rest) = none := by simp [sectionLabel?, hmarker]
  have hend : isSectionEnd (c :: rest) = false := by simp [isSectionEnd, isRunOf, hmarker]
  have hdash : isRule (c :: rest) = false := by simp [isRule, isRunOf, hrule]
  have hkind : tableKind? (c :: rest) = none := by
    have hinputs : afterWord? "LINE" (c :: rest) = none := hword rfl hline
    have hnumbered : afterWord? "NO." (c :: rest) = none := hword rfl hnumber
    simp [tableKind?, startsWithColumns, isNumberedHeader, hinputs, hnumbered]
  simp [classify, hlabel, hend, hkind, hdash]

/-- A table header is classified as one, since no header starts with `=`. -/
lemma classify_of_tableKind? {line : Text} {kind : TableKind} (hhead : line.head? ≠ some '=')
    (h : tableKind? line = some kind) : classify line = .tableHeader kind := by
  have hlabel : sectionLabel? line = none := if_neg fun hends => hhead hends.1
  have hend : isSectionEnd line = false := by
    cases line with
    | nil => rfl
    | cons c rest =>
      have hc : c ≠ '=' := by simpa using hhead
      simp [isSectionEnd, isRunOf, hc]
  simp [classify, hlabel, hend, h]

/-! ## Headers of columns -/

/-- The gap after a word: at least one blank, and nothing else. -/
def IsGap (gap : Text) : Prop :=
  gap ≠ [] ∧ ∀ c ∈ gap, Text.isBlank c = true

/-- Blanks before a text that starts with none are skipped. -/
lemma skipBlanks_append {gap rest : Text} (hgap : ∀ c ∈ gap, Text.isBlank c = true)
    (hrest : Text.skipBlanks rest = rest) : Text.skipBlanks (gap ++ rest) = rest := by
  unfold Text.skipBlanks at *
  rw [List.dropWhile_append_of_pos hgap, hrest]

/-- What follows a word and its gap. -/
lemma afterWord?_append (word : String) {gap rest : Text} (hgap : IsGap gap)
    (hrest : Text.skipBlanks rest = rest) :
    afterWord? word (word.toList ++ (gap ++ rest)) = some rest := by
  obtain ⟨hne, hblank⟩ := hgap
  obtain ⟨b, blanks, rfl⟩ := List.exists_cons_of_ne_nil hne
  have hword : word.toList.isPrefixOf? (word.toList ++ (b :: blanks ++ rest))
      = some (b :: (blanks ++ rest)) :=
    List.isPrefixOf?_eq_some_iff_append_eq.2 rfl
  have hskip := skipBlanks_append (fun c hc => hblank c (List.mem_cons_of_mem _ hc)) hrest
  unfold afterWord?
  rw [hword]
  simp only [hblank b (by simp), if_true, hskip]

/-- A word that something follows has a gap after it. -/
lemma eq_of_afterWord? {word : String} {line rest : Text} (h : afterWord? word line = some rest) :
    ∃ gap, IsGap gap ∧ line = word.toList ++ (gap ++ rest) := by
  unfold afterWord? at h
  split at h
  · rename_i c tail hword
    rw [List.isPrefixOf?_eq_some_iff_append_eq] at hword
    split_ifs at h with hblank
    cases h
    refine ⟨c :: tail.takeWhile Text.isBlank, ⟨by simp, fun d hd => ?_⟩, ?_⟩
    · rcases List.mem_cons.1 hd with rfl | hd
      · exact hblank
      · exact List.mem_takeWhile_imp hd
    · rw [← hword, List.cons_append, Text.skipBlanks, List.takeWhile_append_dropWhile]
  · cases h

/-- A header of columns, if its second and last word start with no blank. -/
lemma startsWithColumns_iff {first second last : String} {line : Text}
    (hsecond : ∀ t, Text.skipBlanks (second.toList ++ t) = second.toList ++ t)
    (hlast : ∀ t, Text.skipBlanks (last.toList ++ t) = last.toList ++ t) :
    startsWithColumns first second last line = true ↔
      ∃ gap gap' tail, IsGap gap ∧ IsGap gap' ∧
        line = first.toList ++ (gap ++ (second.toList ++ (gap' ++ (last.toList ++ tail)))) := by
  unfold startsWithColumns
  constructor
  · intro h
    split at h
    · rename_i rest hcolumns
      obtain ⟨rest', hfirst, hrest⟩ := Option.bind_eq_some_iff.1 hcolumns
      obtain ⟨gap, hgap, rfl⟩ := eq_of_afterWord? hfirst
      obtain ⟨gap', hgap', rfl⟩ := eq_of_afterWord? hrest
      obtain ⟨tail, rfl⟩ := List.isPrefixOf_iff_prefix.1 h
      exact ⟨gap, gap', tail, hgap, hgap', rfl⟩
    · cases h
  · rintro ⟨gap, gap', tail, hgap, hgap', rfl⟩
    rw [afterWord?_append first hgap (hsecond _), Option.bind_some,
      afterWord?_append second hgap' (hlast tail)]
    exact List.isPrefixOf_iff_prefix.2 (List.prefix_append _ _)

/-- The header of the inputs table. -/
lemma classify_eq_inputs_iff {line : Text} :
    classify line = .tableHeader .inputs ↔
      ∃ gap gap' tail, IsGap gap ∧ IsGap gap' ∧
        line = "LINE".toList ++
          (gap ++ ("PROPERTY".toList ++ (gap' ++ ("|CONTENT".toList ++ tail)))) := by
  rw [← startsWithColumns_iff (fun _ => rfl) (fun _ => rfl)]
  constructor
  · intro h
    have hkind : tableKind? line = some .inputs := hasPattern_of_classify h
    unfold tableKind? at hkind
    split_ifs at hkind with hcolumns <;> simp_all
  · intro h
    have hkind : tableKind? line = some .inputs := by simp [tableKind?, h]
    -- the header starts with a letter, so it is no marker
    obtain ⟨gap, gap', tail, -, -, rfl⟩ :=
      (startsWithColumns_iff (fun _ => rfl) (fun _ => rfl)).1 h
    have hhead : ∀ t : Text, ("LINE".toList ++ t).head? ≠ some '=' := fun t => by simp
    exact classify_of_tableKind? (hhead _) hkind

/-- An inputs header stays one without a carriage return at its end. -/
lemma classify_dropReturn_inputs {line : Text} (h : classify line = .tableHeader .inputs) :
    classify (Text.dropReturn line) = .tableHeader .inputs := by
  unfold Text.dropReturn
  split
  · rename_i hreturn
    obtain ⟨gap, gap', tail, hgap, hgap', rfl⟩ := classify_eq_inputs_iff.1 h
    -- the last word does not end in a carriage return, so it stands behind that word
    have hlast : ∀ t : Text, (t ++ "|CONTENT".toList).getLast? = some 'T' := fun t => by
      rw [List.getLast?_append]
      rfl
    have htail : tail ≠ [] := by
      rintro rfl
      rw [List.append_nil, ← List.append_assoc, ← List.append_assoc, ← List.append_assoc,
        hlast] at hreturn
      exact absurd hreturn (by decide)
    refine classify_eq_inputs_iff.2 ⟨gap, gap', tail.dropLast, hgap, hgap', ?_⟩
    simp only [List.dropLast_append_of_ne_nil, ne_eq, htail, List.append_eq_nil_iff, and_false,
      not_false_eq_true]
  · exact h

end Line

end SolverInput
