import SolverInput.Proofs.Report.Marker
import SolverInput.Proofs.Report.Reader
import SolverInput.Proofs.Text.Trim
import Mathlib.Data.List.DropRight

/-!
# The label of a section marker

A marker is a run of `=`, blanks, capital letters and spaces, blanks, and a run of `=`. A space is
both a blank and a character of a label, so one line can be read in many ways (`MarkerReading`). What
they have in common is the middle of the line, which is what the two runs leave over
(`MarkerReading.middle_eq`); the trimmed middle is the label, however the blanks are divided
(`sectionLabel?_of_reading`). Conversely, a trimmed middle of capital letters and spaces can be
divided, and so can a blank middle with a space in it (`exists_middle_eq`).

The last part says what markers do: on which lines a reader enters the macro section and a debug
block.
-/

namespace SolverInput

namespace Line

/-- What the runs of `=` at both ends of a line leave over. -/
def middle (line : Text) : Text :=
  Text.dropEndWhile (· == '=') (line.dropWhile (· == '='))

/-- A text of capital letters and spaces only, which may be empty. -/
def IsLabelText (t : Text) : Prop :=
  ∀ c ∈ t, isLabelChar c = true

instance (t : Text) : Decidable (IsLabelText t) :=
  List.decidableBAll (fun c => isLabelChar c = true) t

/-- A way to read a line as the marker of a section. -/
structure MarkerReading (line : Text) where
  opening : Text
  left : Text
  label : Text
  right : Text
  closing : Text
  opening_run : isRunOf '=' opening = true
  left_blanks : Text.IsBlanks left
  label_ne : label ≠ []
  label_chars : IsLabelText label
  right_blanks : Text.IsBlanks right
  closing_run : isRunOf '=' closing = true
  line_eq : line = opening ++ (left ++ label ++ right) ++ closing

/-! ## Characters -/

lemma isLabelChar_iff {c : Char} : isLabelChar c = true ↔ c = ' ' ∨ 'A' ≤ c ∧ c ≤ 'Z' := by
  simp [isLabelChar]

/-- The only blank among the characters of labels is the space. -/
lemma eq_space_of_isLabelChar {c : Char} (h : isLabelChar c = true) (hblank : Text.isBlank c = true) :
    c = ' ' := by
  rcases isLabelChar_iff.1 h with hspace | hcapital
  · exact hspace
  · -- capital letters stand between 65 and 90, where no blank is
    have hrange : 65 ≤ c.toNat ∧ c.toNat ≤ 90 := hcapital
    simp only [Text.isBlank, Bool.or_eq_true, Bool.and_eq_true, decide_eq_true_eq,
      beq_iff_eq] at hblank
    omega

/-! ## The middle of a line -/

/-- Runs of `=` around a text without `=` leave that text over. -/
lemma middle_append {opening mid closing : Text} (hopening : isRunOf '=' opening = true)
    (hclosing : isRunOf '=' closing = true) (hne : mid ≠ []) (hmid : '=' ∉ mid) :
    middle (opening ++ mid ++ closing) = mid := by
  have hopen : ∀ c ∈ opening, (c == '=') = true := fun c hc => by
    simp [(isRunOf_iff.1 hopening).2 c hc]
  have hclose : ∀ c ∈ closing.reverse, (c == '=') = true := fun c hc => by
    simp [(isRunOf_iff.1 hclosing).2 c (List.mem_reverse.1 hc)]
  -- a scan from either side stops at the first character of `mid`
  have hstop : ∀ t rest : Text, t ≠ [] → '=' ∉ t →
      (t ++ rest).dropWhile (· == '=') = t ++ rest := by
    intro t rest ht hnot
    obtain ⟨c, t, rfl⟩ := List.exists_cons_of_ne_nil ht
    rw [List.mem_cons, not_or] at hnot
    exact List.dropWhile_cons_of_neg (by simpa using Ne.symm hnot.1)
  have hback := hstop mid.reverse [] (by simpa using hne) (by simpa using hmid)
  rw [List.append_nil] at hback
  unfold middle Text.dropEndWhile
  rw [List.append_assoc, List.dropWhile_append_of_pos hopen, hstop mid closing hne hmid,
    List.reverse_append, List.dropWhile_append_of_pos hclose, hback, List.reverse_reverse]

/-- A line that starts and ends with `=` and has a middle stands between two runs of `=`. -/
lemma exists_eq_append_middle {line : Text} (hhead : line.head? = some '=')
    (hlast : line.getLast? = some '=') (hne : middle line ≠ []) :
    ∃ opening closing, isRunOf '=' opening = true ∧ isRunOf '=' closing = true ∧
      line = opening ++ middle line ++ closing := by
  set inner := line.dropWhile (· == '=') with hinner
  have hmiddle : middle line = inner.rdropWhile (· == '=') := rfl
  have hcut : line.takeWhile (· == '=') ++ inner = line := List.takeWhile_append_dropWhile
  have hinnerNe : inner ≠ [] := by
    intro hnil
    rw [hmiddle, hnil] at hne
    exact hne rfl
  refine ⟨line.takeWhile (· == '='), inner.rtakeWhile (· == '='), ?_, ?_, ?_⟩
  · rw [isRunOf_iff]
    obtain ⟨rest, rfl⟩ := List.head?_eq_some_iff.1 hhead
    exact ⟨by simp, fun c hc => by simpa using List.mem_takeWhile_imp hc⟩
  · rw [isRunOf_iff]
    refine ⟨fun hnil => ?_, fun c hc => by simpa using List.mem_rtakeWhile_imp hc⟩
    -- the part behind the first run ends like the line
    rw [← hcut, List.getLast?_append_of_ne_nil _ hinnerNe, List.getLast?_eq_some_getLast hinnerNe,
      Option.some.injEq] at hlast
    exact List.rtakeWhile_eq_nil_iff.1 hnil hinnerNe (by simp [hlast])
  · rw [hmiddle, List.append_assoc, List.rdropWhile_append_rtakeWhile, hcut]

/-! ## Readings -/

namespace MarkerReading

variable {line : Text}

/-- Between the runs of `=` there is none. -/
lemma marker_not_mem (r : MarkerReading line) : '=' ∉ r.left ++ r.label ++ r.right := by
  rw [List.mem_append, List.mem_append]
  rintro ((h | h) | h)
  · exact absurd (r.left_blanks _ h) (by decide)
  · exact absurd (r.label_chars _ h) (by decide)
  · exact absurd (r.right_blanks _ h) (by decide)

/-- Every reading divides the same middle. -/
lemma middle_eq (r : MarkerReading line) : middle line = r.left ++ r.label ++ r.right := by
  have hne : r.left ++ r.label ++ r.right ≠ [] := by simp [r.label_ne]
  have hmiddle := middle_append r.opening_run r.closing_run hne r.marker_not_mem
  rwa [← r.line_eq] at hmiddle

/-- Every reading has the same trimmed label. -/
lemma trim_label (r : MarkerReading line) : Text.trim r.label = Text.trim (middle line) := by
  rw [r.middle_eq, Text.trim_append r.left_blanks r.right_blanks]

lemma head? (r : MarkerReading line) : line.head? = some '=' := by
  obtain ⟨hne, hall⟩ := isRunOf_iff.1 r.opening_run
  obtain ⟨c, rest, hopening⟩ := List.exists_cons_of_ne_nil hne
  have hc : c = '=' := hall c (by simp [hopening])
  rw [r.line_eq, hopening, hc]
  rfl

lemma getLast? (r : MarkerReading line) : line.getLast? = some '=' := by
  obtain ⟨hne, hall⟩ := isRunOf_iff.1 r.closing_run
  rw [r.line_eq, List.getLast?_append_of_ne_nil _ hne, List.getLast?_eq_some_getLast hne,
    hall _ (List.getLast_mem hne)]

/-- A label that is trimmed away has a space. -/
lemma space_mem_middle (r : MarkerReading line) (h : Text.trim (middle line) = []) :
    ' ' ∈ middle line := by
  obtain ⟨c, rest, hlabel⟩ := List.exists_cons_of_ne_nil r.label_ne
  have hmem : c ∈ r.label := by simp [hlabel]
  have hblank : Text.isBlank c = true := by
    rw [← r.trim_label] at h
    exact Text.trim_eq_nil_iff.1 h c hmem
  rw [← eq_space_of_isLabelChar (r.label_chars c hmem) hblank, r.middle_eq]
  exact List.mem_append_left _ (List.mem_append_right _ hmem)

end MarkerReading

/-! ## The label -/

/-- The label in closed form. -/
lemma sectionLabel?_eq_some_iff {line label : Text} :
    sectionLabel? line = some label ↔
      line.head? = some '=' ∧ line.getLast? = some '=' ∧
      IsLabelText (Text.trim (middle line)) ∧
      (Text.trim (middle line) ≠ [] ∨ ' ' ∈ middle line) ∧ label = Text.trim (middle line) := by
  have hunfold : sectionLabel? line
      = if line.head? = some '=' ∧ line.getLast? = some '=' then
          if (Text.trim (middle line)).all isLabelChar ∧
              (Text.trim (middle line) ≠ [] ∨ ' ' ∈ middle line)
            then some (Text.trim (middle line)) else none
        else none := rfl
  constructor
  · intro h
    rw [hunfold] at h
    split_ifs at h with hends hlabel
    cases h
    exact ⟨hends.1, hends.2, List.all_eq_true.1 hlabel.1, hlabel.2, rfl⟩
  · rintro ⟨hhead, hlast, hchars, hlabel, rfl⟩
    rw [hunfold, if_pos ⟨hhead, hlast⟩, if_pos ⟨List.all_eq_true.2 hchars, hlabel⟩]

/-- A line that can be read as a marker has the label of the reading, trimmed. -/
lemma sectionLabel?_of_reading {line : Text} (r : MarkerReading line) :
    sectionLabel? line = some (Text.trim r.label) := by
  rw [sectionLabel?_eq_some_iff, ← r.trim_label]
  refine ⟨r.head?, r.getLast?, fun c hc => r.label_chars c (Text.mem_of_mem_trim hc), ?_, rfl⟩
  by_cases h : Text.trim r.label = []
  · exact .inr (r.space_mem_middle (r.trim_label ▸ h))
  · exact .inl h

/-- A middle with a label in it can be divided. -/
lemma exists_middle_eq {line label : Text} (h : sectionLabel? line = some label) :
    ∃ left word right, Text.IsBlanks left ∧ word ≠ [] ∧ IsLabelText word ∧
      Text.IsBlanks right ∧ middle line = left ++ word ++ right := by
  obtain ⟨-, -, hchars, hlabel, -⟩ := sectionLabel?_eq_some_iff.1 h
  by_cases hnil : Text.trim (middle line) = []
  · -- all of the middle is blank, and one of its spaces has to stand for the label
    have hblanks : Text.IsBlanks (middle line) := Text.trim_eq_nil_iff.1 hnil
    have hspace : ' ' ∈ middle line := hlabel.resolve_left fun hne => hne hnil
    obtain ⟨left, right, hmiddle⟩ := List.append_of_mem hspace
    have hcut : middle line = left ++ [' '] ++ right := by simp [hmiddle]
    rw [hcut, Text.isBlanks_append, Text.isBlanks_append] at hblanks
    obtain ⟨⟨hleft, -⟩, hright⟩ := hblanks
    exact ⟨left, [' '], right, hleft, by simp, by decide, hright, hcut⟩
  · obtain ⟨left, right, hleft, hright, hcut⟩ := Text.exists_eq_append_trim (middle line)
    exact ⟨left, _, right, hleft, hnil, hchars, hright, hcut⟩

/-- Exactly the lines with a label can be read as markers. -/
lemma isSome_sectionLabel?_iff {line : Text} :
    (sectionLabel? line).isSome = true ↔ Nonempty (MarkerReading line) := by
  constructor
  · intro h
    obtain ⟨label, hlabel⟩ := Option.isSome_iff_exists.1 h
    obtain ⟨hhead, hlast, -, -, -⟩ := sectionLabel?_eq_some_iff.1 hlabel
    obtain ⟨left, word, right, hleft, hne, hchars, hright, hmiddle⟩ := exists_middle_eq hlabel
    have hmiddleNe : middle line ≠ [] := by simp [hmiddle, hne]
    obtain ⟨opening, closing, hopening, hclosing, hline⟩ :=
      exists_eq_append_middle hhead hlast hmiddleNe
    rw [hmiddle] at hline
    exact ⟨⟨opening, left, word, right, closing, hopening, hleft, hne, hchars, hright, hclosing,
      hline⟩⟩
  · rintro ⟨r⟩
    rw [sectionLabel?_of_reading r]
    rfl

/-- A line starts and ends with `=`, and its trimmed middle is this text. -/
def HasMiddle (label line : Text) : Prop :=
  line.head? = some '=' ∧ line.getLast? = some '=' ∧ Text.trim (middle line) = label

instance (label line : Text) : Decidable (HasMiddle label line) :=
  inferInstanceAs (Decidable (_ ∧ _ ∧ _))

/-- A label that is not empty is the trimmed middle of its lines. -/
lemma sectionLabel?_eq_some_iff_hasMiddle {line label : Text} (hne : label ≠ [])
    (hchars : IsLabelText label) :
    sectionLabel? line = some label ↔ HasMiddle label line := by
  rw [sectionLabel?_eq_some_iff]
  constructor
  · rintro ⟨hhead, hlast, -, -, rfl⟩
    exact ⟨hhead, hlast, rfl⟩
  · rintro ⟨hhead, hlast, rfl⟩
    exact ⟨hhead, hlast, hchars, .inl hne, rfl⟩

/-- A line has the class of a marker exactly if it has its label. -/
lemma classify_eq_sectionStart_iff {line label : Text} :
    classify line = .sectionStart label ↔ sectionLabel? line = some label := by
  constructor
  · exact hasPattern_of_classify
  · intro h
    unfold classify
    rw [h]

end Line

/-! ## Sections that are entered -/

/-- The reader is in a debug block, in a table or between two tables. -/
def Section.inDebug : Section → Bool
  | debug => true
  | table _ => true
  | none => false
  | macros => false

namespace Section

lemma ofLabel_eq_macros_iff {label : Text} : ofLabel label = .macros ↔ label = Line.macroLabel := by
  unfold ofLabel
  split_ifs with hmacros hdebug <;> simp [hmacros]

lemma ofLabel_eq_debug_iff {label : Text} : ofLabel label = .debug ↔ label = Line.debugLabel := by
  unfold ofLabel
  split_ifs with hmacros hdebug
  · simp [hmacros, show Line.macroLabel ≠ Line.debugLabel by decide]
  · simp [hdebug]
  · simp [hdebug]

/-- A marker opens no table. -/
lemma inDebug_ofLabel (label : Text) :
    (ofLabel label).inDebug = true ↔ label = Line.debugLabel := by
  rw [← ofLabel_eq_debug_iff]
  unfold ofLabel
  split_ifs <;> simp [inDebug]

/-- The macro section is left only on a marker, and entered only on its own. -/
lemma next_eq_macros_iff (s : Section) (c : LineClass) :
    (s.step c).next = .macros ↔
      c = .sectionStart Line.macroLabel ∨ s = .macros ∧ c.isMarker = false := by
  cases c with
  | sectionStart label => simp [step, ofLabel_eq_macros_iff, LineClass.isMarker]
  | _ => cases s <;> simp [step, LineClass.isMarker]

/-- A debug block is left only on a marker, and entered only on its own. -/
lemma inDebug_next_iff (s : Section) (c : LineClass) :
    (s.step c).next.inDebug = true ↔
      c = .sectionStart Line.debugLabel ∨ s.inDebug = true ∧ c.isMarker = false := by
  cases c with
  | sectionStart label => simp [step, inDebug_ofLabel, LineClass.isMarker]
  | _ => cases s <;> simp [step, inDebug, LineClass.isMarker]

/-- From outside, a debug block is entered between its tables. -/
lemma next_eq_debug_iff {s : Section} (hs : s.inDebug = false) (c : LineClass) :
    (s.step c).next = .debug ↔ c = .sectionStart Line.debugLabel := by
  cases c with
  | sectionStart label => simp [step, ofLabel_eq_debug_iff]
  | _ => cases s <;> simp_all [step, inDebug]

end Section

namespace Line

/-- **The label of a marker is its trimmed middle.** A line has a label exactly if it starts and ends
with `=`, the runs of `=` leave something over, all of it but the blanks around it is capital
letters and spaces, and it is not blank without a space. These are exactly the lines that can be
read as a marker, and every reading divides the same middle and gives the same label. From any other
section the macro section is entered exactly on a line with its label, and from outside a debug
block is entered exactly on a line with its label; both are left on markers only. -/
theorem marker_label_eq_trim_middle (line : Text) :
    (∀ label, sectionLabel? line = some label ↔
      line.head? = some '=' ∧ line.getLast? = some '=' ∧ middle line ≠ [] ∧
      (∀ c ∈ Text.trim (middle line), c = ' ' ∨ 'A' ≤ c ∧ c ≤ 'Z') ∧
      (Text.trim (middle line) ≠ [] ∨ ' ' ∈ middle line) ∧ label = Text.trim (middle line)) ∧
    ((sectionLabel? line).isSome = true ↔ Nonempty (MarkerReading line)) ∧
    (∀ r : MarkerReading line, r.left ++ r.label ++ r.right = middle line ∧
      sectionLabel? line = some (Text.trim r.label)) ∧
    (∀ s : Section, (s.step (classify line)).next = .macros ↔
      HasMiddle macroLabel line ∨ s = .macros ∧ (classify line).isMarker = false) ∧
    (∀ s : Section, (s.step (classify line)).next.inDebug = true ↔
      HasMiddle debugLabel line ∨ s.inDebug = true ∧ (classify line).isMarker = false) ∧
    (∀ s : Section, s.inDebug = false →
      ((s.step (classify line)).next = .debug ↔ HasMiddle debugLabel line)) := by
  have hmacros : classify line = .sectionStart macroLabel ↔ HasMiddle macroLabel line := by
    rw [classify_eq_sectionStart_iff]
    exact sectionLabel?_eq_some_iff_hasMiddle (by decide) (by decide)
  have hdebug : classify line = .sectionStart debugLabel ↔ HasMiddle debugLabel line := by
    rw [classify_eq_sectionStart_iff]
    exact sectionLabel?_eq_some_iff_hasMiddle (by decide) (by decide)
  refine ⟨fun label => ?_, isSome_sectionLabel?_iff, fun r => ?_, fun s => ?_, fun s => ?_,
    fun s hs => ?_⟩
  · simp only [sectionLabel?_eq_some_iff, IsLabelText, isLabelChar_iff]
    -- an empty middle holds neither a label nor a space
    have hne : Text.trim (middle line) ≠ [] ∨ ' ' ∈ middle line → middle line ≠ [] := by
      rintro h hnil
      rw [hnil] at h
      exact absurd h (by decide)
    constructor
    · rintro ⟨hhead, hlast, hchars, hlabel, heq⟩
      exact ⟨hhead, hlast, hne hlabel, hchars, hlabel, heq⟩
    · rintro ⟨hhead, hlast, -, hrest⟩
      exact ⟨hhead, hlast, hrest⟩
  · exact ⟨r.middle_eq.symm, sectionLabel?_of_reading r⟩
  · rw [Section.next_eq_macros_iff, hmacros]
  · rw [Section.inDebug_next_iff, hdebug]
  · rw [Section.next_eq_debug_iff hs, hdebug]

/-- The spaces of a marker taken for blanks, and taken for a part of its label: the label is the
same, and outside of a debug block the line enters one. -/
theorem marker_label_eq_trim_middle_two_readings :
    let line : Text := "==\t D E B U G  =".toList
    (∃ r r' : MarkerReading line, r.label = debugLabel ∧ r'.label = " D E B U G  ".toList ∧
      sectionLabel? line = some (Text.trim r.label) ∧
      sectionLabel? line = some (Text.trim r'.label)) ∧
    Section.macros.inDebug = false ∧ (Section.macros.step (classify line)).next = .debug := by
  intro line
  let r : MarkerReading line :=
    { opening := "==".toList, left := "\t ".toList, label := debugLabel, right := "  ".toList
      closing := "=".toList, opening_run := by decide, left_blanks := by decide
      label_ne := by decide, label_chars := by decide, right_blanks := by decide
      closing_run := by decide, line_eq := by decide }
  let r' : MarkerReading line :=
    { opening := "==".toList, left := "\t".toList, label := " D E B U G  ".toList, right := []
      closing := "=".toList, opening_run := by decide, left_blanks := by decide
      label_ne := by decide, label_chars := by decide, right_blanks := by decide
      closing_run := by decide, line_eq := by decide }
  obtain ⟨-, -, hreadings, -, -, henter⟩ := marker_label_eq_trim_middle line
  exact ⟨⟨r, r', rfl, rfl, (hreadings r).2, (hreadings r').2⟩, rfl,
    (henter .macros rfl).2 (by decide)⟩

end Line

end SolverInput
