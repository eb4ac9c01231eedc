import SolverInput.Proofs.Report.Extraction
import SolverInput.Proofs.Report.Marker
import SolverInput.Proofs.Report.WellFormed
import Mathlib.Data.List.Infix

/-!
# Echoed input

The solver echoes an input line as `> [tag] text` (`Echo`). The end of the tag is looked for from
the right: it is the last `]` of the line that stands directly before a blank, also if that one
belongs to the text. So what is captured is the text behind its last tag end (`Echo.captured`,
`Echo.prompt?_line`), and the full input of a report of echoes gives all texts back exactly if no
text holds a `]` with a blank behind it. A text with an index in brackets before a blank is cut.
-/

namespace SolverInput

/-! ## The end of a tag -/

namespace Text

/-- Tells whether a text starts with the end of a tag: a `]` and a blank. -/
def startsWithTagEnd : Text → Bool
  | c :: b :: _ => c == ']' && isBlank b
  | _ => false

/-- What follows the last tag end of a text, if there is one. -/
def afterLastTagEnd? (t : Text) : Option Text :=
  (t.tails.filter startsWithTagEnd).getLast?.map (List.drop 2)

lemma startsWithTagEnd_iff {t : Text} :
    startsWithTagEnd t = true ↔ ∃ b, isBlank b = true ∧ [']', b] <+: t := by
  match t with
  | [] => simp [startsWithTagEnd]
  | [c] => simp [startsWithTagEnd]
  | c :: d :: rest =>
    simp only [startsWithTagEnd, Bool.and_eq_true, beq_iff_eq, List.cons_prefix_cons,
      List.nil_prefix, and_true]
    constructor
    · rintro ⟨rfl, hd⟩
      exact ⟨d, hd, rfl, rfl⟩
    · rintro ⟨b, hb, rfl, rfl⟩
      exact ⟨rfl, hb⟩

/-- A tag end further to the right wins. -/
lemma afterLastTagEnd?_cons (c : Char) (rest : Text) :
    afterLastTagEnd? (c :: rest)
      = (afterLastTagEnd? rest).or
        (if startsWithTagEnd (c :: rest) then some (rest.drop 1) else none) := by
  unfold afterLastTagEnd?
  rw [List.tails_cons, List.filter_cons]
  split
  · rw [List.getLast?_cons]
    cases (rest.tails.filter startsWithTagEnd).getLast? <;> rfl
  · rw [Option.or_none]

/-- The tag end before a text is the last one only if the text has none. -/
lemma afterLastTagEnd?_append (tag text : Text) :
    afterLastTagEnd? (tag ++ ']' :: ' ' :: text)
      = some ((afterLastTagEnd? text).getD text) := by
  induction tag with
  | nil =>
    have hblank : afterLastTagEnd? (' ' :: text) = afterLastTagEnd? text := by
      have hstarts : startsWithTagEnd (' ' :: text) = false := by
        cases text <;> rfl
      rw [afterLastTagEnd?_cons, hstarts]
      exact Option.or_none
    rw [List.nil_append, afterLastTagEnd?_cons, hblank]
    cases afterLastTagEnd? text <;> rfl
  | cons c rest ih =>
    rw [List.cons_append, afterLastTagEnd?_cons, ih]
    rfl

/-- There is no tag end exactly if no `]` stands directly before a blank. -/
lemma afterLastTagEnd?_eq_none_iff {t : Text} :
    afterLastTagEnd? t = none ↔ ∀ b, isBlank b = true → ¬ [']', b] <:+: t := by
  unfold afterLastTagEnd?
  rw [Option.map_eq_none_iff, List.getLast?_eq_none_iff, List.filter_eq_nil_iff]
  simp only [List.mem_tails, startsWithTagEnd_iff, List.infix_iff_prefix_suffix]
  constructor
  · rintro h b hb ⟨s, hs, hsuffix⟩
    exact h s hsuffix ⟨b, hb, hs⟩
  · rintro h s hsuffix ⟨b, hb, hs⟩
    exact h b hb ⟨s, hs, hsuffix⟩

/-- What follows a tag end is a shorter text at the end. -/
lemma suffix_of_afterLastTagEnd? {t rest : Text} (h : afterLastTagEnd? t = some rest) :
    rest <:+ t ∧ rest.length < t.length := by
  obtain ⟨s, hs, rfl⟩ := Option.map_eq_some_iff.1 h
  obtain ⟨hmem, hstarts⟩ := List.mem_filter.1 (List.mem_of_getLast? hs)
  have hsuffix : s <:+ t := (List.mem_tails _ _).1 hmem
  obtain ⟨b, -, hend⟩ := startsWithTagEnd_iff.1 hstarts
  have htwo : 2 ≤ s.length := hend.length_le
  have hle : s.length ≤ t.length := hsuffix.length_le
  refine ⟨(List.drop_suffix 2 s).trans hsuffix, ?_⟩
  rw [List.length_drop]
  omega

end Text

namespace Line

/-- On one line, the tag ends at the last tag end. -/
lemma afterTag?_eq {t : Text} (hfeed : '\n' ∉ t) : afterTag? t = Text.afterLastTagEnd? t := by
  induction t with
  | nil => rfl
  | cons c rest ih =>
    rw [List.mem_cons, not_or] at hfeed
    rw [afterTag?.eq_def, Text.afterLastTagEnd?_cons, ← ih hfeed.2]
    simp only [Ne.symm hfeed.1, if_false]
    cases afterTag? rest with
    | some text => rfl
    | none =>
      cases rest with
      | nil => rfl
      | cons b text => simp [Text.startsWithTagEnd]

end Line

/-! ## Echoes -/

/-- An echoed line of input. The tag holds no `]`, so that a line is the echo of one text only. -/
structure Echo where
  tag : Text
  input : InputLine
  tag_bracket : ']' ∉ tag
  tag_feed : '\n' ∉ tag

namespace Echo

/-- The line of an echo. -/
def line (echo : Echo) : Text :=
  '>' :: ' ' :: '[' :: (echo.tag ++ ']' :: ' ' :: echo.input.text)

/-- What is captured of the text: what follows its last tag end, or all of it if it has none. -/
def captured (echo : Echo) : Text :=
  (Text.afterLastTagEnd? echo.input.text).getD echo.input.text

lemma captured_eq_text_iff {echo : Echo} :
    echo.captured = echo.input.text ↔
      ∀ b, Text.isBlank b = true → ¬ [']', b] <:+: echo.input.text := by
  rw [← Text.afterLastTagEnd?_eq_none_iff]
  unfold captured
  cases h : Text.afterLastTagEnd? echo.input.text with
  | none => simp
  | some rest =>
    have hlt := (Text.suffix_of_afterLastTagEnd? h).2
    simp only [Option.getD_some, reduceCtorEq, iff_false]
    rintro rfl
    exact Nat.lt_irrefl _ hlt

lemma captured_suffix (echo : Echo) : echo.captured <:+ echo.input.text := by
  unfold captured
  cases h : Text.afterLastTagEnd? echo.input.text with
  | none => exact List.suffix_rfl
  | some rest => exact (Text.suffix_of_afterLastTagEnd? h).1

lemma line_feed (echo : Echo) : '\n' ∉ echo.line := by
  simp [line, echo.tag_feed, echo.input.text_feed]

lemma line_return (echo : Echo) : echo.line.getLast? ≠ some '\r' := by
  have hline : echo.line = ('>' :: ' ' :: '[' :: (echo.tag ++ [']', ' '])) ++ echo.input.text := by
    simp [line]
  rw [hline]
  exact echo.input.getLast?_append_text _

lemma classify_line (echo : Echo) : Line.classify echo.line = .text :=
  Line.classify_cons (by decide) _

/-- An echo is read as a prompt with the captured text. -/
lemma prompt?_line (echo : Echo) : Line.prompt? echo.line = some (.echoed echo.captured) := by
  have hfeed : '\n' ∉ echo.tag ++ ']' :: ' ' :: echo.input.text := by
    simp [echo.tag_feed, echo.input.text_feed]
  have hafter :
      Line.afterTag? (echo.tag ++ ']' :: ' ' :: echo.input.text) = some echo.captured := by
    rw [Line.afterTag?_eq hfeed, Text.afterLastTagEnd?_append]
    rfl
  -- the text goes on to the end of the line
  have hwhole : echo.captured.takeWhile (· != '\n') = echo.captured := by
    rw [List.takeWhile_eq_self_iff]
    intro c hc
    have hne : c ≠ '\n' := fun heq => echo.input.text_feed (heq ▸ echo.captured_suffix.mem hc)
    simpa using hne
  have hechoed : Line.echoed? echo.line = some echo.captured := by
    have hunfold : Line.echoed? echo.line
        = (Line.afterTag? (echo.tag ++ ']' :: ' ' :: echo.input.text)).map
          fun text => text.takeWhile (· != '\n') := rfl
    rw [hunfold, hafter, Option.map_some, hwhole]
  simp [Line.prompt?, hechoed]

/-- Echoes are filed as prompts, as they are. -/
lemma prompts_lines (echoes : List Echo) :
    (Report.ofLines (echoes.map Echo.line)).get .prompts = echoes.map Echo.line := by
  have hmarkers : ∀ line ∈ echoes.map Echo.line, (Line.classify line).isMarker = false := by
    intro line hline
    obtain ⟨echo, -, rfl⟩ := List.mem_map.1 hline
    rw [echo.classify_line]
    rfl
  rw [Report.get_ofLines]
  refine (Reader.yields_block (.free _ hmarkers)).prompts.trans ?_
  refine List.filter_eq_self.2 fun line hline => ?_
  obtain ⟨echo, -, rfl⟩ := List.mem_map.1 hline
  rw [echo.prompt?_line]
  rfl

lemma prompts_joinEnds (echoes : List Echo) (ends : Nat → LineEnd) :
    (Report.ofText (Text.joinEnds ends (echoes.map Echo.line))).get .prompts
      = echoes.map Echo.line := by
  cases echoes with
  | nil => rfl
  | cons echo rest =>
    have hlines : Text.lines (Text.joinEnds ends ((echo :: rest).map Echo.line))
        = (echo :: rest).map Echo.line := by
      apply Text.lines_joinEnds (by simp)
      · intro line hline
        obtain ⟨x, -, rfl⟩ := List.mem_map.1 hline
        exact x.line_feed
      · intro line hline
        obtain ⟨x, -, rfl⟩ := List.mem_map.1 (List.dropLast_subset _ hline)
        exact x.line_return
    unfold Report.ofText
    rw [hlines, prompts_lines]

end Echo

namespace Report

/-- **The full input gives back texts without a tag end.** However the lines of echoed input are
ended, none of them is malformed. Each echo gives what follows the last `]` of its text that stands
directly before a blank, unless that is empty or a bare rule, and the texts come back as they are
exactly if none of them holds a `]` directly before a blank. -/
theorem fullInput_echoes (echoes : List Echo) (ends : Nat → LineEnd) :
    let e := (ofText (Text.joinEnds ends (echoes.map Echo.line))).fullInput
    e.isClean = true ∧
    e.items = (echoes.map Echo.captured).filter isContent ∧
    (e.items = echoes.map (·.input.text) ↔
      ∀ echo ∈ echoes, ∀ b, Text.isBlank b = true → ¬ [']', b] <:+: echo.input.text) := by
  intro e
  have hread : ∀ echo ∈ echoes,
      (Line.prompt? echo.line).map Prompt.text = some echo.captured := by
    intro echo _
    rw [echo.prompt?_line]
    rfl
  obtain ⟨hclean, hitems, hall⟩ := Extraction.ofBucket_map
    (fun line => (Line.prompt? line).map Prompt.text) (Echo.prompts_joinEnds echoes ends) hread
    (fun echo _ => echo.captured_suffix)
  refine ⟨hclean, hitems, hall.trans ?_⟩
  simp only [Echo.captured_eq_text_iff]

/-- The text of an echo is cut behind an index in brackets. -/
theorem fullInput_echo_index : ∃ echo : Echo,
    echo.line = "> [Solver] a[0] = 1".toList ∧ echo.input.text = "a[0] = 1".toList ∧
    (ofText (Text.joinLines [echo.line])).fullInput.items = ["= 1".toList] ∧
    (ofText (Text.joinLines [echo.line])).fullInput.items ≠ [echo.input.text] :=
  ⟨{ tag := "Solver".toList
     input :=
      { text := "a[0] = 1".toList
        text_feed := by decide
        text_return := by decide
        text_ne := by decide
        text_rule := by decide }
     tag_bracket := by decide
     tag_feed := by decide }, by decide, by decide, by decide, by decide⟩

end Report

end SolverInput
