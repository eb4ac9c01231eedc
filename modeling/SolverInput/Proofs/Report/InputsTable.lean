import SolverInput.Proofs.Report.Extraction
import SolverInput.Proofs.Report.Marker
import SolverInput.Proofs.Report.Row
import SolverInput.Proofs.Report.WellFormed

/-!
# The inputs table

The debug section in which the solver lists its input, as a data type (`InputsSection`): the marker
of the section, the header of the table with the line under it, numbered rows with two columns of
any text before their content, a rule, and a run of `=`. Whichever way the lines of such a section
are ended, the raw input that is extracted from it has no malformed row, and it holds for each row
what follows the last bar of its content. So the contents come back exactly if none of them holds
a bar.

* `InputRow`: what one row is read as, from its characters (`rowContent?_line`);
* `InputsSection`: the section is one block of a well-formed report, so its rows are filed as they
  are (`inputs_lines`); a carriage return at the end of its header or of the line under it makes no
  difference (`lines_joinEnds`).
-/

namespace SolverInput

/-! ## Rows -/

/-- A row of the inputs table. The columns before the content can be any text of one line, also one
with bars. -/
structure InputRow where
  number : Text
  padding : Text
  property : Text
  content : InputLine
  number_ne : number ≠ []
  number_digits : ∀ c ∈ number, c.isDigit = true
  padding_feed : '\n' ∉ padding
  property_feed : '\n' ∉ property

namespace InputRow

/-- The line of a row. -/
def line (row : InputRow) : Text :=
  row.number ++ row.padding ++ '|' :: row.property ++ '|' :: row.content.text

/-- A row starts with a digit. -/
lemma exists_line_eq_cons (row : InputRow) :
    ∃ digit rest, digit.isDigit = true ∧ row.line = digit :: rest := by
  obtain ⟨digit, digits, hnumber⟩ := List.exists_cons_of_ne_nil row.number_ne
  refine ⟨digit, digits ++ row.padding ++ '|' :: row.property ++ '|' :: row.content.text, ?_, ?_⟩
  · exact row.number_digits digit (by simp [hnumber])
  · simp [line, hnumber]

lemma classify_line (row : InputRow) : Line.classify row.line = .text := by
  obtain ⟨digit, rest, hdigit, hline⟩ := row.exists_line_eq_cons
  have hne : ∀ c : Char, c.isDigit = false → digit ≠ c := fun c hc heq => by simp_all
  rw [hline]
  exact Line.classify_cons ⟨hne _ rfl, hne _ rfl, hne _ rfl, hne _ rfl⟩ rest

lemma line_feed (row : InputRow) : '\n' ∉ row.line := by
  have hnumber : '\n' ∉ row.number := fun h => absurd (row.number_digits _ h) (by decide)
  simp [line, hnumber, row.padding_feed, row.property_feed, row.content.text_feed]

lemma line_return (row : InputRow) : row.line.getLast? ≠ some '\r' := by
  unfold line
  rw [List.append_cons]
  exact row.content.getLast?_append_text _

/-- What follows the last bar of the content is what follows the last bar of the row. -/
lemma rowContent?_line (row : InputRow) :
    Line.rowContent? row.line = some (Text.afterLast '|' row.content.text) := by
  obtain ⟨before, hbefore⟩ := Text.exists_cons_eq_append_afterLast '|' row.content.text
  have hline : row.line = (row.number ++ row.padding ++ '|' :: row.property ++ before)
      ++ '|' :: Text.afterLast '|' row.content.text := by
    rw [line, hbefore, List.append_assoc _ before]
  obtain ⟨digit, rest, hdigit, hcons⟩ := row.exists_line_eq_cons
  have hstarts : Line.startsWithDigit row.line = true := by rw [hcons]; exact hdigit
  have hfeed := row.line_feed
  rw [hline] at hstarts hfeed ⊢
  exact Line.rowContent?_append hstarts hfeed (by simp) (Text.not_mem_afterLast _ _)

end InputRow

/-! ## The section -/

/-- A debug section with an inputs table and nothing else. The line under the header can be any
line. -/
structure InputsSection where
  start : Text
  header : Text
  underline : Text
  rows : List InputRow
  closing : Text
  close : Text
  start_class : Line.classify start = .sectionStart Line.debugLabel
  header_class : Line.classify header = .tableHeader .inputs
  closing_class : Line.classify closing = .rule
  close_class : Line.classify close = .sectionEnd
  start_feed : '\n' ∉ start
  header_feed : '\n' ∉ header
  underline_feed : '\n' ∉ underline

namespace InputsSection

/-- The lines from the first row on. -/
def rowLines (s : InputsSection) : List Text :=
  s.rows.map InputRow.line ++ [s.closing, s.close]

/-- The lines of the section. -/
def lines (s : InputsSection) : List Text :=
  s.start :: s.header :: s.underline :: s.rowLines

/-- The section as a block of a report. -/
def block (s : InputsSection) : Block :=
  .debug s.start
    [.table
      { kind := .inputs
        header := s.header
        underline := s.underline
        rows := s.rows.map InputRow.line
        closing := s.closing
        header_class := s.header_class
        rows_class := by
          intro line hline
          obtain ⟨row, -, rfl⟩ := List.mem_map.1 hline
          rw [row.classify_line]
          exact ⟨rfl, by simp⟩
        closing_class := s.closing_class }]
    s.close s.start_class s.close_class

lemma lines_block (s : InputsSection) : s.block.lines = s.lines := by
  simp [block, Block.lines, DebugPart.lines, DebugTable.lines, lines, rowLines]

/-- The rows are filed as they are. -/
lemma inputs_lines (s : InputsSection) :
    (Report.ofLines s.lines).get .inputs = s.rows.map InputRow.line := by
  have hrows := (Reader.yields_block s.block).rows .inputs
  rw [Report.get_ofLines, ← lines_block]
  refine hrows.trans ?_
  simp [block, Block.contents, DebugPart.contents, DebugTable.contents]

/-- The section as it is cut apart when its lines were ended by `ends`: the header and the line
under it may lose a carriage return. -/
def kept (s : InputsSection) (ends : Nat → LineEnd) : InputsSection :=
  { s with
    header := (ends 1).kept s.header
    underline := (ends 2).kept s.underline
    header_class := by
      cases ends 1 with
      | feed => exact Line.classify_dropReturn_inputs s.header_class
      | returnFeed => exact s.header_class
    header_feed := fun h => s.header_feed (Text.mem_of_mem_kept h)
    underline_feed := fun h => s.underline_feed (Text.mem_of_mem_kept h) }

/-- From the first row on, every line is a line of its own: it holds no line feed, and it does not
end in a carriage return. -/
lemma rowLines_feed_return (s : InputsSection) :
    ∀ line ∈ s.rowLines, '\n' ∉ line ∧ line.getLast? ≠ some '\r' := by
  have hrun : ∀ {c : Char} {line : Text}, Line.isRunOf c line = true → '\n' ≠ c → '\r' ≠ c →
      '\n' ∉ line ∧ line.getLast? ≠ some '\r' := fun h hfeed hreturn =>
    ⟨Line.not_mem_of_isRunOf h hfeed,
      fun hlast => Line.not_mem_of_isRunOf h hreturn (List.mem_of_getLast? hlast)⟩
  intro line hline
  simp only [rowLines, List.mem_append, List.mem_map, List.mem_cons, List.not_mem_nil,
    or_false] at hline
  rcases hline with ⟨row, -, rfl⟩ | rfl | rfl
  · exact ⟨row.line_feed, row.line_return⟩
  · exact hrun (Line.hasPattern_of_classify s.closing_class) (by decide) (by decide)
  · exact hrun (Line.hasPattern_of_classify s.close_class) (by decide) (by decide)

/-- The lines of a section that are joined are cut apart again. -/
lemma lines_joinEnds (s : InputsSection) (ends : Nat → LineEnd) :
    Text.lines (Text.joinEnds ends s.lines) = (s.kept ends).lines := by
  have hne : s.rowLines ≠ [] := by simp [rowLines]
  have hstart : (ends 0).kept s.start = s.start := by
    have hlast := Line.getLast?_of_sectionLabel? (Line.hasPattern_of_classify s.start_class)
    exact Text.kept_of_getLast? (by simp [hlast]) _
  have hrows : ∀ ends, Text.lines (Text.joinEnds ends s.rowLines) = s.rowLines := fun ends =>
    Text.lines_joinEnds hne (fun line hline => (s.rowLines_feed_return line hline).1)
      (fun line hline => (s.rowLines_feed_return line (List.dropLast_subset _ hline)).2) ends
  unfold lines
  rw [Text.lines_joinEnds_cons s.start_feed (by simp),
    Text.lines_joinEnds_cons s.header_feed (by simp),
    Text.lines_joinEnds_cons s.underline_feed hne, hstart, hrows]
  rfl

end InputsSection

namespace Report

/-- **The inputs table gives back contents without bars.** However the lines of a section with an
inputs table are ended, none of its rows is malformed. Each row gives what follows the last bar of
its content, unless that is empty or a bare rule, and the contents come back as they are exactly if
none of them holds a bar. -/
theorem rawInput_inputsSection (s : InputsSection) (ends : Nat → LineEnd) :
    let e := (ofText (Text.joinEnds ends s.lines)).rawInput
    e.isClean = true ∧
    e.items = (s.rows.map fun row => Text.afterLast '|' row.content.text).filter isContent ∧
    (e.items = s.rows.map (·.content.text) ↔ ∀ row ∈ s.rows, '|' ∉ row.content.text) := by
  intro e
  have hrows : (ofText (Text.joinEnds ends s.lines)).get .inputs = s.rows.map InputRow.line := by
    unfold ofText
    rw [s.lines_joinEnds]
    exact (s.kept ends).inputs_lines
  obtain ⟨hclean, hitems, hall⟩ := Extraction.ofBucket_map Line.rowContent? hrows
    (fun row _ => row.rowContent?_line) (fun row _ => Text.afterLast_suffix '|' row.content.text)
  refine ⟨hclean, hitems, hall.trans ?_⟩
  simp only [Text.afterLast_eq_self_iff]

-- a row with bars in its padding, and a content whose first part is lost
example : ∃ s : InputsSection,
    s.lines = ["=D E B U G=".toList, "LINE PROPERTY |CONTENT\r".toList, "-".toList,
      "7|p |x|a|b = 1".toList, "-".toList, "=".toList] ∧
    s.rows.map (·.content.text) = ["a|b = 1".toList] ∧
    (ofText (Text.joinLines s.lines)).rawInput.items = ["b = 1".toList] :=
  ⟨{ start := "=D E B U G=".toList
     header := "LINE PROPERTY |CONTENT\r".toList
     underline := "-".toList
     rows :=
      [{ number := "7".toList
         padding := "|p ".toList
         property := "x".toList
         content :=
          { text := "a|b = 1".toList
            text_feed := by decide
            text_return := by decide
            text_ne := by decide
            text_rule := by decide }
         number_ne := by decide
         number_digits := by simp
         padding_feed := by decide
         property_feed := by decide }]
     closing := "-".toList
     close := "=".toList
     start_class := by decide
     header_class := by decide
     closing_class := by decide
     close_class := by decide
     start_feed := by decide
     header_feed := by decide
     underline_feed := by decide }, by decide, by decide, by decide⟩

end Report

end SolverInput
