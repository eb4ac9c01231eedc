import SolverInput.Report.Bucket
import SolverInput.Text.Blank

/-!
# Structural lines of a report

What one line means for the structure of a report, seen on its own: it opens a section
(`===== LABEL =====`), closes one (`=====`), heads a debug table, is a dashed rule, or is plain
text. Prompts are recognised separately, since a prompt line is kept whatever its structure.
-/

namespace SolverInput

/-- The structural verdict on a single line. -/
inductive LineClass where
  /-- Opens the section with this trimmed label, which may be empty. -/
  | sectionStart (label : Text)
  /-- A bare run of `=`. -/
  | sectionEnd
  /-- A header row of a debug table. -/
  | tableHeader (kind : TableKind)
  /-- A bare run of `-`. -/
  | rule
  /-- Anything else. -/
  | text
  deriving DecidableEq

namespace Line

/-! ## Section markers and rules -/

/-- The label of the section that collects macro definitions. -/
def macroLabel : Text := "M A C R O".toList

/-- The label of the section that holds the debug tables. -/
def debugLabel : Text := "D E B U G".toList

/-- Labels are spelled with capital letters and spaces. -/
def isLabelChar (c : Char) : Bool :=
  c == ' ' || ('A' ≤ c && c ≤ 'Z')

/-- The trimmed label of a line `===== LABEL =====`.

The middle of the line is what stands between its leading and its trailing run of `=`. Blanks
around the label are dropped. A label may be empty, but then at least one space has to stand in the
middle. -/
def sectionLabel? (line : Text) : Option Text :=
  if line.head? = some '=' ∧ line.getLast? = some '=' then
    let middle := Text.dropEndWhile (· == '=') (line.dropWhile (· == '='))
    let label := Text.trim middle
    if label.all isLabelChar ∧ (label ≠ [] ∨ ' ' ∈ middle) then some label else none
  else none

/-- Tells whether a line is a run of at least one `c` and nothing else. -/
def isRunOf (c : Char) (line : Text) : Bool :=
  !line.isEmpty && line.all (· == c)

/-- A bare run of `=` closes a section. -/
def isSectionEnd (line : Text) : Bool :=
  isRunOf '=' line

/-- A bare run of `-` is a rule. -/
def isRule (line : Text) : Bool :=
  isRunOf '-' line

/-! ## Table headers -/

/-- What follows `word` and at least one blank, the blanks dropped. -/
def afterWord? (word : String) (line : Text) : Option Text :=
  match word.toList.isPrefixOf? line with
  | some (c :: rest) => if Text.isBlank c then some (Text.skipBlanks rest) else none
  | _ => none

/-- Tells whether a line starts with two words, each followed by blanks, and then with `last`. -/
def startsWithColumns (first second last : String) (line : Text) : Bool :=
  match (afterWord? first line).bind (afterWord? second) with
  | some rest => last.toList.isPrefixOf rest
  | none => false

/-- The general table header: `NO.`, blanks, and a remainder of one line with a column bar. -/
def isNumberedHeader (line : Text) : Bool :=
  match afterWord? "NO." line with
  | some rest => !rest.contains '\n' && rest.contains '|'
  | none => false

/-- The table that a line heads. The general pattern comes last, since it also fits the headers
of the variable and the function table. -/
def tableKind? (line : Text) : Option TableKind :=
  if startsWithColumns "LINE" "PROPERTY" "|CONTENT" line then some .inputs
  else if startsWithColumns "NO." "VARIABLE" "|VALUE" line then some .vars
  else if startsWithColumns "NO." "FUNCTIONS" "|CONTENT" line then some .functions
  else if isNumberedHeader line then some .tokens
  else none

/-! ## The verdict -/

/-- Classifies a line, trying the patterns in the order of the constructors of `LineClass`. -/
def classify (line : Text) : LineClass :=
  match sectionLabel? line with
  | some label => .sectionStart label
  | none =>
    if isSectionEnd line then .sectionEnd
    else match tableKind? line with
      | some kind => .tableHeader kind
      | none => if isRule line then .rule else .text

end Line

end SolverInput
