import SolverInput.Text.Blank

/-!
# Prompts

The solver echoes each input line as `> [tag] text` and copies comments as they are. Together these
lines hold the input file as the user wrote it.
-/

namespace SolverInput

/-- A prompt line with the text that it carries. -/
inductive Prompt where
  /-- An echoed line `> [tag] text`, with its text. -/
  | echoed (text : Text)
  /-- A comment, from its `#` on. -/
  | comment (text : Text)
  deriving DecidableEq

/-- The text of a prompt. -/
def Prompt.text : Prompt → Text
  | echoed text => text
  | comment text => text

namespace Line

/-- What follows the last `]` of the current line that stands directly before a blank; the blank
is dropped, and it may be the line feed that ends the line. -/
def afterTag? : Text → Option Text
  | [] => none
  | c :: rest =>
    if c = '\n' then none
    else match afterTag? rest with
      | some text => some text
      | none =>
        match rest with
        | b :: text => if c = ']' ∧ Text.isBlank b then some text else none
        | [] => none

/-- The text of an echoed line: `>`, blanks, a tag in square brackets, one blank, and the text up
to the end of the line. -/
def echoed? (line : Text) : Option Text :=
  match line with
  | '>' :: rest =>
    match Text.skipBlanks rest with
    | '[' :: tag => (afterTag? tag).map fun text => text.takeWhile (· != '\n')
    | _ => none
  | _ => none

/-- The text of a comment: it starts with the first character that is not blank, a `#`, and has
no line feed. -/
def comment? (line : Text) : Option Text :=
  match Text.skipBlanks line with
  | '#' :: rest => if '\n' ∈ rest then none else some ('#' :: rest)
  | _ => none

/-- The prompt on a line. -/
def prompt? (line : Text) : Option Prompt :=
  match echoed? line with
  | some text => some (.echoed text)
  | none => (comment? line).map .comment

end Line

end SolverInput
