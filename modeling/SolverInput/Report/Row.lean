import SolverInput.Text.Basic

/-!
# Rows of debug tables

A row starts with its number and has columns divided by bars. The inputs table keeps the content
of the input file after the last bar; a row of a token table ends in three cells `{"…"}`.
-/

namespace SolverInput

/-- The three quoted cells of a token row. -/
structure TokenCells where
  first : Text
  second : Text
  third : Text
  deriving DecidableEq

namespace Line

/-- Tells whether a row starts with a decimal digit. -/
def startsWithDigit (line : Text) : Bool :=
  match line with
  | c :: _ => c.isDigit
  | [] => false

/-- The text after the last bar of a numbered row, which needs at least two bars. -/
def rowContent? (line : Text) : Option Text :=
  if startsWithDigit line ∧ '\n' ∉ line then
    match Text.splitAtLast? ['|'] line with
    | some (before, content) => if '|' ∈ before then some content else none
    | none => none
  else none

/-- What stands between two cells. -/
def cellGap : Text := ['"', '}', ',', ' ', '{', '"']

/-- The three cells at the end of a numbered row with at least two bars, the second of which
stands right before the first cell. The row is read from its end, so the first cell starts as far
to the right as possible. -/
def tokenCells? (line : Text) : Option TokenCells :=
  if startsWithDigit line ∧ '\n' ∉ line then
    match Text.splitAtLast? ['"', '}'] line with
    | some (body, []) => do
      let (body, third) ← Text.splitAtLast? cellGap body
      let (body, second) ← Text.splitAtLast? cellGap body
      let (columns, first) ← Text.splitAtLast? ['|', '{', '"'] body
      if '|' ∈ columns then some ⟨first, second, third⟩ else none
    | _ => none
  else none

end Line

end SolverInput
