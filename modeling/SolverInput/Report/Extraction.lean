import SolverInput.Report.Basic
import SolverInput.Report.Row
import SolverInput.Text.Quoted

/-!
# Extraction

Three views of a report: the raw input (the content column of the inputs table), the full input
(the texts of the prompts) and the rows of the token tables. A line that does not have the shape
its bucket promises is set aside as a malformed row, and the lines after it are still read.
-/

namespace SolverInput

/-- A line of a bucket that could not be read as a row. -/
structure MalformedRow where
  bucket : Bucket
  /-- The position of the line in its bucket. -/
  index : Nat
  line : Text
  deriving DecidableEq

/-- The message that reports a malformed row. -/
def MalformedRow.message (row : MalformedRow) : String :=
  "malformed " ++ row.bucket.name ++ " row " ++ Nat.repr row.index ++ ": " ++
    String.ofList (Text.quoted row.line)

/-- The items read from a bucket, and the rows that could not be read. -/
structure Extraction (α : Type) where
  items : List α := []
  malformed : List MalformedRow := []

namespace Extraction

variable {α : Type}

/-- Reads the lines of a bucket from position `index` on. `read` gives the item of a line; the
items that fail `keep` are left out. -/
def ofRowsFrom (bucket : Bucket) (read : Text → Option α) (keep : α → Bool) :
    Nat → List Text → Extraction α
  | _, [] => {}
  | index, line :: rest =>
    let tail := ofRowsFrom bucket read keep (index + 1) rest
    match read line with
    | some item => if keep item then { tail with items := item :: tail.items } else tail
    | none => { tail with malformed := ⟨bucket, index, line⟩ :: tail.malformed }

/-- Reads all lines of a bucket of a report. -/
def ofBucket (report : Report) (bucket : Bucket) (read : Text → Option α) (keep : α → Bool) :
    Extraction α :=
  ofRowsFrom bucket read keep 0 (report.get bucket)

/-- An extraction is clean if no row was malformed. -/
def isClean (e : Extraction α) : Bool :=
  e.malformed.isEmpty

/-- All items, or all malformed rows if there are any. -/
def strict (e : Extraction α) : Except (List MalformedRow) (List α) :=
  if e.malformed.isEmpty then .ok e.items else .error e.malformed

/-- The text of an extraction: one item a line. -/
def render (e : Extraction Text) : Text :=
  Text.joinLines e.items

end Extraction

/-- The message that reports all malformed rows of a strict extraction. -/
def malformedMessage (rows : List MalformedRow) : String :=
  Nat.repr rows.length ++ " malformed row(s)" ++
    String.join (rows.map fun row => "\n  " ++ row.message)

namespace Report

/-- Extracted texts leave out what is empty or a bare rule. -/
def isContent (text : Text) : Bool :=
  !text.isEmpty && !Line.isRule text

/-- The input file as the solver read it. -/
def rawInput (report : Report) : Extraction Text :=
  .ofBucket report .inputs Line.rowContent? isContent

/-- The input file as the user wrote it. -/
def fullInput (report : Report) : Extraction Text :=
  .ofBucket report .prompts (fun line => (Line.prompt? line).map Prompt.text) isContent

/-- The cells of all token rows. -/
def tokenRows (report : Report) : Extraction TokenCells :=
  .ofBucket report .tokens Line.tokenCells? fun _ => true

end Report

end SolverInput
