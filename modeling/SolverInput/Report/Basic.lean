import SolverInput.Report.Prompt
import SolverInput.Report.Section
import SolverInput.Text.Lines

/-!
# Reports

A report is what a reader files while it walks down the lines. Every line that is not passed over
is filed under `prompts` if it is a prompt and, independently, under the bucket that its section
stores it in. Each bucket keeps document order.
-/

namespace SolverInput

/-- The lines of an input report, sorted into buckets. -/
structure Report where
  macros : List Text := []
  inputs : List Text := []
  tokens : List Text := []
  vars : List Text := []
  functions : List Text := []
  prompts : List Text := []
  deriving DecidableEq

/-- A line filed under a bucket. -/
structure Filing where
  bucket : Bucket
  line : Text
  deriving DecidableEq

/-- A reader walking down a report: the section it is in, and whether it passes over the next
line. -/
structure Reader where
  place : Section := .none
  skipping : Bool := false
  deriving DecidableEq

namespace Reader

/-- The reader's step on a line that it does not pass over. -/
def step (r : Reader) (line : Text) : Step :=
  r.place.step (Line.classify line)

/-- Where the reader stands after a line. -/
def next (r : Reader) (line : Text) : Reader :=
  if r.skipping then { r with skipping := false }
  else { place := (r.step line).next, skipping := (r.step line).action = .skipNext }

/-- What the reader files for a line. -/
def filings (r : Reader) (line : Text) : List Filing :=
  if r.skipping then []
  else
    let prompt := if (Line.prompt? line).isSome then [⟨.prompts, line⟩] else []
    match (r.step line).action with
    | .store bucket => prompt ++ [⟨bucket, line⟩]
    | _ => prompt

/-- Everything the reader files for consecutive lines, in order. -/
def file : Reader → List Text → List Filing
  | _, [] => []
  | r, line :: rest => r.filings line ++ (r.next line).file rest

end Reader

namespace Report

/-- The lines of one bucket. -/
def get (report : Report) : Bucket → List Text
  | .macros => report.macros
  | .inputs => report.inputs
  | .tokens => report.tokens
  | .vars => report.vars
  | .functions => report.functions
  | .prompts => report.prompts

/-- The lines filed under one bucket. -/
def linesIn (filings : List Filing) (bucket : Bucket) : List Text :=
  (filings.filter (·.bucket = bucket)).map (·.line)

/-- Sorts filings into a report. -/
def ofFilings (filings : List Filing) : Report where
  macros := linesIn filings .macros
  inputs := linesIn filings .inputs
  tokens := linesIn filings .tokens
  vars := linesIn filings .vars
  functions := linesIn filings .functions
  prompts := linesIn filings .prompts

/-- Reads a report from its lines, starting outside every section. -/
def ofLines (lines : List Text) : Report :=
  ofFilings (Reader.file {} lines)

/-- Reads a report from its text. -/
def ofText (text : Text) : Report :=
  ofLines (Text.lines text)

/-- The size of each bucket, in canonical order. -/
def counts (report : Report) : List (Bucket × Nat) :=
  Bucket.all.map fun bucket => (bucket, (report.get bucket).length)

/-- A report is empty if all its buckets are. -/
def isEmpty (report : Report) : Bool :=
  Bucket.all.all fun bucket => (report.get bucket).isEmpty

end Report

end SolverInput
