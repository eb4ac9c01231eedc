import SolverInput.Files.Program
import SolverInput.Report.Extraction
import SolverInput.Report.Load
import SolverInput.Report.Output

/-!
# Extracting a report to a file

One request reads a report, extracts it and writes the result. Nothing is written if the report
cannot be read.
-/

namespace SolverInput

/-- Which input is extracted: as the solver read it, or as the user wrote it. -/
inductive ExtractKind where
  | raw
  | full
  deriving DecidableEq

/-- The extraction of a kind. -/
def Report.extract (report : Report) : ExtractKind → Extraction Text
  | .raw => report.rawInput
  | .full => report.fullInput

/-- A request to extract a report. -/
structure ExtractRequest where
  kind : ExtractKind
  input : Path
  output : Option Path
  deriving DecidableEq

/-- What an extraction reports back. -/
structure ExtractOutcome where
  output : Path
  /-- The number of lines written. -/
  lines : Nat
  malformed : List MalformedRow
  deriving DecidableEq

/-- Why an extraction fails. -/
inductive ExtractError where
  | load (error : LoadError)
  | write (path : Path) (cause : FileError)
  deriving DecidableEq

/-- The text of an extraction error. -/
def ExtractError.message : ExtractError → String
  | load error => error.message
  | write path cause => "cannot write " ++ path.text ++ ": " ++ cause.message

/-- Runs a request. The extension is used where the request names no output. -/
def ExtractRequest.run (request : ExtractRequest) (extension : String) :
    FileM ExtractError ExtractOutcome := do
  let text ← FileM.reading fun files => (files.loadReport request.input).mapError .load
  let extraction := (Report.ofText text).extract request.kind
  let output := request.output.getD (request.input.defaultOutput extension)
  (FileM.write output (Text.toBytes extraction.render)).adaptExcept (.write output)
  return ⟨output, extraction.items.length, extraction.malformed⟩

end SolverInput
