import SolverInput.Config.Load
import SolverInput.Json.Printer
import SolverInput.Key.Token
import SolverInput.Report.Extract

/-!
# Printed views

What the commands print: the buckets of a report, the key segments of a document, and the entries
that a configuration makes for an editor. Every failure of a command is listed here with its
message.
-/

namespace SolverInput.CommandLine

/-- Why a command fails. -/
inductive Failure where
  | config (error : Config.Error)
  | load (error : LoadError)
  | malformed (rows : List MalformedRow)
  | write (path : Path) (cause : FileError)
  | highlightingDisabled
  deriving DecidableEq

/-- The message of a failure. -/
def Failure.message : Failure → String
  | config error => "invalid configuration: " ++ error.message
  | load error => error.message
  | malformed rows => malformedMessage rows
  | write path cause => "cannot write " ++ path.text ++ ": " ++ cause.message
  | highlightingDisabled => "semantic highlighting is disabled in the configuration"

/-- The buckets of a report by name. -/
def sectionsView (report : Report) : String :=
  (Json.object (Bucket.all.map fun bucket => (bucket.name, Json.texts (report.get bucket)))).pretty

/-- A key segment: where it is, how long it is, and its rank counted from one. -/
def tokenLine (token : KeyToken) : String :=
  Nat.repr token.line ++ ":" ++ Nat.repr token.column ++ ":" ++ Nat.repr token.length ++
    " subkey" ++ Nat.repr (token.rank + 1) ++ "\n"

/-- The key segments of a document, one a line. -/
def tokensView (text : Text) : String :=
  String.join ((Key.tokens text).map tokenLine)

/-- The colour rules of a configuration, as an entry of an editor's settings. -/
def themeView (config : Config) : Except Failure String :=
  match config.colorRules? with
  | some rules =>
    .ok (Json.object [("editor.semanticTokenColorCustomizations", rules)]).pretty
  | none => .error .highlightingDisabled

/-- The file association of a configuration, as an entry of an editor's settings. -/
def associationsView (config : Config) : String :=
  config.associations.pretty

/-- The text of an extraction and its malformed rows. A strict extraction fails if there are any. -/
def checked (extraction : Extraction Text) (strict : Bool) :
    Except Failure (Text × List MalformedRow) :=
  if strict then
    match extraction.strict with
    | .ok items => .ok (Text.joinLines items, [])
    | .error rows => .error (.malformed rows)
  else .ok (extraction.render, extraction.malformed)

end SolverInput.CommandLine
