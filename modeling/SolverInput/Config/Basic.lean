import SolverInput.Config.Error
import SolverInput.Json.Basic

/-!
# The configuration

What the tools take from the merged configuration values, and how it is read from them. Leaves are
coerced: a number or a spelled-out answer can stand for a truth value, and any number or truth value
for a text. A list in place of a section is read field by field in order.
-/

namespace SolverInput

/-- The configuration of the tools. -/
structure Config where
  /-- The completion dictionary, if a path is configured. -/
  completionDictionary : Option Path
  /-- Whether key segments are highlighted. -/
  highlighting : Bool
  /-- The foreground colour of each kind of token, by name. -/
  colors : List (String × String)
  /-- The file name pattern of reports. -/
  reportPattern : String
  /-- The language that editors give to reports. -/
  languageId : String
  /-- The extension of extracted files. -/
  outputExtension : String
  deriving DecidableEq

namespace Config

/-! ## Leaves -/

/-- Reads a truth value. Numbers are true unless they are zero; texts are read in any letter
case. -/
def readBoolean (key : List KeyPart) (value : Value) : Except Error Bool :=
  match value with
  | .boolean _ b => .ok b
  | .integer _ n => .ok (n != 0)
  | .float _ x => .ok (!x.isZero)
  | .text origin s =>
    let answer := Text.lower s
    if answer ∈ ["1", "true", "on", "yes"] then .ok true
    else if answer ∈ ["0", "false", "off", "no"] then .ok false
    else .error (.wrongType (.text answer) .boolean key origin)
  | other => .error (.wrongType (.ofValue other) .boolean key other.origin)

/-- Reads a text. -/
def readText (key : List KeyPart) (value : Value) : Except Error String :=
  match value with
  | .text _ s => .ok s
  | .boolean _ b => .ok (if b then "true" else "false")
  | .integer _ n => .ok n.repr
  | .float _ x => .ok x.text
  | other => .error (.wrongType (.ofValue other) .text key other.origin)

/-- Reads a text that may be absent. -/
def readOptionalText (key : List KeyPart) (value : Value) : Except Error (Option String) :=
  match value with
  | .nothing _ => .ok none
  | other => (readText key other).map some

/-- Reads a table of texts. -/
def readTexts (key : List KeyPart) (value : Value) : Except Error (List (String × String)) :=
  match value with
  | .table _ members => members.mapM fun (name, member) => do
      return (name, ← readText (key ++ [.name name]) member)
  | other => .error (.wrongShape (.ofValue other) "a map")

/-! ## Sections -/

/-- A section of the configuration: its name, the name of its record in messages, and its number
of fields. -/
structure SectionShape where
  name : String
  record : String
  fields : Nat

/-- The description of a record with its number of fields. -/
def SectionShape.description (shape : SectionShape) : String :=
  "struct " ++ shape.record ++ " with " ++ Nat.repr shape.fields ++
    (if shape.fields = 1 then " element" else " elements")

/-- A field of a section, with its key. `none` if the section lacks it. -/
def field? (shape : SectionShape) (values : Value) (index : Nat) (name : String) :
    Except Error (Option (List KeyPart × Value)) :=
  match values with
  | .table _ members => .ok ((members.lookup name).map (([.name shape.name, .name name], ·)))
  | .list _ items => .ok (items[index]?.map (([.name shape.name, .index index], ·)))
  | other => .error (.wrongShape (.ofValue other) ("struct " ++ shape.record))

/-- A field that a section has to have. -/
def field (shape : SectionShape) (values : Value) (index : Nat) (name : String) :
    Except Error (List KeyPart × Value) := do
  match ← field? shape values index name with
  | some found => .ok found
  | none =>
    match values with
    | .list _ items => .error (.tooShort items.length shape.description)
    | _ => .error (.missingField name)

/-- The values of a section that has to be there. -/
def sectionValues (root : Value) (name : String) : Except Error Value :=
  match root.member? name with
  | some values => .ok values
  | none => .error (.missingField name)

/-- The section on the language server. -/
def serverShape : SectionShape := ⟨"server", "ServerConfig", 1⟩

/-- The section on highlighting. -/
def highlightingShape : SectionShape := ⟨"highlighting", "HighlightingConfig", 2⟩

/-- The section on report files. -/
def filesShape : SectionShape := ⟨"files", "FilesConfig", 2⟩

/-- The section on extraction. -/
def extractShape : SectionShape := ⟨"extract", "ExtractConfig", 1⟩

/-- Reads the server section, which may be absent. -/
def readServer (root : Value) : Except Error (Option Path) := do
  match root.member? serverShape.name with
  | none => .ok none
  | some values =>
    match ← field? serverShape values 0 "completion_dictionary" with
    | none => .ok none
    | some (key, value) => return (← readOptionalText key value).map Path.mk

/-- Reads a configuration from the merged values. Colours are sorted by name. -/
def read (root : Value) : Except Error Config := do
  let completionDictionary ← readServer root
  let values ← sectionValues root highlightingShape.name
  let (key, value) ← field highlightingShape values 0 "enabled"
  let highlighting ← readBoolean key value
  let (key, value) ← field highlightingShape values 1 "colors"
  let colors ← readTexts key value
  let values ← sectionValues root filesShape.name
  let (key, value) ← field filesShape values 0 "report_pattern"
  let reportPattern ← readText key value
  let (key, value) ← field filesShape values 1 "language_id"
  let languageId ← readText key value
  let values ← sectionValues root extractShape.name
  let (key, value) ← field extractShape values 0 "output_extension"
  let outputExtension ← readText key value
  return {
    completionDictionary, highlighting, reportPattern, languageId, outputExtension
    colors := colors.mergeSort fun a b => decide (a.1 ≤ b.1) }

/-! ## Editor settings -/

/-- The colour rules for an editor's theme. There are none if highlighting is off or no colour is
configured. -/
def colorRules? (config : Config) : Option Json :=
  if !config.highlighting || config.colors.isEmpty then none
  else
    some (.object [("rules", .object (config.colors.map fun (name, color) =>
      (name, .object [("foreground", .string color)])))])

/-- The association of report files with their language. -/
def associations (config : Config) : Json :=
  .object [("files.associations",
    .object [(config.reportPattern, .string config.languageId)])]

end Config

end SolverInput
