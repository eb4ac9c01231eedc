import SolverInput.Config.Basic

/-!
# Server settings

What an editor may change while the server runs. A payload carries the whole settings section: keys
that it leaves out take their defaults, and a payload without the section resets everything. A
malformed section changes nothing.
-/

namespace SolverInput.Editor

/-- Server behaviour that an editor may change. -/
structure Settings where
  semanticHighlighting : Bool
  outputExtension : String
  deriving DecidableEq

namespace Settings

/-- The name of the settings section. -/
def sectionName : String := "MInDesServer"

/-- The settings that a configuration starts with. -/
def ofConfig (config : Config) : Settings :=
  ⟨config.highlighting, config.outputExtension⟩

/-- The keys of a settings section that a payload gives. -/
structure Update where
  semanticHighlighting : Option Bool
  outputExtension : Option String
  deriving DecidableEq

/-- Reads a value that may be left out or null. -/
def optional? {α : Type} (read : Json → Option α) : Option Json → Option (Option α)
  | none | some .null => some none
  | some value => (read value).map some

/-- Reads a settings section: an object, whose other members do not count, or a list of exactly the
two values in order. -/
def Update.ofJson? : Json → Option Update
  | .object members => do
    return ⟨← optional? Json.bool? (members.lookup "semanticHighlighting"),
      ← optional? Json.string? (members.lookup "outputExtension")⟩
  | .array [highlighting, extension] => do
    return ⟨← optional? Json.bool? (some highlighting), ← optional? Json.string? (some extension)⟩
  | _ => none

/-- The settings that an update gives. -/
def Update.over (update : Update) (defaults : Settings) : Settings :=
  ⟨update.semanticHighlighting.getD defaults.semanticHighlighting,
    update.outputExtension.getD defaults.outputExtension⟩

/-- The settings that a payload asks for, or none if its section is malformed. -/
def requested? (defaults : Settings) (payload : Json) : Option Settings :=
  match payload.get? sectionName with
  | none => some defaults
  | some values => (Update.ofJson? values).map (·.over defaults)

/-- Applies a payload to the current settings; the truth value tells whether it was well formed. -/
def apply (defaults current : Settings) (payload : Json) : Settings × Bool :=
  match requested? defaults payload with
  | some settings => (settings, true)
  | none => (current, false)

end Settings

end SolverInput.Editor
