import SolverInput.Config.Value
import SolverInput.Files.Tree
import SolverInput.Text.Quoted

/-!
# Configuration errors

Why a configuration cannot be built, and the message for each cause.
-/

namespace SolverInput.Config

/-- What was found in place of the expected value. -/
inductive Found where
  | text (value : String)
  | integer (value : Int)
  | float (value : Double)
  | boolean (value : Bool)
  | nothing
  | list
  | table
  deriving DecidableEq

/-- What a value was found to be. -/
def Found.ofValue : Value → Found
  | .nothing _ => nothing
  | .boolean _ value => boolean value
  | .integer _ value => integer value
  | .float _ value => float value
  | .text _ value => text value
  | .list _ _ => list
  | .table _ _ => table

/-- How a message names what was found. -/
def Found.description : Found → String
  | text value => "string " ++ String.ofList (Text.quoted value.toList)
  | integer value => "integer `" ++ value.repr ++ "`"
  | float value => "floating point `" ++ value.pointedText ++ "`"
  | boolean value => "boolean `" ++ (if value then "true" else "false") ++ "`"
  | nothing => "unit value"
  | list => "sequence"
  | table => "map"

/-- The type that a leaf has to have. -/
inductive LeafType where
  | boolean
  | text
  deriving DecidableEq

/-- How a message names a leaf type. -/
def LeafType.description : LeafType → String
  | boolean => "a boolean"
  | text => "a string"

/-- A part of the key that a message shows. -/
inductive KeyPart where
  | name (name : String)
  | index (index : Nat)
  deriving DecidableEq

/-- Writes a key. A dot stands between a name and what follows it, unless that is an index. -/
def keyText : List KeyPart → String
  | [] => ""
  | .name name :: rest =>
    let tail := keyText rest
    if tail.isEmpty || tail.toList.head? == some '[' then name ++ tail else name ++ "." ++ tail
  | .index index :: rest => "[" ++ Nat.repr index ++ "]" ++ keyText rest

/-- Why a configuration cannot be built. -/
inductive Error where
  /-- A required file is not there. -/
  | fileNotFound (name : String)
  /-- A required file cannot be read. -/
  | unreadable (cause : FileError)
  /-- A file is not a document. -/
  | malformedFile (name : String)
  /-- The key of an override is not a path. -/
  | malformedKey (key : String)
  /-- A leaf has a value of another type. -/
  | wrongType (found : Found) (expected : LeafType) (key : List KeyPart) (origin : Option String)
  /-- A section or map has another shape. -/
  | wrongShape (found : Found) (expected : String)
  /-- A section lacks a field. -/
  | missingField (name : String)
  /-- A list in place of a section is too short. -/
  | tooShort (size : Nat) (expected : String)
  deriving DecidableEq

/-- The message of an error. -/
def Error.message : Error → String
  | fileNotFound name => "configuration file \"" ++ name ++ "\" not found"
  | unreadable cause => cause.message
  | malformedFile name => "invalid document in " ++ name
  | malformedKey key => "invalid key " ++ String.ofList (Text.quoted key.toList)
  | wrongType found expected key origin =>
    "invalid type: " ++ found.description ++ ", expected " ++ expected.description ++
      " for key `" ++ keyText key ++ "`" ++
      (match origin with
        | some file => " in " ++ file
        | none => "")
  | wrongShape found expected =>
    "invalid type: " ++ found.description ++ ", expected " ++ expected
  | missingField name => "missing field `" ++ name ++ "`"
  | tooShort size expected => "invalid length " ++ Nat.repr size ++ ", expected " ++ expected

end SolverInput.Config
