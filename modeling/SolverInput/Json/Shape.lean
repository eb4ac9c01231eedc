import SolverInput.Address.Basic
import SolverInput.Json.Printer

/-!
# Shapes of JSON values

A shape says which values a place of a message can hold. Reading a value by a shape keeps the
members that the shape names and drops the others, or gives the first fault that is found. Members
are looked at in the order in which the object has them, and after all of them the fields that it
lacks.
-/

namespace SolverInput.Json

/-- Whether a field can be left out. -/
inductive Presence where
  | required
  /-- The field can be null. An object can leave it out, a list of the values cannot. -/
  | optional
  /-- The field can be null, and objects and lists can leave it out. -/
  | omissible
  /-- The field can be left out, but it cannot be null. -/
  | defaulted
  deriving DecidableEq

/-- Tells whether a field can be null. -/
def Presence.allowsNull : Presence → Bool
  | optional | omissible => true
  | required | defaulted => false

/-- Tells whether a list of the values can leave a field out. -/
def Presence.allowsGap : Presence → Bool
  | omissible | defaulted => true
  | required | optional => false

/-- The values that a place can hold. -/
inductive Shape where
  | anything
  | text
  /-- A string that is an address. -/
  | address
  | truth
  /-- An integer between two bounds, with the name of that range. -/
  | integer (least greatest : Int) (name : String)
  /-- Any number, with a name for its precision. -/
  | number (name : String)
  | list (item : Shape)
  /-- A list of exactly so many items. -/
  | vector (size : Nat) (item : Shape)
  /-- One of some words, alone or as the only member of an object; messages list them. -/
  | word (words : List String)
  /-- The first of several shapes that fits, with a name for all of them. -/
  | choice (name : String) (choices : List Shape)
  /-- A truth value, or else the other shape. -/
  | truthOr (shape : Shape)
  /-- An object with members of one shape, whose names may have to be addresses. Messages call it
  by the given words. -/
  | table (expected : String) (addressed : Bool) (item : Shape)
  /-- An object with these fields, or a list of their values in order. -/
  | record (name : String) (fields : List (String × Presence × Shape))
  /-- An object with these fields and those of the parts, which are read after them from the members
  that are left. -/
  | mixed (name : String) (fields : List (String × Presence × Shape)) (parts : List Shape)
  /-- An object of which one member tells which of several shapes the other members have. -/
  | tagged (tag : String) (variants : List (String × Shape))

/-- A field of a record: its name, whether it can be left out, and its shape. -/
abbrev Field := String × Presence × Shape

namespace Shape

/-- Signed integers of 32 bits. -/
def signed : Shape := .integer (-2147483648) 2147483647 "i32"

/-- Unsigned integers of 32 bits. -/
def unsigned : Shape := .integer 0 4294967295 "u32"

/-- Signed integers of 64 bits. -/
def long : Shape := .integer (-9223372036854775808) 9223372036854775807 "i64"

end Shape

/-- A field that has to be there. -/
def Field.required (name : String) (shape : Shape) : Field := (name, .required, shape)

/-- A field that can be null or left out. -/
def Field.optional (name : String) (shape : Shape) : Field := (name, .optional, shape)

/-- A truth value that can be null or left out. -/
def Field.flag (name : String) : Field := (name, .optional, .truth)

/-! ## Faults -/

/-- Why a value does not have a shape. -/
inductive Fault where
  | missingField (name : String)
  | wrongType (found expected : String)
  | wrongValue (found expected : String)
  | wrongLength (size : Nat) (expected : String)
  | badAddress (fault : Address.Fault) (text : String)
  | unknownWord (word : String) (words : List String)
  | noChoice (name : String)
  deriving DecidableEq

/-- How a list of expected words is written. -/
def wordsText : List String → String
  | [] => "there are no variants"
  | [word] => "expected `" ++ word ++ "`"
  | [first, second] => "expected `" ++ first ++ "` or `" ++ second ++ "`"
  | words => "expected one of " ++ String.intercalate ", " (words.map fun w => "`" ++ w ++ "`")

/-- The message of a fault. -/
def Fault.message : Fault → String
  | missingField name => "missing field `" ++ name ++ "`"
  | wrongType found expected => "invalid type: " ++ found ++ ", expected " ++ expected
  | wrongValue found expected => "invalid value: " ++ found ++ ", expected " ++ expected
  | wrongLength size expected => "invalid length " ++ Nat.repr size ++ ", expected " ++ expected
  | badAddress fault text => fault.message text
  | unknownWord word words => "unknown variant `" ++ word ++ "`, " ++ wordsText words
  | noChoice name => "data did not match any variant of untagged enum " ++ name

/-- How a message names a value. -/
def description : Json → String
  | null => "null"
  | bool value => "boolean `" ++ (if value then "true" else "false") ++ "`"
  | integer value => "integer `" ++ integerText value ++ "`"
  | float value => "floating point `" ++ floatText value ++ "`"
  | string value => "string " ++ String.ofList (Text.quoted value.toList)
  | array _ => "sequence"
  | object _ => "map"

/-- The fault of a value that is not what a place expects. -/
def Fault.unexpected (value : Json) (expected : String) : Fault :=
  .wrongType value.description expected

/-! ## Single values -/

/-- Reads a string. -/
def readText (value : Json) : Except Fault Json :=
  match value with
  | .string _ => .ok value
  | _ => .error (.unexpected value "a string")

/-- Reads an address, and gives its normal form. -/
def readAddress (value : Json) : Except Fault Json :=
  match value with
  | .string s =>
    match Address.parse s with
    | .ok address => .ok (.string address.text)
    | .error fault => .error (.badAddress fault s)
  | _ => .error (.unexpected value "a string representing an URL")

/-- Reads a truth value. -/
def readTruth (value : Json) : Except Fault Json :=
  match value with
  | .bool _ => .ok value
  | _ => .error (.unexpected value "a boolean")

/-- Reads an integer between two bounds. -/
def readInteger (least greatest : Int) (name : String) (value : Json) : Except Fault Json :=
  match value with
  | .integer n =>
    if least ≤ n ∧ n ≤ greatest then .ok value else .error (.wrongValue value.description name)
  | _ => .error (.unexpected value name)

/-- Reads a number. -/
def readNumber (name : String) (value : Json) : Except Fault Json :=
  match value with
  | .integer _ | .float _ => .ok value
  | _ => .error (.unexpected value name)

/-- Reads one of some words. As a member of an object the word has to have the value null. -/
def readWord (words : List String) (value : Json) : Except Fault Json :=
  match value with
  | .string s => if s ∈ words then .ok value else .error (.unknownWord s words)
  | .object [(name, inner)] =>
    if name ∉ words then .error (.unknownWord name words)
    else match inner with
      | .null => .ok (.string name)
      | _ => .error (.unexpected inner "unit")
  | .object _ => .error (.wrongValue value.description "map with a single key")
  | _ => .error (.unexpected value "string or map")

/-! ## Records -/

/-- How a message counts elements. -/
def elementsText (size : Nat) : String :=
  Nat.repr size ++ (if size = 1 then " element" else " elements")

/-- How a message names a record with its number of fields. -/
def recordText (name : String) (size : Nat) : String :=
  "struct " ++ name ++ " with " ++ elementsText size

/-- The fault of a list that is longer than a record has fields. -/
def surplusFault (deferred : Bool) (size fields : Nat) : Fault :=
  .wrongLength size
    (if deferred then elementsText fields ++ " in sequence" else "fewer elements in array")

/-- What was read for a field: a value, nothing, or a fault. -/
abbrev FieldResult := Except Fault (Option Json)

/-- The fault of a result. -/
def FieldResult.fault? : FieldResult → Option Fault
  | .ok _ => none
  | .error fault => some fault

/-- The members that were read, or the first fault: those of members that are there come first, in
the order of the members, and then those of missing fields, in the order of the fields. -/
def settle (members : List (String × Json)) (results : List (String × FieldResult)) :
    Except Fault (List (String × Json)) :=
  match members.findSome? fun (name, _) => (results.lookup name).bind FieldResult.fault? with
  | some fault => .error fault
  | none => do
    let read ← results.mapM fun (name, result) => result.map fun value => value.map ((name, ·))
    return read.filterMap id

/-! ## Reading -/

mutual

/-- Reads a value by a shape. A value is read deferred if it stands in a choice, or in a part of a
mixed record. -/
def Shape.read (deferred : Bool) : Shape → Json → Except Fault Json
  | .anything, value => .ok value
  | .text, value => readText value
  | .address, value => readAddress value
  | .truth, value => readTruth value
  | .integer least greatest name, value => readInteger least greatest name value
  | .number name, value => readNumber name value
  | .list item, value =>
    match value with
    | .array items => do return .array (← items.mapM (item.read deferred))
    | _ => .error (.unexpected value "a sequence")
  | .vector size item, value =>
    match value with
    | .array items => do
      let read ← items.mapM (item.read deferred)
      if read.length = size then return .array read
      else throw (.wrongLength read.length ("an array of length " ++ Nat.repr size))
    | _ => .error (.unexpected value ("an array of length " ++ Nat.repr size))
  | .word words, value => readWord words value
  | .choice name choices, value => readChoice name choices value
  | .truthOr shape, value =>
    match value with
    | .bool _ => .ok value
    | _ => shape.read false value
  | .table expected addressed item, value =>
    match value with
    | .object members => do
      let read ← members.mapM fun (name, value) => do
        let _ ← if addressed then readAddress (.string name) else .ok .null
        return (name, ← item.read deferred value)
      return .object read
    | _ => .error (.unexpected value expected)
  | .record name fields, value =>
    match value with
    | .object members => do
      return .object (← settle members (readFields deferred fields members))
    | .array items => do
      let members ← readItems deferred (recordText name fields.length) 0 fields items
      if items.length ≤ fields.length then return .object members
      else throw (surplusFault deferred items.length fields.length)
    | _ => .error (.unexpected value ("struct " ++ name))
  | .mixed name fields parts, value =>
    match value with
    | .object members => do
      let own ← settle members (readFields deferred fields members)
      let left := members.filter fun member => (fields.lookup member.1).isNone
      return .object (own ++ (← readParts parts left))
    | _ => .error (.unexpected value ("struct " ++ name))
  | .tagged tag variants, value =>
    match value with
    | .object members =>
      match members.lookup tag with
      | some (.string word) =>
        readVariant word variants (.object (members.filter fun member => member.1 ≠ tag))
      | some other => .error (.unexpected other "variant identifier")
      | none => .error (.missingField tag)
    | .array (.string word :: rest) => readVariant word variants (.array rest)
    | _ => .error (.unexpected value "internally tagged enum")

/-- Reads a value by the first shape that fits. -/
def readChoice (name : String) : List Shape → Json → Except Fault Json
  | [], _ => .error (.noChoice name)
  | shape :: rest, value =>
    match shape.read true value with
    | .ok result => .ok result
    | .error _ => readChoice name rest value

/-- Reads a value by the shape that a word names. -/
def readVariant (word : String) : List (String × Shape) → Json → Except Fault Json
  | [], _ => .error (.unknownWord word [])
  | (name, shape) :: rest, value =>
    if name = word then shape.read true value else readVariant word rest value

/-- Reads the fields of a record from the members of an object. -/
def readFields (deferred : Bool) : List (String × Presence × Shape) → List (String × Json) →
    List (String × FieldResult)
  | [], _ => []
  | (name, presence, shape) :: rest, members =>
    let result : FieldResult :=
      match members.lookup name with
      | none => if presence = .required then .error (.missingField name) else .ok none
      | some .null => if presence.allowsNull then .ok none else (shape.read deferred .null).map some
      | some value => (shape.read deferred value).map some
    (name, result) :: readFields deferred rest members

/-- Reads the fields of a record from the items of a list. -/
def readItems (deferred : Bool) (expected : String) : Nat → List (String × Presence × Shape) →
    List Json → Except Fault (List (String × Json))
  | _, [], _ => .ok []
  | index, (_, presence, _) :: rest, [] =>
    if presence.allowsGap then readItems deferred expected (index + 1) rest []
    else .error (.wrongLength index expected)
  | index, (name, presence, shape) :: rest, value :: items =>
    match value, presence.allowsNull with
    | .null, true => readItems deferred expected (index + 1) rest items
    | value, _ => do
      let field ← shape.read deferred value
      return (name, field) :: (← readItems deferred expected (index + 1) rest items)

/-- Reads the parts of a mixed record from the members that are left for them. -/
def readParts : List Shape → List (String × Json) → Except Fault (List (String × Json))
  | [], _ => .ok []
  | part :: rest, members => do
    match ← part.read true (.object members) with
    | .object read => return read ++ (← readParts rest members)
    | _ => readParts rest members

end

end SolverInput.Json
