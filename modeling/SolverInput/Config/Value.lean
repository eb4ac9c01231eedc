import SolverInput.Decimal.Shortest
import SolverInput.Text.LetterCase
import SolverInput.Toml.Value

/-!
# Configuration values

The values that configuration files and overrides hold, each with the file it came from. Tables
merge member by member when one layer is put over another, and every other value replaces what it
covers. Member names are lower-cased on the way.
-/

namespace SolverInput.Config

/-- A configuration value; `origin` is the file that it was read from, if any. -/
inductive Value where
  | nothing (origin : Option String)
  | boolean (origin : Option String) (value : Bool)
  | integer (origin : Option String) (value : Int)
  | float (origin : Option String) (value : Double)
  | text (origin : Option String) (value : String)
  | list (origin : Option String) (items : List Value)
  | table (origin : Option String) (members : List (String × Value))

namespace Value

/-- The file that a value was read from. -/
def origin : Value → Option String
  | nothing origin => origin
  | boolean origin _ => origin
  | integer origin _ => origin
  | float origin _ => origin
  | text origin _ => origin
  | list origin _ => origin
  | table origin _ => origin

/-- A table without members. -/
def emptyTable : Value := table none []

/-! ## From TOML -/

mutual

/-- The value of a TOML value read from a file. Dates and times become texts. -/
def ofToml (origin : Option String) : Toml.Value → Value
  | .string value => text origin value
  | .integer value => integer origin value
  | .float value => float origin value
  | .boolean value => boolean origin value
  | .moment value => text origin value.text
  | .array items => list origin (ofTomlItems origin items)
  | .table members => table origin (ofTomlMembers origin members)

/-- The values of the items of a TOML array. -/
def ofTomlItems (origin : Option String) : List Toml.Value → List Value
  | [] => []
  | item :: rest => ofToml origin item :: ofTomlItems origin rest

/-- The values of the members of a TOML table. -/
def ofTomlMembers (origin : Option String) : List (String × Toml.Value) → List (String × Value)
  | [] => []
  | (name, value) :: rest => (name, ofToml origin value) :: ofTomlMembers origin rest

end

/-! ## Members and items -/

/-- The member of a table. -/
def member? (name : String) : Value → Option Value
  | table _ members => members.lookup name
  | _ => none

/-- Puts a member into a list of members, in place of the one with the same name. -/
def setMember (name : String) (value : Value) : List (String × Value) → List (String × Value)
  | [] => [(name, value)]
  | (other, old) :: rest =>
    if other = name then (name, value) :: rest else (other, old) :: setMember name value rest

/-- Puts a member into a table; anything else is replaced by a table first. -/
def withMember (target : Value) (name : String) (value : Value) : Value :=
  match target with
  | table origin members => table origin (setMember name value members)
  | _ => table none [(name, value)]

/-- The items of a list; anything else has none. -/
def items : Value → List Value
  | list _ items => items
  | _ => []

/-- The place of an item; a negative index counts from the end. -/
def itemPlace (index : Int) (size : Nat) : Nat :=
  if 0 ≤ index then index.toNat else size - index.natAbs

/-- Puts an item into a list, which grows as needed; anything else is replaced by a list first. -/
def withItem (target : Value) (place : Nat) (value : Value) : Value :=
  let old := target.items
  let grown := old ++ List.replicate (place + 1 - old.length) (nothing none)
  let origin := match target with
    | list origin _ => origin
    | _ => none
  list origin (grown.set place value)

/-! ## Merging -/

mutual

/-- Puts a value over the member of a table. A table is merged into the member, which becomes a
table if it has to take a member; everything else replaces it. -/
def merge (name : String) (target : Value) : Value → Value
  | table _ members =>
    let name := Text.lower name
    target.withMember name (mergeAll ((target.member? name).getD emptyTable) members)
  | other => target.withMember (Text.lower name) other

/-- Puts members over a table, one after another. -/
def mergeAll (target : Value) : List (String × Value) → Value
  | [] => target
  | (name, value) :: rest => mergeAll (merge name target value) rest

end

end Value

end SolverInput.Config
