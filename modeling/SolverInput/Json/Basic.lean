import SolverInput.Decimal.Double

/-!
# JSON values

The values of JSON. An object lists its members in order. Integers are kept apart from numbers with
a fraction or an exponent, and from those that do not fit into 64 bits.
-/

namespace SolverInput

/-- A JSON value. -/
inductive Json where
  | null
  | bool (value : Bool)
  | integer (value : Int)
  | float (value : Double)
  | string (value : String)
  | array (items : List Json)
  | object (members : List (String × Json))

namespace Json

/-- Puts a member into members that are in the order of their names, in place of the one with the
same name if there is one. -/
def setMember (name : String) (value : Json) : List (String × Json) → List (String × Json)
  | [] => [(name, value)]
  | (other, old) :: rest =>
    if name < other then (name, value) :: (other, old) :: rest
    else if name = other then (name, value) :: rest
    else (other, old) :: setMember name value rest

mutual

/-- The same value with the members of every object in the order of their names: of several members
with one name the last one counts. -/
def canonical : Json → Json
  | array items => array (canonicalItems items)
  | object members => object (canonicalMembers [] members)
  | other => other

/-- The items of an array, each in canonical form. -/
def canonicalItems : List Json → List Json
  | [] => []
  | item :: rest => canonical item :: canonicalItems rest

/-- Adds members to those that are there already. -/
def canonicalMembers (done : List (String × Json)) : List (String × Json) → List (String × Json)
  | [] => done
  | (name, value) :: rest => canonicalMembers (setMember name (canonical value) done) rest

end

/-- The member of an object. -/
def get? (name : String) : Json → Option Json
  | object members => members.lookup name
  | _ => none

/-- The value of a string. -/
def string? : Json → Option String
  | string value => some value
  | _ => none

/-- The value of a truth value. -/
def bool? : Json → Option Bool
  | bool value => some value
  | _ => none

/-- The value of an integer. -/
def integer? : Json → Option Int
  | integer value => some value
  | _ => none

/-- The items of an array. -/
def array? : Json → Option (List Json)
  | array items => some items
  | _ => none

/-- The members of an object. -/
def object? : Json → Option (List (String × Json))
  | object members => some members
  | _ => none

/-- An array of strings. -/
def strings (values : List String) : Json :=
  array (values.map string)

/-- An array of texts. -/
def texts (values : List (List Char)) : Json :=
  array (values.map fun t => string (String.ofList t))

/-- The strings of an array of strings. -/
def strings? (value : Json) : Option (List String) :=
  value.array?.bind (·.mapM string?)

end Json

end SolverInput
