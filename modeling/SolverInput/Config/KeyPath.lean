import SolverInput.Config.Value
import SolverInput.Text.Digit

/-!
# Paths of configuration keys

A key such as `files.language_id` or `runs[0].name` leads through tables and lists. Setting a value
at a path makes the tables and lists on the way.
-/

namespace SolverInput.Config

/-- A step of a key path. -/
inductive KeyStep where
  | member (name : String)
  | item (index : Int)
  deriving DecidableEq

/-- A key path starts with the name of a member and goes on with further steps. -/
structure KeyPath where
  first : String
  rest : List KeyStep
  deriving DecidableEq

namespace KeyPath

/-! ## Reading a path -/

/-- Names in a path consist of ASCII letters, digits, spaces, underscores and hyphens. -/
def isNameChar (c : Char) : Bool :=
  c.isAlphanum || c == ' ' || c == '_' || c == '-'

/-- Reads a name. -/
def name? (cs : List Char) : Option (String × List Char) :=
  let name := cs.takeWhile isNameChar
  if name.isEmpty then none else some (String.ofList name, cs.dropWhile isNameChar)

/-- Removes spaces and tabs. -/
def skipSpace (cs : List Char) : List Char :=
  cs.dropWhile fun c => c == ' ' || c == '\t'

/-- Reads an index and its closing bracket. -/
def index? (cs : List Char) : Option (Int × List Char) :=
  let (negative, cs) := match skipSpace cs with
    | '-' :: rest => (true, rest)
    | cs => (false, cs)
  let digits := cs.takeWhile Char.isDigit
  let n := Text.digitsValue 10 digits
  let inRange := n < 9223372036854775808 ∨ (negative ∧ n = 9223372036854775808)
  match skipSpace (cs.dropWhile Char.isDigit) with
  | ']' :: rest =>
    if digits.isEmpty ∨ ¬ inRange then none else some (if negative then -n else n, rest)
  | _ => none

/-- Reads the steps after the first name. The first argument bounds their number. -/
def steps? : Nat → List Char → Option (List KeyStep)
  | _, [] => some []
  | 0, _ :: _ => none
  | n + 1, '.' :: rest => do
    let (name, rest) ← name? rest
    return .member name :: (← steps? n rest)
  | n + 1, '[' :: rest => do
    let (index, rest) ← index? rest
    return .item index :: (← steps? n rest)
  | _ + 1, _ :: _ => none

/-- Reads a path. -/
def parse? (key : String) : Option KeyPath := do
  let (first, rest) ← name? key.toList
  return ⟨first, ← steps? rest.length rest⟩

end KeyPath

/-! ## Setting a value -/

/-- Sets the value at the end of the given steps. -/
def Value.assign (value : Value) : List KeyStep → Value → Value
  | [], _ => value
  | [.member name], target => Value.merge name target value
  | .member name :: rest, target =>
    let name := Text.lower name
    target.withMember name (assign value rest ((target.member? name).getD (.nothing none)))
  | [.item index], target =>
    target.withItem (Value.itemPlace index target.items.length) value
  | .item index :: rest, target =>
    let place := Value.itemPlace index target.items.length
    target.withItem place (assign value rest (target.items[place]?.getD (.nothing none)))

/-- Sets the value at a path. -/
def Value.setAt (root : Value) (path : KeyPath) (value : Value) : Value :=
  value.assign (.member path.first :: path.rest) root

/-- Sets a top-level key of a file. A key that reads as a path is one; any other key names a
member. -/
def Value.setKey (root : Value) (key : String) (value : Value) : Value :=
  match KeyPath.parse? key with
  | some path => root.setAt path value
  | none => Value.merge key root value

end SolverInput.Config
