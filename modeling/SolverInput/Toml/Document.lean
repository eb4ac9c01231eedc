import SolverInput.Toml.Scalar

/-!
# TOML documents

A document is read statement by statement into a tree of tables. A table remembers how it came to
be, since that decides what may still be added to it: a table with its own header is closed to
dotted keys and to a second header, a table implied by the header of a subtable may still get its
header, and a table made by dotted keys can only be extended by dotted keys.
-/

namespace SolverInput.Toml

/-- How a table came to be. -/
inductive TableOrigin where
  /-- By a header of its own, or as the root. -/
  | header
  /-- By the header of a table below it. -/
  | implied
  /-- By a dotted key. -/
  | dotted
  deriving DecidableEq

/-- A member of a table under construction. -/
inductive Item where
  | value (value : Value)
  | table (origin : TableOrigin) (entries : List (String × Item))
  /-- The tables of an array of tables, in order. -/
  | tables (rows : List (List (String × Item)))

/-- The members of a table under construction. -/
abbrev Entries := List (String × Item)

namespace Entries

/-- Replaces the member with a given name. -/
def replace (entries : Entries) (name : String) (item : Item) : Entries :=
  entries.map fun entry => if entry.1 == name then (name, item) else entry

/-- Changes the table at a path. Tables that are missing on the way are made; an array of tables
stands for its last table. Dotted keys may not pass through a table that has a header. -/
def update (dotted : Bool) (change : TableOrigin → Entries → Option Entries) :
    List String → TableOrigin → Entries → Option Entries
  | [], origin, entries => change origin entries
  | name :: path, _, entries =>
    match entries.lookup name with
    | none => do
      let origin := if dotted then .dotted else .implied
      return entries ++ [(name, .table origin (← update dotted change path origin []))]
    | some (.value _) => none
    | some (.table origin inner) => do
      if dotted ∧ origin = .header then none
      else return entries.replace name (.table origin (← update dotted change path origin inner))
    | some (.tables rows) =>
      match rows.reverse with
      | [] => none
      | last :: before => do
        let changed ← update dotted change path .header last
        return entries.replace name (.tables (before.reverse ++ [changed]))

/-- Adds a value under a dotted key to a table. -/
def addValue (key : List String) (value : Value) (origin : TableOrigin) (entries : Entries) :
    Option Entries :=
  match key.reverse with
  | [] => none
  | name :: before =>
    update true
      (fun reached members =>
        if (reached == .dotted) == before.isEmpty then none
        else if (members.lookup name).isSome then none
        else some (members ++ [(name, .value value)]))
      before.reverse origin entries

/-- Opens the table of a header. A table that was implied before becomes the last member. -/
def openTable (path : List String) (root : Entries) : Option Entries :=
  match path.reverse with
  | [] => none
  | name :: before =>
    update false
      (fun _ members =>
        match members.lookup name with
        | none => some (members ++ [(name, .table .header [])])
        | some (.table .implied inner) =>
          some (members.filter (·.1 != name) ++ [(name, .table .header inner)])
        | some _ => none)
      before.reverse .header root

/-- Opens the next table of an array of tables. -/
def openRow (path : List String) (root : Entries) : Option Entries :=
  match path.reverse with
  | [] => none
  | name :: before =>
    update false
      (fun _ members =>
        match members.lookup name with
        | none => some (members ++ [(name, .tables [[]])])
        | some (.tables rows) => some (members.replace name (.tables (rows ++ [[]])))
        | some _ => none)
      before.reverse .header root

end Entries

mutual

/-- The value of a finished member. -/
def Item.finish : Item → Value
  | .value v => v
  | .table _ entries => .table (finishEntries entries)
  | .tables rows => .array (finishRows rows)

/-- The members of a finished table. -/
def finishEntries : List (String × Item) → List (String × Value)
  | [] => []
  | (name, item) :: rest => (name, item.finish) :: finishEntries rest

/-- The items of a finished array of tables. -/
def finishRows : List (List (String × Item)) → List Value
  | [] => []
  | row :: rest => .table (finishEntries row) :: finishRows rest

end

/-! ## Values -/

/-- Reads the rest of an array with a reader for its items. The first argument bounds the number of
items. -/
def itemsWith (value : Scan Value) : Nat → Scan (List Value)
  | 0, _ => none
  | n + 1, cs =>
    match skipLines (cs.length + 1) cs with
    | ']' :: rest => some ([], rest)
    | cs => do
      let (item, rest) ← value cs
      match skipLines (rest.length + 1) rest with
      | ',' :: rest =>
        let (items, rest) ← itemsWith value n rest
        return (item :: items, rest)
      | ']' :: rest => return ([item], rest)
      | _ => none

/-- Reads the rest of an inline table with a reader for its values. The first argument bounds the
number of members. -/
def membersWith (value : Scan Value) : Nat → Entries → Scan Entries
  | 0, _, _ => none
  | n + 1, done, cs => do
    let (key, rest) ← key? cs
    let (item, rest) ← value (skipSpace (← after? '=' rest))
    let done ← done.addValue key item .header
    match skipSpace rest with
    | ',' :: rest => membersWith value n done rest
    | '}' :: rest => return (done, rest)
    | _ => none

/-- Reads a value. The first argument bounds how deep arrays and inline tables nest. -/
def valueAt : Nat → Scan Value
  | depth, cs =>
    match cs with
    | '[' :: rest =>
      match depth with
      | 0 => none
      | depth + 1 =>
        (itemsWith (valueAt depth) cs.length rest).map fun (items, rest) => (.array items, rest)
    | '{' :: rest =>
      match depth with
      | 0 => none
      | depth + 1 =>
        match skipSpace rest with
        | '}' :: rest => some (.table [], rest)
        | _ => (membersWith (valueAt depth) cs.length [] rest).map fun (entries, rest) =>
            (.table (finishEntries entries), rest)
    | _ => scalar? cs

/-! ## Statements -/

/-- A document read so far: its root table, and the path of the table that is open. -/
structure Draft where
  root : Entries := []
  path : List String := []

/-- Adds a value to the open table. -/
def Draft.add (draft : Draft) (key : List String) (value : Value) : Option Draft := do
  let root ← Entries.update false (Entries.addValue key value) draft.path .header draft.root
  return { draft with root }

/-- Reads one statement: a header, or a key with its value. -/
def statement? (draft : Draft) (cs : List Char) : Option (Draft × List Char) :=
  match cs with
  | '[' :: '[' :: rest => do
    let (path, rest) ← key? rest
    let rest ← afterLine? (← after? ']' (← after? ']' rest))
    return (⟨← draft.root.openRow path, path⟩, rest)
  | '[' :: rest => do
    let (path, rest) ← key? rest
    let rest ← afterLine? (← after? ']' rest)
    return (⟨← draft.root.openTable path, path⟩, rest)
  | _ => do
    let (key, rest) ← key? cs
    let (value, rest) ← valueAt maxNesting (skipSpace (← after? '=' rest))
    let draft ← draft.add key value
    return (draft, ← afterLine? rest)

/-- Reads statements up to the end of the input. The first argument bounds the number of lines. -/
def statements? : Nat → Draft → List Char → Option Draft
  | 0, _, _ => none
  | n + 1, draft, cs =>
    match skipSpace cs with
    | [] => some draft
    | '#' :: _ | '\n' :: _ | '\r' :: _ => do statements? n draft (← afterLine? cs)
    | rest => do
      let (draft, rest) ← statement? draft rest
      statements? n draft rest

/-! ## Moments as tables -/

/-- The name under which a table holds a date or a time as a string. -/
def momentName : String := "$__toml_private_datetime"

/-- The string that stands first in a table under the name for moments. -/
def momentMember? : List (String × Value) → Option Value
  | (name, value) :: _ => if name = momentName then some value else none
  | [] => none

mutual

/-- The same value with moments in place of the tables that hold one. Such a table is told by its
first member, which has to be the string of a moment; its other members do not count. -/
def Value.withMoments : Value → Option Value
  | .array items => do return .array (← itemsWithMoments items)
  | .table members =>
    match momentMember? members with
    | some (.string text) => do return .moment (← momentOfString? text)
    | some _ => none
    | none => do return .table (← membersWithMoments members)
  | other => some other

/-- The items of an array, each with moments in place of tables. -/
def itemsWithMoments : List Value → Option (List Value)
  | [] => some []
  | item :: rest => do return (← item.withMoments) :: (← itemsWithMoments rest)

/-- The members of a table, each with moments in place of tables. -/
def membersWithMoments : List (String × Value) → Option (List (String × Value))
  | [] => some []
  | (name, value) :: rest => do return (name, ← value.withMoments) :: (← membersWithMoments rest)

end

/-- Reads a document as its root table, which is not a moment. A byte order mark at the start is
passed over. -/
def parse? (text : List Char) : Option (List (String × Value)) := do
  let cs := match text with
    | c :: rest => if c.toNat = 0xFEFF then rest else text
    | [] => []
  let draft ← statements? (cs.length + 1) {} cs
  match ← (Value.table (finishEntries draft.root)).withMoments with
  | .table members => some members
  | _ => none

end SolverInput.Toml
