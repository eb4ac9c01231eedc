/-!
# Text

A text is the list of its characters. Everything that looks inside reports and documents works on
this type; names, paths and messages are strings.
-/

namespace SolverInput

/-- A text, character by character. -/
abbrev Text := List Char

namespace Text

/-- Reads bytes as UTF-8; bytes that are not UTF-8 have no text. -/
def ofBytes? (bytes : ByteArray) : Option Text :=
  (String.fromUTF8? bytes).map String.toList

/-- Writes a text as UTF-8. -/
def toBytes (t : Text) : ByteArray :=
  (String.ofList t).toUTF8

/-- Removes the elements that satisfy `p` from the end. -/
def dropEndWhile {α : Type} (p : α → Bool) (xs : List α) : List α :=
  (xs.reverse.dropWhile p).reverse

/-- Cuts a list at the last place where `sep` stands: the part before it and the part after it. -/
def splitAtLast? (sep : Text) : Text → Option (Text × Text)
  | [] => if sep = [] then some ([], []) else none
  | c :: cs =>
    match splitAtLast? sep cs with
    | some (before, after) => some (c :: before, after)
    | none => (sep.isPrefixOf? (c :: cs)).map fun after => ([], after)

end Text

end SolverInput
