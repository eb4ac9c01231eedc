import SolverInput.Editor.Connection

/-!
# What an editor sends

An editor sends messages, and answers to the requests of a server. The server listens until it is
left, or until something comes that is neither; to that it answers with an error that belongs to no
request.
-/

namespace SolverInput.Editor

open SolverInput.Json (Shape Field)

/-- The shape of the error in an answer of an editor. -/
def errorShape : Shape :=
  .record "Error"
    [Field.required "code" .long, Field.required "message" .text, Field.optional "data" .anything]

/-- Tells whether a value is the error of an answer, with no other members than errors have. -/
def isError (value : Json) : Bool :=
  (errorShape.read true value).isOk &&
    ((value.object?).getD []).all fun (name, _) => name ∈ ["code", "message", "data"]

/-- Tells whether a value answers a request of the server. -/
def isAnswer (value : Json) : Bool :=
  (value.get? "jsonrpc").bind Json.string? == some "2.0" &&
    (value.get? "id").any Message.isId &&
    ((value.get? "result").isSome || (value.get? "error").any isError)

/-- What an editor sends. -/
inductive Incoming where
  | received (message : Message)
  /-- An answer; the server asks nothing, so it is not waited for. -/
  | answer
  | malformed

/-- Reads what an editor sends. -/
def Incoming.read (value : Json) : Incoming :=
  if isAnswer value then .answer
  else match Message.read? value with
    | some message => .received message
    | none => .malformed

/-- The answer to what cannot be read. -/
def complaint (e : WireError) : Response := ⟨.null, .error e⟩

/-- Takes values from an editor one after another, up to the first that is malformed, or that comes
after the connection has been left. -/
def Connection.listen (c : Connection) (files : FileTree) : List Json → List Exchange × FileTree
  | [] => ([], files)
  | value :: rest =>
    match Incoming.read value with
    | .answer => c.listen files rest
    | .malformed =>
      ([{ connection := c, files, response := some (complaint .invalidRequest) }], files)
    | .received message =>
      match c.receive files message with
      | none => ([], files)
      | some exchange =>
        let (exchanges, after) := exchange.connection.listen exchange.files rest
        (exchange :: exchanges, after)

end SolverInput.Editor
