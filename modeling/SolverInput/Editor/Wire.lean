import SolverInput.Editor.CompletionItem
import SolverInput.Editor.Session
import SolverInput.Version

/-!
# Replies on the wire

The JSON forms of what the server sends: the results and errors of requests, and its messages.
-/

namespace SolverInput.Editor

/-- The name under which the server presents itself. -/
def serverName : String := "mindes-lsp"

/-- What the server can do: whole texts in both directions, completion after a dot, highlighting of
whole documents, and the commands. -/
def capabilities : Json :=
  .object [
    ("capabilities", .object [
      ("textDocumentSync", .integer 1),
      ("completionProvider", .object [
        ("resolveProvider", .bool true), ("triggerCharacters", .strings ["."])]),
      ("executeCommandProvider", .object [("commands", .strings Command.names)]),
      ("semanticTokensProvider", .object [
        ("legend", .object [
          ("tokenTypes", .strings kindNames), ("tokenModifiers", .array [])]),
        ("full", .bool true)])]),
    ("serverInfo", .object [
      ("name", .string serverName), ("version", .string SolverInput.version)])]

/-! ## Errors -/

/-- An error as an editor receives it. -/
structure WireError where
  code : Int
  message : String
  data : Option Json := none

namespace WireError

/-- The request cannot be served now, or not at all. -/
def invalidRequest : WireError := ⟨-32600, "Invalid request", none⟩

/-- The message is not JSON. -/
def parseError : WireError := ⟨-32700, "Parse error", none⟩

/-- The method is not served. -/
def methodNotFound : WireError := ⟨-32601, "Method not found", none⟩

/-- The session has not been opened. -/
def notInitialized : WireError := ⟨-32002, "Server not initialized", none⟩

/-- The parameters are wrong. -/
def invalidParams (message : String) : WireError := ⟨-32602, message, none⟩

/-- The server failed. -/
def internal (message : String) : WireError := ⟨-32603, message, none⟩

/-- The error of a command that fails. -/
def ofCommandError : CommandError → WireError
  | .unknown _ => invalidRequest
  | .missingInput => invalidParams CommandError.missingInput.message
  | .extract error => internal error.message

/-- The JSON form of an error. -/
def json (e : WireError) : Json :=
  .object ([("code", .integer e.code), ("message", .string e.message)] ++
    (match e.data with
      | some data => [("data", data)]
      | none => []))

end WireError

/-! ## Replies -/

/-- Five integers for each token, in one list. -/
def tokensJson (deltas : List TokenDelta) : Json :=
  .object [("data", .array (deltas.flatMap fun d => d.words.map fun w => .integer w.toNat))]

/-- The result or the error of a reply; a notification has neither. -/
def Reply.result? : Reply → Option (Except WireError Json)
  | none => Option.none
  | capabilities => some (.ok Editor.capabilities)
  | null => some (.ok .null)
  | tokens deltas => some (.ok (tokensJson deltas))
  | candidates labels => some (.ok (.array (labels.map CompletionItem.ofCandidate)))
  | item value => some (.ok value)
  | path output => some (.ok (.string output.text))
  | failure error => some (.error (.ofCommandError error))

/-! ## Messages -/

/-- The version of the message format. -/
def formatVersion : String × Json := ("jsonrpc", .string "2.0")

/-- The method that carries messages of a channel. -/
def Channel.method : Channel → String
  | log => "window/logMessage"
  | user => "window/showMessage"

/-- The notification that carries a message. -/
def Notice.json (notice : Notice) : Json :=
  .object [formatVersion, ("method", .string notice.channel.method),
    ("params", .object [("type", .integer notice.level.code), ("message", .string notice.text)])]

/-- The answer to a request. -/
structure Response where
  id : Json
  result : Except WireError Json

/-- The JSON form of an answer. -/
def Response.json (response : Response) : Json :=
  .object [formatVersion, ("id", response.id),
    match response.result with
    | .ok result => ("result", result)
    | .error e => ("error", e.json)]

end SolverInput.Editor
