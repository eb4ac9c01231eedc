import SolverInput.Editor.Method
import SolverInput.Editor.Wire

/-!
# Connections

A connection takes the messages of an editor one after another. A session is opened once and shut
down once; requests outside that time are refused, and after an exit nothing is taken any more.
-/

namespace SolverInput.Editor

/-- How far a connection has come. -/
inductive Phase where
  | unopened
  | opened
  | shutDown
  | exited
  deriving DecidableEq

/-- The error of a request in a phase in which it is not served. -/
def Phase.refusal : Phase → WireError
  | unopened => .notInitialized
  | _ => .invalidRequest

/-- A message of an editor. One with an id asks for an answer. -/
structure Message where
  method : String := ""
  id : Option Json := none
  params : Option Json := none

/-- Ids are integers of 64 bits, strings or null. -/
def Message.isId : Json → Bool
  | .null | .string _ => true
  | .integer n => -9223372036854775808 ≤ n && n ≤ 9223372036854775807
  | _ => false

/-- A message of the given parts, if they are well formed. -/
def Message.ofParts? (version : Option Json) (method params id : Option Json) : Option Message := do
  let version ← (← version).string?
  let method ← match method with
    | some name => name.string?
    | none => some ""
  if version ≠ "2.0" || id.any (!isId ·) then none
  else return { method, id, params }

/-- Reads a message: an object, or a list of its version, method, parameters and id. -/
def Message.read? (value : Json) : Option Message :=
  match value with
  | .object _ =>
    ofParts? (value.get? "jsonrpc") (value.get? "method") (value.get? "params") (value.get? "id")
  | .array items =>
    if 4 < items.length then none else ofParts? items[0]? items[1]? items[2]? items[3]?
  | _ => none

/-- The state of a connection. -/
structure Connection where
  phase : Phase := .unopened
  session : Session

/-- What a message leads to. -/
structure Exchange where
  connection : Connection
  files : FileTree
  response : Option Response := none
  notices : List Notice := []

namespace Connection

/-- Answers a message with an error, if it asks for an answer. -/
def refuse (c : Connection) (files : FileTree) (message : Message) (e : WireError) : Exchange :=
  { connection := c, files, response := message.id.map (⟨·, .error e⟩) }

/-- Hands a message over to the session. A notification that asks for an answer is refused, and a
request that asks for none is passed over. -/
def serve (c : Connection) (files : FileTree) (method : Method) (message : Message) : Exchange :=
  if method.isNotification && message.id.isSome then c.refuse files message .invalidRequest
  else if !method.isNotification && message.id.isNone then { connection := c, files }
  else
    match method.readParams message.params with
    | .error e => c.refuse files message (.invalidParams e.message)
    | .ok params =>
      match method.call? params with
      | none => c.refuse files message .methodNotFound
      | some call =>
        let outcome := c.session.handle files call
        { connection := { c with session := outcome.session }
          files := outcome.files
          response := message.id.bind fun id => outcome.reply.result?.map (⟨id, ·⟩)
          notices := outcome.notices }

/-- Opens the session. It stays unopened if the answer is an error. -/
def handshake (c : Connection) (files : FileTree) (message : Message) : Exchange :=
  match c.phase with
  | .unopened =>
    let exchange := c.serve files .handshake message
    match exchange.response with
    | some ⟨_, .ok _⟩ =>
      { exchange with connection := { exchange.connection with phase := .opened } }
    | _ => exchange
  | _ => c.refuse files message .invalidRequest

/-- Tells whether a method can be left alone by those who do not know it. -/
def isIgnorable (method : String) : Bool :=
  ['$', '/'].isPrefixOf method.toList

/-- Takes a message. `none` once the connection has been left. -/
def receive (c : Connection) (files : FileTree) (message : Message) : Option Exchange :=
  if c.phase = .exited then none
  else some <|
    match Method.ofName? message.method with
    | none =>
      if isIgnorable message.method then { connection := c, files }
      else c.refuse files message
        { WireError.methodNotFound with data := some (.string message.method) }
    | some .handshake => c.handshake files message
    | some .exit => { connection := { c with phase := .exited }, files }
    | some .cancel => c.serve files .cancel message
    | some method =>
      if c.phase ≠ .opened then c.refuse files message c.phase.refusal
      else
        let phase := match method with
          | .shutdown => Phase.shutDown
          | _ => c.phase
        { c with phase }.serve files method message

/-- Takes messages one after another: what each leads to, and the files after the last. -/
def receiveAll (c : Connection) (files : FileTree) :
    List Message → List (Option Exchange) × FileTree
  | [] => ([], files)
  | message :: rest =>
    match c.receive files message with
    | none =>
      let (steps, after) := c.receiveAll files rest
      (none :: steps, after)
    | some exchange =>
      let (steps, after) := exchange.connection.receiveAll exchange.files rest
      (some exchange :: steps, after)

end Connection

/-- The connection that a configuration starts. The dictionary is the configured one, or the first
on the search list. -/
def Connection.ofConfig (config : Config) (files : FileTree) (search : List Path) : Connection :=
  { session := .ofConfig config (Dictionary.loadOrEmpty files config.completionDictionary search) }

end SolverInput.Editor
