import SolverInput.Editor.Params
import SolverInput.Editor.Session

/-!
# Methods

The methods that an editor can send, how their parameters are read, and the calls that they stand
for. Requests have an answer and notifications have none.
-/

namespace SolverInput.Editor

open SolverInput.Json (Shape Fault)

/-- A method of the protocol. -/
inductive Method where
  | handshake
  | ready
  | shutdown
  | exit
  | opened
  | changed
  | closed
  | configured
  | semanticTokens
  | completion
  | resolve
  | execute
  /-- A request of the protocol that this server does not serve. -/
  | unservedRequest (params : Shape)
  /-- A notification of the protocol that this server does not use. -/
  | unusedNotification
  /-- The wish that a request be given up. Requests are answered at once, so it comes too late. -/
  | cancel

/-- Tells whether a method is a notification. -/
def Method.isNotification : Method → Bool
  | ready | exit | opened | changed | closed | configured | unusedNotification | cancel => true
  | _ => false

/-- The shape of a method's parameters. `none` if it takes none. -/
def Method.params? : Method → Option Shape
  | handshake => some Params.handshake
  | ready => some Params.ready
  | shutdown | exit => none
  | opened => some Params.opened
  | changed => some Params.changed
  | closed => some Params.closed
  | configured => some Params.configured
  | semanticTokens => some Params.semanticTokens
  | completion => some Params.completion
  | resolve => some CompletionItem.shape
  | execute => some Params.execute
  | unservedRequest params => some params
  | unusedNotification | cancel => some .anything

/-! ## Names -/

/-- The methods that this server serves, by name. -/
def Method.served : List (String × Method) :=
  [("initialize", .handshake), ("initialized", .ready), ("shutdown", .shutdown), ("exit", .exit),
   ("textDocument/didOpen", .opened), ("textDocument/didChange", .changed),
   ("textDocument/didClose", .closed), ("workspace/didChangeConfiguration", .configured),
   ("textDocument/semanticTokens/full", .semanticTokens), ("textDocument/completion", .completion),
   ("completionItem/resolve", .resolve), ("workspace/executeCommand", .execute),
   ("$/cancelRequest", .cancel)]

/-- Notifications of the protocol that change nothing here. -/
def Method.unused : List String :=
  ["textDocument/willSave", "textDocument/didSave", "workspace/didChangeWorkspaceFolders",
   "workspace/didCreateFiles", "workspace/didRenameFiles", "workspace/didDeleteFiles",
   "workspace/didChangeWatchedFiles"]

/-- The method of a name. -/
def Method.ofName? (name : String) : Option Method :=
  (served.lookup name).or <|
  (if name ∈ unused then some .unusedNotification else none).or <|
  (Params.unserved? name).map .unservedRequest

/-! ## Calls -/

/-- Why a request gets no answer of its own. -/
inductive ParamsError where
  | missing
  | surplus (params : Json)
  | fault (fault : Fault)

/-- The message of wrong parameters. -/
def ParamsError.message : ParamsError → String
  | missing => "Missing params field"
  | surplus params => "Unexpected params: " ++ params.compact
  | fault f => f.message

/-- Reads the parameters of a method. -/
def Method.readParams (method : Method) (params : Option Json) : Except ParamsError Json :=
  match method.params?, params with
  | none, none => .ok .null
  | none, some value => .error (.surplus value)
  | some _, none => .error .missing
  | some shape, some value => (shape.read false value).mapError .fault

/-- A string member, empty if it is not there. -/
def stringMember (value : Json) (name : String) : String :=
  ((value.get? name).bind Json.string?).getD ""

/-- The address of the document that parameters are about. -/
def documentUri (params : Json) : String :=
  ((params.get? "textDocument").map (stringMember · "uri")).getD ""

/-- A natural number in a member, zero if it is not there. -/
def naturalMember (value : Json) (name : String) : Nat :=
  (((value.get? name).bind Json.integer?).getD 0).toNat

/-- The call that a method stands for, with parameters of its shape. -/
def Method.call? (method : Method) (params : Json) : Option Call :=
  match method with
  | handshake => some (.handshake (params.get? "initializationOptions"))
  | ready => some .ready
  | shutdown => some .shutdown
  | opened =>
    some (.opened (documentUri params)
      (((params.get? "textDocument").map (stringMember · "text")).getD ""))
  | changed =>
    some (.changed (documentUri params)
      ((((params.get? "contentChanges").bind Json.array?).getD []).map (stringMember · "text")))
  | closed => some (.closed (documentUri params))
  | configured => some (.configured ((params.get? "settings").getD .null))
  | semanticTokens => some (.semanticTokens (documentUri params))
  | completion =>
    let position := (params.get? "position").getD .null
    some (.completion (documentUri params)
      ⟨naturalMember position "line", naturalMember position "character"⟩)
  | resolve => some (.resolve params)
  | execute =>
    some (.execute (stringMember params "command")
      (((params.get? "arguments").bind Json.array?).getD []))
  | exit | unservedRequest _ | unusedNotification | cancel => none

end SolverInput.Editor
