import SolverInput.Editor.ClientCapabilities
import SolverInput.Editor.CompletionItem

/-!
# Parameters of methods

The shapes of the parameters of the protocol's methods. Many of them carry the fields of a place, of
a running task or of a partial result beside their own; those stand in parts of the shape.
-/

namespace SolverInput.Editor.Params

open SolverInput.Json (Shape Field)
open SolverInput.Json.Field

/-! ## Shared fields and parts -/

/-- The field of a document. -/
def document : Field := required "textDocument" Parts.document

/-- The field of a place in a document. -/
def position : Field := required "position" Parts.position

/-- The field of a part of a document. -/
def range : Field := required "range" Parts.range

/-- A document and a place in it. -/
def place : Shape :=
  .record "TextDocumentPositionParams" [document, position]

/-- The part that names a running task. -/
def task : Shape :=
  .record "WorkDoneProgressParams" [optional "workDoneToken" Parts.token]

/-- The part that names a partial result. -/
def partialResult : Shape :=
  .record "PartialResultParams" [optional "partialResultToken" Parts.token]

/-- Parameters of a running task. -/
def tracked (name : String) (fields : List Field) : Shape :=
  .mixed name fields [task]

/-- Parameters of a running task with partial results. -/
def streamed (name : String) (fields : List Field) : Shape :=
  .mixed name fields [task, partialResult]

/-- Parameters about a place, of a running task. -/
def trackedAtPlace (name : String) (fields : List Field) : Shape :=
  .mixed name fields [place, task]

/-- Parameters about a place, of a running task with partial results. -/
def streamedAtPlace (name : String) (fields : List Field) : Shape :=
  .mixed name fields [place, task, partialResult]

/-! ## Sessions -/

/-- What a client says about itself. -/
def client : Shape :=
  .record "ClientInfo" [required "name" .text, optional "version" .text]

/-- A folder that is open in the editor. -/
def folder : Shape :=
  .record "WorkspaceFolder" [required "uri" .address, required "name" .text]

/-- The parameters that open a session. -/
def handshake : Shape :=
  .record "InitializeParams"
    [optional "processId" .unsigned, optional "rootPath" .text, ("rootUri", .omissible, .address),
     optional "initializationOptions" .anything, required "capabilities" ClientCapabilities.shape,
     ("trace", .omissible, .word ["off", "messages", "verbose"]),
     optional "workspaceFolders" (.list folder), optional "clientInfo" client,
     optional "locale" .text]

/-- The parameters of the message that a session is open. -/
def ready : Shape := .record "InitializedParams" []

/-- The parameters of new settings. -/
def configured : Shape :=
  .record "DidChangeConfigurationParams" [required "settings" .anything]

/-- The parameters of a command. -/
def execute : Shape :=
  tracked "ExecuteCommandParams"
    [required "command" .text, ("arguments", .defaulted, .list .anything)]

/-! ## Documents -/

/-- The parameters of an opened document. -/
def opened : Shape :=
  .record "DidOpenTextDocumentParams" [required "textDocument" Parts.documentItem]

/-- The parameters of a changed document. -/
def changed : Shape :=
  .record "DidChangeTextDocumentParams"
    [required "textDocument" Parts.versionedDocument,
     required "contentChanges" (.list Parts.documentChange)]

/-- The parameters of a closed document. -/
def closed : Shape :=
  .record "DidCloseTextDocumentParams" [document]

/-- The parameters of highlighting. -/
def semanticTokens : Shape := streamed "SemanticTokensParams" [document]

/-- The parameters of completion. -/
def completion : Shape :=
  streamedAtPlace "CompletionParams"
    [optional "context" (.record "CompletionContext"
      [required "triggerKind" .signed, optional "triggerCharacter" .text])]

/-! ## Requests that are not served -/

/-- Requests about a place in a document. -/
def placeRequests : List (String × Shape) :=
  [("textDocument/declaration", streamedAtPlace "GotoDefinitionParams" []),
   ("textDocument/definition", streamedAtPlace "GotoDefinitionParams" []),
   ("textDocument/typeDefinition", streamedAtPlace "GotoDefinitionParams" []),
   ("textDocument/implementation", streamedAtPlace "GotoDefinitionParams" []),
   ("textDocument/documentHighlight", streamedAtPlace "DocumentHighlightParams" []),
   ("textDocument/moniker", streamedAtPlace "MonikerParams" []),
   ("textDocument/references", streamedAtPlace "ReferenceParams"
      [required "context" (.record "ReferenceContext" [required "includeDeclaration" .truth])]),
   ("textDocument/hover", trackedAtPlace "HoverParams" []),
   ("textDocument/signatureHelp", trackedAtPlace "SignatureHelpParams"
      [optional "context" (.record "SignatureHelpContext"
        [required "triggerKind" .signed, optional "triggerCharacter" .text,
         required "isRetrigger" .truth, optional "activeSignatureHelp" Parts.signatureHelp])]),
   ("textDocument/linkedEditingRange", trackedAtPlace "LinkedEditingRangeParams" []),
   ("textDocument/prepareCallHierarchy", trackedAtPlace "CallHierarchyPrepareParams" []),
   ("textDocument/prepareTypeHierarchy", trackedAtPlace "TypeHierarchyPrepareParams" []),
   ("textDocument/rename", trackedAtPlace "RenameParams" [required "newName" .text]),
   ("textDocument/prepareRename", place),
   ("textDocument/onTypeFormatting", .mixed "DocumentOnTypeFormattingParams"
      [required "ch" .text, required "options" Parts.formattingOptions] [place])]

/-- Requests about a document or a part of it. -/
def documentRequests : List (String × Shape) :=
  [("textDocument/codeLens", streamed "CodeLensParams" [document]),
   ("textDocument/documentLink", streamed "DocumentLinkParams" [document]),
   ("textDocument/foldingRange", streamed "FoldingRangeParams" [document]),
   ("textDocument/documentSymbol", streamed "DocumentSymbolParams" [document]),
   ("textDocument/documentColor", streamed "DocumentColorParams" [document]),
   ("textDocument/diagnostic", streamed "DocumentDiagnosticParams"
      [document, optional "identifier" .text, optional "previousResultId" .text]),
   ("textDocument/semanticTokens/full/delta", streamed "SemanticTokensDeltaParams"
      [document, required "previousResultId" .text]),
   ("textDocument/semanticTokens/range", streamed "SemanticTokensRangeParams" [document, range]),
   ("textDocument/selectionRange", streamed "SelectionRangeParams"
      [document, required "positions" (.list Parts.position)]),
   ("textDocument/inlayHint", tracked "InlayHintParams" [document, range]),
   ("textDocument/inlineValue", tracked "InlineValueParams"
      [document, range, required "context" (.record "InlineValueContext"
        [required "frameId" .signed, required "stoppedLocation" Parts.range])]),
   ("textDocument/codeAction", streamed "CodeActionParams"
      [document, range, required "context" (.record "CodeActionContext"
        [required "diagnostics" (.list Parts.diagnostic), optional "only" (.list .text),
         optional "triggerKind" .signed])]),
   ("textDocument/colorPresentation", streamed "ColorPresentationParams"
      [document, required "color" Parts.color, range]),
   ("textDocument/formatting", tracked "DocumentFormattingParams"
      [document, required "options" Parts.formattingOptions]),
   ("textDocument/rangeFormatting", tracked "DocumentRangeFormattingParams"
      [document, range, required "options" Parts.formattingOptions]),
   ("textDocument/willSaveWaitUntil", .record "WillSaveTextDocumentParams"
      [document, required "reason" .signed])]

/-- Requests to complete what was sent before. -/
def resolveRequests : List (String × Shape) :=
  [("codeLens/resolve", Parts.codeLens), ("documentLink/resolve", Parts.documentLink),
   ("inlayHint/resolve", Parts.inlayHint), ("codeAction/resolve", Parts.codeAction),
   ("workspaceSymbol/resolve", Parts.workspaceSymbol),
   ("callHierarchy/incomingCalls", streamed "CallHierarchyIncomingCallsParams"
      [required "item" Parts.callItem]),
   ("callHierarchy/outgoingCalls", streamed "CallHierarchyOutgoingCallsParams"
      [required "item" Parts.callItem]),
   ("typeHierarchy/supertypes", streamed "TypeHierarchySupertypesParams"
      [required "item" Parts.typeItem]),
   ("typeHierarchy/subtypes", streamed "TypeHierarchySubtypesParams"
      [required "item" Parts.typeItem])]

/-- Requests about a workspace. -/
def workspaceRequests : List (String × Shape) :=
  [("workspace/diagnostic", streamed "WorkspaceDiagnosticParams"
      [optional "identifier" .text,
       required "previousResultIds" (.list (.record "PreviousResultId"
         [required "uri" .address, required "value" .text]))]),
   ("workspace/symbol", streamed "WorkspaceSymbolParams" [required "query" .text]),
   ("workspace/willCreateFiles", .record "CreateFilesParams"
      [required "files" (.list (.record "FileCreate" [required "uri" .text]))]),
   ("workspace/willRenameFiles", .record "RenameFilesParams"
      [required "files" (.list (.record "FileRename"
        [required "oldUri" .text, required "newUri" .text]))]),
   ("workspace/willDeleteFiles", .record "DeleteFilesParams"
      [required "files" (.list (.record "FileDelete" [required "uri" .text]))])]

/-- The shape of the parameters of a request that this server does not serve. -/
def unserved? (name : String) : Option Shape :=
  (placeRequests ++ documentRequests ++ resolveRequests ++ workspaceRequests).lookup name

end SolverInput.Editor.Params
