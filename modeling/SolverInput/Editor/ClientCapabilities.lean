import SolverInput.Editor.Parts

/-!
# What an editor can do

The shapes of the abilities that an editor tells the server about when it opens a session. The
server uses none of them, but they have to be well formed.
-/

namespace SolverInput.Editor.ClientCapabilities

open SolverInput.Json (Shape Field)
open SolverInput.Json.Field

/-! ## Common forms -/

/-- An ability that can be registered later. -/
def registrable : Shape :=
  .record "DynamicRegistrationClientCapabilities" [flag "dynamicRegistration"]

/-- An ability to take a request to look again. -/
def refreshable (name : String) : Shape :=
  .record name [flag "refreshSupport"]

/-- The members of an item that can be sent later. -/
def resolvable (name : String) : Shape :=
  .record name [required "properties" (.list .text)]

/-- The tags that are understood. A truth value stands for all or none. -/
def tagSupport : Field :=
  ("tagSupport", .omissible,
    .truthOr (.record "TagSupport" [required "valueSet" (.list .signed)]))

/-- The kinds of symbols that are understood. -/
def symbolKinds : Field :=
  optional "symbolKind" (.record "SymbolKindCapability" [optional "valueSet" (.list .signed)])

/-- The kinds of markup that a text can have. -/
def markupKinds (name : String) : Field :=
  optional name (.list Parts.markupKind)

/-! ## Workspaces -/

/-- Changes of documents and files. -/
def workspaceEdit : Shape :=
  .record "WorkspaceEditClientCapabilities"
    [flag "documentChanges",
     optional "resourceOperations" (.list (.word ["create", "rename", "delete"])),
     optional "failureHandling"
       (.word ["abort", "transactional", "textOnlyTransactional", "undo"]),
     flag "normalizesLineEndings",
     optional "changeAnnotationSupport"
       (.record "ChangeAnnotationWorkspaceEditClientCapabilities" [flag "groupsOnLabel"])]

/-- Messages about files that are made, renamed or deleted. -/
def fileOperations : Shape :=
  .record "WorkspaceFileOperationsClientCapabilities"
    (["dynamicRegistration", "didCreate", "willCreate", "didRename", "willRename", "didDelete",
      "willDelete"].map flag)

/-- What an editor can do with a workspace. -/
def workspace : Shape :=
  .record "WorkspaceClientCapabilities"
    [flag "applyEdit", optional "workspaceEdit" workspaceEdit,
     optional "didChangeConfiguration" registrable,
     optional "didChangeWatchedFiles" (.record "DidChangeWatchedFilesClientCapabilities"
       [flag "dynamicRegistration", flag "relativePatternSupport"]),
     optional "symbol" (.record "WorkspaceSymbolClientCapabilities"
       [flag "dynamicRegistration", symbolKinds, tagSupport,
        optional "resolveSupport" (resolvable "WorkspaceSymbolResolveSupportCapability")]),
     optional "executeCommand" registrable, flag "workspaceFolders", flag "configuration",
     optional "semanticTokens" (refreshable "SemanticTokensWorkspaceClientCapabilities"),
     optional "codeLens" (refreshable "CodeLensWorkspaceClientCapabilities"),
     optional "fileOperations" fileOperations,
     optional "inlineValue" (refreshable "InlineValueWorkspaceClientCapabilities"),
     optional "inlayHint" (refreshable "InlayHintWorkspaceClientCapabilities"),
     optional "diagnostic" (refreshable "DiagnosticWorkspaceClientCapabilities")]

/-! ## Documents -/

/-- Completion items. -/
def completionItem : Shape :=
  .record "CompletionItemCapability"
    [flag "snippetSupport", flag "commitCharactersSupport", markupKinds "documentationFormat",
     flag "deprecatedSupport", flag "preselectSupport", tagSupport, flag "insertReplaceSupport",
     optional "resolveSupport" (resolvable "CompletionItemCapabilityResolveSupport"),
     optional "insertTextModeSupport" (.record "InsertTextModeSupport"
       [required "valueSet" (.list .signed)]),
     flag "labelDetailsSupport"]

/-- Completion. -/
def completion : Shape :=
  .record "CompletionClientCapabilities"
    [flag "dynamicRegistration", optional "completionItem" completionItem,
     optional "completionItemKind" (.record "CompletionItemKindCapability"
       [optional "valueSet" (.list .signed)]),
     flag "contextSupport", optional "insertTextMode" .signed,
     optional "completionList" (.record "CompletionListCapability"
       [optional "itemDefaults" (.list .text)])]

/-- Help on signatures. -/
def signatureHelp : Shape :=
  .record "SignatureHelpClientCapabilities"
    [flag "dynamicRegistration",
     optional "signatureInformation" (.record "SignatureInformationSettings"
       [markupKinds "documentationFormat",
        optional "parameterInformation" (.record "ParameterInformationSettings"
          [flag "labelOffsetSupport"]),
        flag "activeParameterSupport"]),
     flag "contextSupport"]

/-- Symbols of a document. -/
def documentSymbol : Shape :=
  .record "DocumentSymbolClientCapabilities"
    [flag "dynamicRegistration", symbolKinds, flag "hierarchicalDocumentSymbolSupport", tagSupport]

/-- A jump to where a symbol comes from. -/
def goto : Shape :=
  .record "GotoCapability" [flag "dynamicRegistration", flag "linkSupport"]

/-- Changes that an editor offers. -/
def codeAction : Shape :=
  .record "CodeActionClientCapabilities"
    [flag "dynamicRegistration",
     optional "codeActionLiteralSupport" (.record "CodeActionLiteralSupport"
       [required "codeActionKind" (.record "CodeActionKindLiteralSupport"
         [required "valueSet" (.list .text)])]),
     flag "isPreferredSupport", flag "disabledSupport", flag "dataSupport",
     optional "resolveSupport" (resolvable "CodeActionCapabilityResolveSupport"),
     flag "honorsChangeAnnotations"]

/-- Parts of a document that can be folded. -/
def foldingRange : Shape :=
  .record "FoldingRangeClientCapabilities"
    [flag "dynamicRegistration", optional "rangeLimit" .unsigned, flag "lineFoldingOnly",
     optional "foldingRangeKind" (.record "FoldingRangeKindCapability"
       [optional "valueSet" (.list (.word ["comment", "imports", "region"]))]),
     optional "foldingRange" (.record "FoldingRangeCapability" [flag "collapsedText"])]

/-- Highlighting. -/
def semanticTokens : Shape :=
  .record "SemanticTokensClientCapabilities"
    [flag "dynamicRegistration",
     required "requests" (.record "SemanticTokensClientCapabilitiesRequests"
       [flag "range",
        optional "full" (.choice "SemanticTokensFullOptions"
          [.truth, .mixed "SemanticTokensFullOptions" [flag "delta"] []])]),
     required "tokenTypes" (.list .text), required "tokenModifiers" (.list .text),
     required "formats" (.list .text), flag "overlappingTokenSupport",
     flag "multilineTokenSupport", flag "serverCancelSupport", flag "augmentsSyntaxTokens"]

/-- What an editor can do with a document. -/
def textDocument : Shape :=
  .record "TextDocumentClientCapabilities"
    [optional "synchronization" (.record "TextDocumentSyncClientCapabilities"
       (["dynamicRegistration", "willSave", "willSaveWaitUntil", "didSave"].map flag)),
     optional "completion" completion,
     optional "hover" (.record "HoverClientCapabilities"
       [flag "dynamicRegistration", markupKinds "contentFormat"]),
     optional "signatureHelp" signatureHelp, optional "references" registrable,
     optional "documentHighlight" registrable, optional "documentSymbol" documentSymbol,
     optional "formatting" registrable, optional "rangeFormatting" registrable,
     optional "onTypeFormatting" registrable, optional "declaration" goto,
     optional "definition" goto, optional "typeDefinition" goto, optional "implementation" goto,
     optional "codeAction" codeAction, optional "codeLens" registrable,
     optional "documentLink" (.record "DocumentLinkClientCapabilities"
       [flag "dynamicRegistration", flag "tooltipSupport"]),
     optional "colorProvider" registrable,
     optional "rename" (.record "RenameClientCapabilities"
       [flag "dynamicRegistration", flag "prepareSupport",
        optional "prepareSupportDefaultBehavior" .signed, flag "honorsChangeAnnotations"]),
     optional "publishDiagnostics" (.record "PublishDiagnosticsClientCapabilities"
       [flag "relatedInformation", tagSupport, flag "versionSupport",
        flag "codeDescriptionSupport", flag "dataSupport"]),
     optional "foldingRange" foldingRange,
     optional "selectionRange" (.record "SelectionRangeClientCapabilities"
       [flag "dynamicRegistration"]),
     optional "linkedEditingRange" registrable, optional "callHierarchy" registrable,
     optional "semanticTokens" semanticTokens, optional "moniker" registrable,
     optional "typeHierarchy" registrable, optional "inlineValue" registrable,
     optional "inlayHint" (.record "InlayHintClientCapabilities"
       [flag "dynamicRegistration",
        optional "resolveSupport" (resolvable "InlayHintResolveClientCapabilities")]),
     optional "diagnostic" (.record "DiagnosticClientCapabilities"
       [flag "dynamicRegistration", flag "relatedDocumentSupport"])]

/-! ## The editor itself -/

/-- What an editor can show. -/
def window : Shape :=
  .record "WindowClientCapabilities"
    [flag "workDoneProgress",
     optional "showMessage" (.record "ShowMessageRequestClientCapabilities"
       [optional "messageActionItem" (.record "MessageActionItemCapabilities"
         [flag "additionalPropertiesSupport"])]),
     optional "showDocument" (.record "ShowDocumentClientCapabilities"
       [required "support" .truth])]

/-- How an editor works. -/
def general : Shape :=
  .record "GeneralClientCapabilities"
    [optional "regularExpressions" (.record "RegularExpressionsClientCapabilities"
       [required "engine" .text, optional "version" .text]),
     optional "markdown" (.record "MarkdownClientCapabilities"
       [required "parser" .text, optional "version" .text, optional "allowedTags" (.list .text)]),
     optional "staleRequestSupport" (.record "StaleRequestSupportClientCapabilities"
       [required "cancel" .truth, required "retryOnContentModified" (.list .text)]),
     optional "positionEncodings" (.list .text)]

/-- What an editor can do. -/
def shape : Shape :=
  .record "ClientCapabilities"
    [optional "workspace" workspace, optional "textDocument" textDocument,
     optional "window" window, optional "general" general, optional "experimental" .anything]

end SolverInput.Editor.ClientCapabilities
