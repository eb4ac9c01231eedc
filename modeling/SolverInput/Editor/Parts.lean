import SolverInput.Json.Shape

/-!
# Parts of messages

The shapes of what messages are made of: places in documents, documents, changes of documents and of
files, texts with markup, diagnostics and symbols.
-/

namespace SolverInput.Editor.Parts

open SolverInput.Json (Shape Field)
open SolverInput.Json.Field

/-! ## Places -/

/-- A place in a document. -/
def position : Shape :=
  .record "Position" [required "line" .unsigned, required "character" .unsigned]

/-- A part of a document. -/
def range : Shape :=
  .record "Range" [required "start" position, required "end" position]

/-- A part of a document with the address of the document. -/
def location : Shape :=
  .record "Location" [required "uri" .address, required "range" range]

/-! ## Documents -/

/-- A document by its address. -/
def document : Shape :=
  .record "TextDocumentIdentifier" [required "uri" .address]

/-- A document by its address and the number of its version. -/
def versionedDocument : Shape :=
  .record "VersionedTextDocumentIdentifier" [required "uri" .address, required "version" .signed]

/-- A document by its address and, if it is known, the number of its version. -/
def editedDocument : Shape :=
  .record "OptionalVersionedTextDocumentIdentifier"
    [required "uri" .address, optional "version" .signed]

/-- A document with its text. -/
def documentItem : Shape :=
  .record "TextDocumentItem"
    [required "uri" .address, required "languageId" .text, required "version" .signed,
     required "text" .text]

/-- A change of a document. -/
def documentChange : Shape :=
  .record "TextDocumentContentChangeEvent"
    [optional "range" range, optional "rangeLength" .unsigned, required "text" .text]

/-! ## Texts, commands and diagnostics -/

/-- The kinds of markup. -/
def markupKind : Shape := .word ["plaintext", "markdown"]

/-- A text with the kind of its markup. -/
def markup : Shape :=
  .record "MarkupContent" [required "kind" markupKind, required "value" .text]

/-- A text with or without markup. -/
def documentation : Shape := .choice "Documentation" [.text, markup]

/-- A number or a string that names a thing. -/
def token : Shape := .choice "NumberOrString" [.signed, .text]

/-- A command with its arguments. -/
def command : Shape :=
  .record "Command"
    [required "title" .text, required "command" .text, optional "arguments" (.list .anything)]

/-- A remark on a part of a document. -/
def diagnostic : Shape :=
  .record "Diagnostic"
    [required "range" range, optional "severity" .signed, optional "code" token,
     optional "codeDescription" (.record "CodeDescription" [required "href" .address]),
     optional "source" .text, required "message" .text,
     optional "relatedInformation" (.list (.record "DiagnosticRelatedInformation"
       [required "location" location, required "message" .text])),
     optional "tags" (.list .signed), optional "data" .anything]

/-! ## Edits -/

/-- A replacement of a part of a document. -/
def textEdit : Shape :=
  .record "TextEdit" [required "range" range, required "newText" .text]

/-- A replacement that depends on how it is accepted. -/
def insertReplaceEdit : Shape :=
  .record "InsertReplaceEdit"
    [required "newText" .text, required "insert" range, required "replace" range]

/-- A replacement that refers to a remark about it. -/
def annotatedEdit : Shape :=
  .mixed "AnnotatedTextEdit" [required "annotationId" .text] [textEdit]

/-- Replacements in one document. -/
def documentEdit : Shape :=
  .record "TextDocumentEdit"
    [required "textDocument" editedDocument,
     required "edits" (.list (.choice "OneOf" [textEdit, annotatedEdit]))]

/-- What happens if the file that is to be made is there already. -/
def overwriteOptions (name : String) : Shape :=
  .record name [flag "overwrite", flag "ignoreIfExists"]

/-- A file that is made, renamed or deleted. -/
def fileOperation : Shape :=
  .tagged "kind"
    [("create", .record "CreateFile"
       [required "uri" .address, optional "options" (overwriteOptions "CreateFileOptions"),
        optional "annotationId" .text]),
     ("rename", .record "RenameFile"
       [required "oldUri" .address, required "newUri" .address,
        optional "options" (overwriteOptions "RenameFileOptions"),
        optional "annotationId" .text]),
     ("delete", .record "DeleteFile"
       [required "uri" .address, optional "options" (.record "DeleteFileOptions"
          [flag "recursive", flag "ignoreIfNotExists", optional "annotationId" .text])])]

/-- Changes of several documents, by document or in the order in which they are made. -/
def documentChanges : Shape :=
  .choice "DocumentChanges"
    [.list documentEdit,
     .list (.choice "DocumentChangeOperation" [fileOperation, documentEdit])]

/-- Changes of documents and files. -/
def workspaceEdit : Shape :=
  .record "WorkspaceEdit"
    [("changes", .omissible, .table "map" true (.list textEdit)),
     optional "documentChanges" documentChanges,
     optional "changeAnnotations" (.table "a map" false (.record "ChangeAnnotation"
       [required "label" .text, flag "needsConfirmation", optional "description" .text]))]

/-! ## Symbols and hints -/

/-- A symbol in a hierarchy. It has the given tags. -/
def hierarchyItem (name : String) (tags : Shape) : Shape :=
  .record name
    [required "name" .text, required "kind" .signed, optional "tags" tags, optional "detail" .text,
     required "uri" .address, required "range" range, required "selectionRange" range,
     optional "data" .anything]

/-- A symbol that calls or is called. -/
def callItem : Shape := hierarchyItem "CallHierarchyItem" (.list .signed)

/-- A type with types above or below it. -/
def typeItem : Shape := hierarchyItem "TypeHierarchyItem" .signed

/-- A symbol of a workspace. -/
def workspaceSymbol : Shape :=
  .record "WorkspaceSymbol"
    [required "name" .text, required "kind" .signed, optional "tags" (.list .signed),
     optional "containerName" .text,
     required "location" (.choice "OneOf"
       [location, .record "WorkspaceLocation" [required "uri" .address]]),
     optional "data" .anything]

/-- A part of the label of a hint. -/
def hintLabelPart : Shape :=
  .record "InlayHintLabelPart"
    [required "value" .text,
     optional "tooltip" (.choice "InlayHintLabelPartTooltip" [.text, markup]),
     optional "location" location, optional "command" command]

/-- A hint within the text of a document. -/
def inlayHint : Shape :=
  .record "InlayHint"
    [required "position" position,
     required "label" (.choice "InlayHintLabel" [.text, .list hintLabelPart]),
     optional "kind" .signed, optional "textEdits" (.list textEdit),
     optional "tooltip" (.choice "InlayHintTooltip" [.text, markup]), flag "paddingLeft",
     flag "paddingRight", optional "data" .anything]

/-- A parameter of a signature; its label is a text, or where it stands in that of the signature. -/
def signatureParameter : Shape :=
  .record "ParameterInformation"
    [required "label" (.choice "ParameterLabel" [.text, .vector 2 .unsigned]),
     optional "documentation" documentation]

/-- Help on the signatures of a call. -/
def signatureHelp : Shape :=
  .record "SignatureHelp"
    [required "signatures" (.list (.record "SignatureInformation"
       [required "label" .text, optional "documentation" documentation,
        optional "parameters" (.list signatureParameter),
        optional "activeParameter" .unsigned])),
     optional "activeSignature" .unsigned, optional "activeParameter" .unsigned]

/-! ## Links, lenses and actions -/

/-- A link from a part of a document. -/
def documentLink : Shape :=
  .record "DocumentLink"
    [required "range" range, optional "target" .address, optional "tooltip" .text,
     optional "data" .anything]

/-- A command that is shown at a part of a document. -/
def codeLens : Shape :=
  .record "CodeLens"
    [required "range" range, optional "command" command, optional "data" .anything]

/-- A change that an editor offers. -/
def codeAction : Shape :=
  .record "CodeAction"
    [required "title" .text, optional "kind" .text, optional "diagnostics" (.list diagnostic),
     optional "edit" workspaceEdit, optional "command" command, flag "isPreferred",
     optional "disabled" (.record "CodeActionDisabled" [required "reason" .text]),
     optional "data" .anything]

/-- A colour. -/
def color : Shape :=
  .record "Color"
    [required "red" (.number "f32"), required "green" (.number "f32"),
     required "blue" (.number "f32"), required "alpha" (.number "f32")]

/-- How a document is formatted. Members of other names are options too. -/
def formattingOptions : Shape :=
  .mixed "FormattingOptions"
    [required "tabSize" .unsigned, required "insertSpaces" .truth, flag "trimTrailingWhitespace",
     flag "insertFinalNewline", flag "trimFinalNewlines"]
    [.table "a map" false (.choice "FormattingProperty" [.truth, .signed, .text])]

end SolverInput.Editor.Parts
