import SolverInput.Editor.Parts

/-!
# Completion items

A completion item that an editor sends back is returned as it was understood: members that items do
not have are dropped, and so are members that are null.
-/

namespace SolverInput.Editor.CompletionItem

open SolverInput.Json (Shape)
open SolverInput.Json.Field

/-- The kind of a candidate, which is a property. -/
def propertyKind : Int := 10

/-- The item that offers a candidate. -/
def ofCandidate (label : String) : Json :=
  .object [("label", .string label), ("kind", .integer propertyKind)]

/-- What stands beside the label. -/
def labelDetails : Shape :=
  .record "CompletionItemLabelDetails" [optional "detail" .text, optional "description" .text]

/-- A completion item, which has to have a label. -/
def shape : Shape :=
  .record "CompletionItem"
    [required "label" .text, optional "labelDetails" labelDetails, optional "kind" .signed,
     optional "detail" .text, optional "documentation" Parts.documentation, flag "deprecated",
     flag "preselect", optional "sortText" .text, optional "filterText" .text,
     optional "insertText" .text, optional "insertTextFormat" .signed,
     optional "insertTextMode" .signed,
     optional "textEdit" (.choice "CompletionTextEdit" [Parts.textEdit, Parts.insertReplaceEdit]),
     optional "additionalTextEdits" (.list Parts.textEdit), optional "command" Parts.command,
     optional "commitCharacters" (.list .text), optional "data" .anything,
     optional "tags" (.list .signed)]

end SolverInput.Editor.CompletionItem
