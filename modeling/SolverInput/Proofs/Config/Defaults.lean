import SolverInput.Config.Load
import SolverInput.Proofs.Text.LetterCase

/-!
# The default configuration

Without any layer the configuration is built from the defaults alone (`load_nil`). The names in the
defaults are merged under their lower-case forms, which are the names themselves, as none of them
has a capital or a character outside ASCII (`Text.lower_of_isSmall`).
-/

namespace SolverInput

namespace Config

/-- The configuration that the defaults give. -/
def standard : Config where
  completionDictionary := none
  highlighting := true
  colors := defaultColors
  reportPattern := "input_report.txt"
  languageId := "mindes"
  outputExtension := "mindes"

lemma setKey_of_name {key : String} (h : KeyPath.parse? key = some ⟨key, []⟩)
    (root value : Value) : root.setKey key value = Value.merge key root value := by
  unfold Value.setKey
  rw [h]
  cases root <;> rfl

/-- The defaults are set in an empty table as they are. -/
lemma setMembers_defaults : setMembers .emptyTable defaults = .table none defaults := by
  have hserver : KeyPath.parse? "server" = some ⟨"server", []⟩ := by decide
  have hhighlighting : KeyPath.parse? "highlighting" = some ⟨"highlighting", []⟩ := by decide
  have hfiles : KeyPath.parse? "files" = some ⟨"files", []⟩ := by decide
  have hextract : KeyPath.parse? "extract" = some ⟨"extract", []⟩ := by decide
  unfold setMembers
  simp (disch := decide) [defaults, defaultColors, textTable, Value.emptyTable,
    setKey_of_name hserver, setKey_of_name hhighlighting, setKey_of_name hfiles,
    setKey_of_name hextract, Value.merge, Value.mergeAll, Value.withMember, Value.setMember,
    Value.member?, List.lookup_cons, List.lookup_nil, Text.lower_of_isSmall]

/-- Files that merge into a table are set once more, member by member. -/
lemma mergeSources_of_table {sources : List (List (String × Value))} {origin : Option String}
    {members : List (String × Value)}
    (h : sources.foldl setMembers .emptyTable = .table origin members) :
    mergeSources sources = setMembers .emptyTable members := by
  unfold mergeSources
  rw [h]

/-- A configuration is read from what its layers merge into. -/
lemma load_of_layers {files : FileTree} {layers : List Layer}
    {overriding : List (KeyPath × Value)} {sources : List (List (String × Value))}
    (hoverriding : overrides layers = .ok overriding)
    (hsources : fileMembers files layers = .ok sources) :
    load files layers = read (mergeLayers sources overriding) := by
  unfold load
  rw [hoverriding, hsources]
  rfl

/-- **Without any layer the configuration is the default one.** -/
lemma load_nil (files : FileTree) : load files [] = .ok standard := by
  have hmerged : mergeLayers [] [] = .table none defaults := by
    have hsources : [defaults].foldl setMembers .emptyTable = .table none defaults := by
      rw [List.foldl_cons, List.foldl_nil, setMembers_defaults]
    unfold mergeLayers
    rw [List.foldl_nil, mergeSources_of_table hsources, setMembers_defaults]
  have hsorted : defaultColors.mergeSort (fun a b => decide (a.1 ≤ b.1)) = defaultColors :=
    List.mergeSort_of_pairwise (by decide)
  have hread : read (.table none defaults)
      = .ok { standard with
          colors := defaultColors.mergeSort (fun a b => decide (a.1 ≤ b.1)) } := rfl
  rw [load_of_layers (by rw [overrides]) (by rw [fileMembers]), hmerged, hread, hsorted]
  rfl

end Config

end SolverInput
