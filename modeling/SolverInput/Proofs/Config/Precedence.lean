import SolverInput.Proofs.Config.Defaults
import SolverInput.Proofs.Config.Leaf
import SolverInput.Proofs.Config.Sources
import Mathlib.Data.List.Infix

/-!
# Which layer decides

A configuration is built from layers, and each of its leaves is decided by one value
(`load_decided_by_one_value`): the one that the latest override gives it, or else the one of the
last file that sets it, or else the default. What a layer gives at a path is the last of its
entries there. The argument follows the way in which a configuration is built:

* the files are merged in order (`FilesMergeInOrder`), and the overrides are set over them, so the
  value at a leaf is that of the last entry (`at?_mergeLayers`);
* of several overrides at one path only the last is kept, and it has entries at the same places as
  the others (`lastAt?_overrides`);
* a leaf is read from the value at its path alone (`read_leaf`).
-/

namespace SolverInput.Config

open Value

/-! ## What a layer sets -/

namespace Layer

/-- Tells whether a layer is an override. -/
def isOverride : Layer → Bool
  | .override _ _ => true
  | .file _ _ => false

/-- The entries of a layer. -/
def entries (files : FileTree) : Layer → List Setting
  | .override key value => keyEntries key value
  | .file path required =>
    match readFile files path required with
    | .ok members => fileEntries members
    | .error _ => []

/-- The value that a layer gives at a path. -/
def value? (files : FileTree) (path : List String) (layer : Layer) : Option Value :=
  lastAt? path (layer.entries files)

/-- A layer that can be put over others leaf by leaf: it has a table everywhere above the leaves and
nowhere at one, and an override is no table. -/
structure IsRegular (files : FileTree) (layer : Layer) : Prop where
  fits : ∀ leaf : Leaf, Fits leaf.path (layer.entries files)
  leaf : ∀ key value, layer = .override key value → value.isTable = false

end Layer

/-- The latest value that some layers give at a path. -/
def latest? (files : FileTree) (path : List String) (layers : List Layer) : Option Value :=
  (layers.filterMap (·.value? files path)).getLast?

/-- The value that decides a leaf: that of the latest override, or else that of the last file, or
else the default. -/
def deciding? (files : FileTree) (layers : List Layer) (leaf : Leaf) : Option Value :=
  (latest? files leaf.path (layers.filter (·.isOverride))).or
    ((latest? files leaf.path (layers.filter (!·.isOverride))).or
      (lastAt? leaf.path (fileEntries defaults)))

/-- The last entry of several groups is the last one of the last group that has one. -/
lemma lastAt?_flatMap {α : Type} (path : List String) (xs : List α) (f : α → List Setting) :
    lastAt? path (xs.flatMap f) = (xs.filterMap fun x => lastAt? path (f x)).getLast? := by
  induction xs with
  | nil => rfl
  | cons x rest ih =>
    rw [List.flatMap_cons, lastAt?_append, ih]
    cases hx : lastAt? path (f x) with
    | none => rw [List.filterMap_cons, hx, Option.or_none]
    | some value =>
      rw [List.filterMap_cons, hx, List.getLast?_cons]
      cases (rest.filterMap fun x => lastAt? path (f x)).getLast? with
      | none => rfl
      | some last => rfl

/-! ## Files -/

/-- The files among the layers set the entries of these layers. -/
lemma flatMap_fileEntries {files : FileTree} {layers : List Layer}
    {sources : List (List (String × Value))} (h : fileMembers files layers = .ok sources) :
    sources.flatMap fileEntries = (layers.filter (!·.isOverride)).flatMap (·.entries files) := by
  induction layers generalizing sources with
  | nil =>
    cases h
    rfl
  | cons layer rest ih =>
    cases layer with
    | override key value => exact ih h
    | file path required =>
      obtain ⟨members, hmembers, h⟩ := Except.bind_eq_ok_iff.1 h
      obtain ⟨others, hothers, h⟩ := Except.bind_eq_ok_iff.1 h
      cases h
      have hentries : Layer.entries files (.file path required) = fileEntries members := by
        rw [Layer.entries, hmembers]
      rw [List.flatMap_cons, ih hothers, List.filter_cons_of_pos rfl, List.flatMap_cons, hentries]

/-! ## Overrides -/

/-- The entries of an override whose key has been read. -/
def overrideEntries (overriding : KeyPath × Value) : List Setting :=
  overriding.2.stepEntries (.member overriding.1.first :: overriding.1.rest)

lemma keyEntries_of_parse? {key : String} {path : KeyPath} (h : KeyPath.parse? key = some path)
    (value : Value) : keyEntries key value = overrideEntries (path, value) := by
  unfold keyEntries
  rw [h]
  rfl

lemma map_fst_under (name : String) (es : List Setting) :
    (under name es).map Prod.fst = (es.map Prod.fst).map (name :: ·) := by
  unfold under
  rw [List.map_map, List.map_map]
  rfl

/-- Where the entries of a leaf stand depends on the steps to it only. -/
lemma map_fst_stepEntries {value value' : Value} (h : value.isTable = false)
    (h' : value'.isTable = false) (steps : List KeyStep) :
    (value.stepEntries steps).map Prod.fst = (value'.stepEntries steps).map Prod.fst := by
  induction steps with
  | nil =>
    rw [stepEntries, stepEntries, entries_of_leaf h, entries_of_leaf h']
    rfl
  | cons step rest ih =>
    cases step with
    | member name =>
      rw [stepEntries, stepEntries, List.map_cons, List.map_cons, map_fst_under, map_fst_under, ih]
    | item index => rfl

lemma lastAt?_eq_none_iff {path : List String} {es : List Setting} :
    lastAt? path es = none ↔ path ∉ es.map Prod.fst := by
  unfold lastAt?
  rw [List.getLast?_eq_none_iff, List.filterMap_eq_nil_iff]
  constructor
  · intro h hmem
    obtain ⟨entry, hentry, heq⟩ := List.mem_map.1 hmem
    have hnone := h entry hentry
    rw [if_pos heq] at hnone
    cases hnone
  · intro h entry hentry
    rw [if_neg]
    rintro rfl
    exact h (List.mem_map_of_mem hentry)

/-- Every override that is kept is one of the layers. -/
lemma exists_of_mem_overrides {layers : List Layer} {overriding : List (KeyPath × Value)}
    (h : overrides layers = .ok overriding) {path : KeyPath} {value : Value}
    (hmem : (path, value) ∈ overriding) :
    ∃ key, .override key value ∈ layers ∧ KeyPath.parse? key = some path := by
  induction layers generalizing overriding with
  | nil =>
    cases h
    cases hmem
  | cons layer rest ih =>
    cases layer with
    | file filePath required =>
      obtain ⟨key, hkey, hparse⟩ := ih h hmem
      exact ⟨key, List.mem_cons_of_mem _ hkey, hparse⟩
    | override key' value' =>
      rw [overrides] at h
      cases hparse' : KeyPath.parse? key' with
      | none =>
        rw [hparse'] at h
        cases h
      | some path' =>
        rw [hparse'] at h
        obtain ⟨later, hlater, h⟩ := Except.bind_eq_ok_iff.1 h
        cases h
        have hcases : (path, value) = (path', value') ∨ (path, value) ∈ later := by
          split_ifs at hmem
          · exact Or.inr hmem
          · exact List.mem_cons.1 hmem
        rcases hcases with heq | hmem
        · cases heq
          exact ⟨key', List.mem_cons_self, hparse'⟩
        · obtain ⟨key, hkey, hparse⟩ := ih hlater hmem
          exact ⟨key, List.mem_cons_of_mem _ hkey, hparse⟩

/-- The latest value is the one of the last entry. -/
lemma latest?_eq_lastAt? (files : FileTree) (path : List String) (layers : List Layer) :
    latest? files path layers = lastAt? path (layers.flatMap (·.entries files)) :=
  (lastAt?_flatMap path layers _).symm

lemma latest?_cons (files : FileTree) (path : List String) (layer : Layer) (rest : List Layer) :
    latest? files path (layer :: rest)
      = (latest? files path rest).or (layer.value? files path) := by
  rw [latest?_eq_lastAt?, latest?_eq_lastAt?, List.flatMap_cons, lastAt?_append]
  rfl

/-- The overrides that are kept give the same latest values as all of them. -/
lemma lastAt?_overrides {layers : List Layer} {overriding : List (KeyPath × Value)}
    (h : overrides layers = .ok overriding)
    (hleaf : ∀ key value, .override key value ∈ layers → value.isTable = false)
    (files : FileTree) (path : List String) :
    lastAt? path (overriding.flatMap overrideEntries)
      = latest? files path (layers.filter (·.isOverride)) := by
  induction layers generalizing overriding with
  | nil =>
    cases h
    rfl
  | cons layer rest ih =>
    have hrest : ∀ key value, .override key value ∈ rest → value.isTable = false :=
      fun key value hmem => hleaf key value (List.mem_cons_of_mem _ hmem)
    cases layer with
    | file filePath required => exact ih h hrest
    | override key value =>
      rw [overrides] at h
      cases hparse : KeyPath.parse? key with
      | none =>
        rw [hparse] at h
        cases h
      | some keyPath =>
        rw [hparse] at h
        obtain ⟨later, hlater, h⟩ := Except.bind_eq_ok_iff.1 h
        cases h
        have hvalue : Layer.value? files path (.override key value)
            = lastAt? path (overrideEntries (keyPath, value)) := by
          rw [← keyEntries_of_parse? hparse]
          rfl
        rw [List.filter_cons_of_pos rfl, latest?_cons, hvalue, ← ih hlater hrest]
        split_ifs with hfound
        · -- the later override of this key has entries at the same places
          obtain ⟨⟨keyPath', value'⟩, hmem, rfl⟩ := List.mem_map.1 hfound
          obtain ⟨key', hkey', -⟩ := exists_of_mem_overrides hlater hmem
          cases hlast : lastAt? path (later.flatMap overrideEntries) with
          | some last => rfl
          | none =>
            have hsame := map_fst_stepEntries (hleaf key value List.mem_cons_self)
              (hrest key' value' hkey') (.member keyPath'.first :: keyPath'.rest)
            have hnone : lastAt? path (overrideEntries (keyPath', value)) = none := by
              rw [lastAt?_eq_none_iff] at hlast ⊢
              unfold overrideEntries
              rw [hsame]
              intro hpath
              obtain ⟨entry, hentry, heq⟩ := List.mem_map.1 hpath
              exact hlast (List.mem_map.2 ⟨entry, List.mem_flatMap.2 ⟨_, hmem, hentry⟩, heq⟩)
            rw [hnone]
            rfl
        · rw [List.flatMap_cons, lastAt?_append]

/-- Overrides are set one after the other. -/
lemma sets_foldl_setAt (overriding : List (KeyPath × Value)) (root : Value) :
    Sets (overriding.flatMap overrideEntries) root
      (overriding.foldl (fun root (path, value) => root.setAt path value) root) := by
  induction overriding generalizing root with
  | nil => exact Sets.refl root
  | cons first rest ih =>
    rw [List.flatMap_cons, List.foldl_cons]
    exact (sets_assign first.2 first.1.rest first.1.first root).append (ih _)

lemma normal_foldl_setAt (overriding : List (KeyPath × Value)) {root : Value} (h : root.Normal) :
    (overriding.foldl (fun root (path, value) => root.setAt path value) root).Normal := by
  induction overriding generalizing root with
  | nil => exact h
  | cons first rest ih =>
    rw [List.foldl_cons]
    exact ih (normal_assign first.2 first.1.rest first.1.first h)

/-! ## All layers -/

/-- What is assumed of merging: the files among some layers are merged in order, behind the
defaults. Of files without a KELVIN SIGN in their keys this is a fact
(`mergesInOrder_of_no_kelvinSign`), so it is assumed of the others only. -/
def FilesMergeInOrder (files : FileTree) (layers : List Layer) : Prop :=
  ∀ sources, fileMembers files layers = .ok sources →
    (∃ members ∈ sources, ∃ member ∈ members, Text.kelvinSign ∈ member.1.toList) →
      ∀ leaf : Leaf, MergesInOrder leaf.path (defaults :: sources)

/-- Tells whether an entry is in the way of no leaf. -/
def fitsLeaves (entry : Setting) : Bool :=
  match entry.1 with
  | [] | ["server"] | ["highlighting"] | ["highlighting", "colors"] | ["files"] | ["extract"] =>
    entry.2.isTable
  | ["server", "completion_dictionary"] | ["highlighting", "enabled"]
  | ["highlighting", "colors", _] | ["files", "report_pattern"] | ["files", "language_id"]
  | ["extract", "output_extension"] => !entry.2.isTable
  | _ => true

lemma fits_of_fitsLeaves {es : List Setting} (h : es.all fitsLeaves = true) (leaf : Leaf) :
    Fits leaf.path es := by
  intro entry hentry hprefix
  have hfits := List.all_eq_true.1 h entry hentry
  obtain ⟨path, value⟩ := entry
  have hinits : path ∈ leaf.path.inits := (List.mem_inits _ _).2 hprefix
  dsimp only
  cases leaf with
  | color name =>
    simp only [Leaf.path, List.inits, List.map_cons, List.map_nil, List.mem_cons, List.not_mem_nil,
      or_false] at hinits
    rcases hinits with rfl | rfl | rfl | rfl
    · simpa [Leaf.path, fitsLeaves] using hfits
    · simpa [Leaf.path, fitsLeaves] using hfits
    · simpa [Leaf.path, fitsLeaves] using hfits
    · simpa [Leaf.path, fitsLeaves] using hfits
  | _ =>
    simp only [Leaf.path, List.inits, List.map_cons, List.map_nil, List.mem_cons, List.not_mem_nil,
      or_false] at hinits
    rcases hinits with rfl | rfl | rfl
    · simpa [Leaf.path, fitsLeaves] using hfits
    · simpa [Leaf.path, fitsLeaves] using hfits
    · simpa [Leaf.path, fitsLeaves] using hfits

/-- The defaults are tables above the leaves, and no table at one. -/
lemma fits_defaults (leaf : Leaf) : Fits leaf.path (fileEntries defaults) := by
  have hserver : KeyPath.parse? "server" = some ⟨"server", []⟩ := by decide
  have hhighlighting : KeyPath.parse? "highlighting" = some ⟨"highlighting", []⟩ := by decide
  have hfiles : KeyPath.parse? "files" = some ⟨"files", []⟩ := by decide
  have hextract : KeyPath.parse? "extract" = some ⟨"extract", []⟩ := by decide
  apply fits_of_fitsLeaves
  simp (disch := decide) only [fileEntries, defaults, defaultColors, textTable, emptyTable,
    List.flatMap_cons, List.flatMap_nil, keyEntries, hserver, hhighlighting, hfiles, hextract,
    stepEntries, Value.entries, memberEntries, under, Text.lower_of_isSmall, List.map_cons,
    List.map_nil, List.cons_append, List.nil_append, List.append_nil]
  rfl

lemma fits_flatMap {α : Type} {path : List String} {xs : List α} {f : α → List Setting}
    (h : ∀ x ∈ xs, Fits path (f x)) : Fits path (xs.flatMap f) := by
  intro entry hentry
  obtain ⟨x, hx, hentry⟩ := List.mem_flatMap.1 hentry
  exact h x hx entry hentry

lemma exists_path_eq_cons (leaf : Leaf) : ∃ name rest, leaf.path = name :: rest := by
  cases leaf <;> exact ⟨_, _, rfl⟩

section

variable {files : FileTree} {layers : List Layer} {overriding : List (KeyPath × Value)}
  {sources : List (List (String × Value))}

lemma fits_overriding (hregular : ∀ layer ∈ layers, layer.IsRegular files)
    (hoverriding : overrides layers = .ok overriding) (leaf : Leaf) :
    Fits leaf.path (overriding.flatMap overrideEntries) := by
  apply fits_flatMap
  rintro ⟨path, value⟩ hmem
  obtain ⟨key, hlayer, hparse⟩ := exists_of_mem_overrides hoverriding hmem
  have hfits := (hregular _ hlayer).fits leaf
  rwa [Layer.entries, keyEntries_of_parse? hparse] at hfits

lemma fits_sources (hregular : ∀ layer ∈ layers, layer.IsRegular files)
    (hsources : fileMembers files layers = .ok sources) (leaf : Leaf) :
    Fits leaf.path (sources.flatMap fileEntries) := by
  rw [flatMap_fileEntries hsources]
  apply fits_flatMap
  intro layer hlayer
  exact (hregular layer (List.mem_filter.1 hlayer).1).fits leaf

/-- The last entry of all layers decides. -/
lemma deciding?_eq_lastAt? (hregular : ∀ layer ∈ layers, layer.IsRegular files)
    (hoverriding : overrides layers = .ok overriding)
    (hsources : fileMembers files layers = .ok sources) (leaf : Leaf) :
    deciding? files layers leaf
      = lastAt? leaf.path ((fileEntries defaults ++ sources.flatMap fileEntries)
          ++ overriding.flatMap overrideEntries) := by
  have hleaf : ∀ key value, .override key value ∈ layers → value.isTable = false :=
    fun key value hlayer => (hregular _ hlayer).leaf key value rfl
  unfold deciding?
  rw [← lastAt?_overrides hoverriding hleaf, latest?_eq_lastAt?, ← flatMap_fileEntries hsources,
    lastAt?_append, lastAt?_append]

lemma FilesMergeInOrder.mergesInOrder (h : FilesMergeInOrder files layers)
    (hsources : fileMembers files layers = .ok sources) (leaf : Leaf) :
    MergesInOrder leaf.path (defaults :: sources) := by
  by_cases hkelvin : ∃ members ∈ sources, ∃ member ∈ members, Text.kelvinSign ∈ member.1.toList
  · exact h sources hsources hkelvin leaf
  · obtain ⟨name, rest, hpath⟩ := exists_path_eq_cons leaf
    rw [hpath]
    apply mergesInOrder_of_no_kelvinSign
    intro members hmembers
    rcases List.mem_cons.1 hmembers with rfl | hmembers
    · decide
    · intro member hmember hsign
      exact hkelvin ⟨members, hmembers, member, hmember, hsign⟩

/-- Seen from a leaf, the merged values are the value that decides it. -/
lemma at?_mergeLayers (hregular : ∀ layer ∈ layers, layer.IsRegular files)
    (horder : FilesMergeInOrder files layers)
    (hoverriding : overrides layers = .ok overriding)
    (hsources : fileMembers files layers = .ok sources) (leaf : Leaf) :
    LeafAt leaf.path (mergeLayers sources overriding) ∧
      ((mergeLayers sources overriding).at? leaf.path).map outline
        = (deciding? files layers leaf).map outline := by
  have hsame := horder.mergesInOrder hsources leaf
  have hfiles := (fits_defaults leaf).append (fits_sources hregular hsources leaf)
  have hover := fits_overriding hregular hoverriding leaf
  rw [deciding?_eq_lastAt? hregular hoverriding hsources, lastAt?_append]
  obtain ⟨name, rest, hpath⟩ := exists_path_eq_cons leaf
  rw [hpath] at hsame hfiles hover ⊢
  obtain ⟨hleaf, hmerged⟩ := at?_mergeSources hsame hfiles
  obtain ⟨hleaf', hset⟩ := sets_foldl_setAt overriding _ name rest hover hleaf
  refine ⟨hleaf', hset.trans ?_⟩
  rw [Option.map_or, Option.map_or, hmerged]
  rfl

/-- What the layers are merged into is a merged value. -/
lemma normal_mergeLayers (sources : List (List (String × Value)))
    (overriding : List (KeyPath × Value)) : (mergeLayers sources overriding).Normal :=
  normal_foldl_setAt overriding (normal_mergeSources (defaults :: sources))

end

/-- Each leaf is read from the value that decides it. -/
lemma read_deciding? {files : FileTree} {layers : List Layer} {config : Config}
    (hregular : ∀ layer ∈ layers, layer.IsRegular files)
    (horder : FilesMergeInOrder files layers)
    (hload : load files layers = .ok config) (leaf : Leaf) :
    leaf.read (deciding? files layers leaf) = .ok (leaf.get config) := by
  obtain ⟨overriding, hoverriding, hload⟩ := Except.bind_eq_ok_iff.1 hload
  obtain ⟨sources, hsources, hread⟩ := Except.bind_eq_ok_iff.1 hload
  have hmerged := at?_mergeLayers hregular horder hoverriding hsources
  have hnormal := normal_mergeLayers sources overriding
  have hleaf := read_leaf (fun leaf => (hmerged leaf).1) hnormal hread leaf
  rw [Leaf.read_of_outline hleaf (hmerged leaf).2]
  exact hleaf

/-! ## Moving and adding layers -/

/-- Only the overrides matter to what is overridden. -/
lemma overrides_filter (layers : List Layer) :
    overrides (layers.filter (·.isOverride)) = overrides layers := by
  induction layers with
  | nil => rfl
  | cons layer rest ih =>
    cases layer with
    | file path required => exact ih
    | override key value =>
      rw [List.filter_cons_of_pos rfl, overrides, overrides, ih]

/-- Only the files matter to what is read from files. -/
lemma fileMembers_filter (files : FileTree) (layers : List Layer) :
    fileMembers files (layers.filter (!·.isOverride)) = fileMembers files layers := by
  induction layers with
  | nil => rfl
  | cons layer rest ih =>
    cases layer with
    | override key value => exact ih
    | file path required =>
      rw [List.filter_cons_of_pos rfl, fileMembers, fileMembers, ih]

/-- Overrides and files can stand in any order among each other. -/
lemma load_of_filter_eq {files : FileTree} {layers layers' : List Layer}
    (hoverrides : layers'.filter (·.isOverride) = layers.filter (·.isOverride))
    (hfiles : layers'.filter (!·.isOverride) = layers.filter (!·.isOverride)) :
    load files layers' = load files layers := by
  unfold load
  rw [← overrides_filter layers', hoverrides, overrides_filter, ← fileMembers_filter files layers',
    hfiles, fileMembers_filter]

lemma fileMembers_append (files : FileTree) (xs ys : List Layer) :
    fileMembers files (xs ++ ys) = (fileMembers files xs).bind fun before =>
      (fileMembers files ys).map (before ++ ·) := by
  induction xs with
  | nil =>
    rw [List.nil_append, fileMembers]
    show fileMembers files ys = (fileMembers files ys).map fun after => after
    cases fileMembers files ys <;> rfl
  | cons layer rest ih =>
    cases layer with
    | override key value => exact ih
    | file path required =>
      rw [List.cons_append, fileMembers, fileMembers, ih]
      cases readFile files path required with
      | error error => rfl
      | ok members =>
        cases fileMembers files rest with
        | error error => rfl
        | ok before =>
          cases fileMembers files ys with
          | error error => rfl
          | ok after => rfl

/-- A file without members changes nothing. -/
lemma mergeLayers_insert_nil (before after : List (List (String × Value)))
    (overriding : List (KeyPath × Value)) :
    mergeLayers (before ++ [] :: after) overriding = mergeLayers (before ++ after) overriding := by
  unfold mergeLayers mergeSources
  rw [List.foldl_cons, List.foldl_cons, List.foldl_append, List.foldl_append, List.foldl_cons]
  rfl

/-- An optional file that is absent changes nothing. -/
lemma load_insert_absent {files : FileTree} {path : Path} (h : findFile? files path = none)
    (before after : List Layer) :
    load files (before ++ .file path false :: after) = load files (before ++ after) := by
  have habsent : readFile files path false = .ok [] := by
    unfold readFile
    rw [h]
    rfl
  have hoverrides : overrides (before ++ .file path false :: after)
      = overrides (before ++ after) := by
    rw [← overrides_filter, List.filter_append,
      List.filter_cons_of_neg (by simp [Layer.isOverride]), ← List.filter_append, overrides_filter]
  unfold load
  rw [hoverrides, fileMembers_append, fileMembers_append, fileMembers, habsent]
  cases overrides (before ++ after) with
  | error error => rfl
  | ok overriding =>
    cases fileMembers files before with
    | error error => rfl
    | ok sources =>
      cases fileMembers files after with
      | error error => rfl
      | ok sources' =>
        show read (mergeLayers (sources ++ [] :: sources') overriding)
          = read (mergeLayers (sources ++ sources') overriding)
        rw [mergeLayers_insert_nil]

/-! ## A sample -/

/-- A file that sets one leaf, under a name with a capital. -/
def sampleText : Text := "Files.language_id=1".toList

/-- A tree with that file. -/
def sampleFiles : FileTree :=
  FileTree.put {} ["work".toList, "c.toml".toList] (.file (Text.toBytes sampleText))

/-- What that file sets. -/
def sampleMembers : List (String × Value) :=
  [("Files", .table (some "c.toml") [("language_id", .integer (some "c.toml") 1)])]

/-- Whether a file sets that leaf and nothing else. -/
def isSample : List (String × Toml.Value) → Bool
  | [(outer, .table [(inner, .integer n)])] =>
    decide (outer = "Files" ∧ inner = "language_id" ∧ n = 1)
  | _ => false

lemma eq_of_isSample {members : List (String × Toml.Value)} (h : isSample members = true) :
    members = [("Files", .table [("language_id", .integer 1)])] := by
  unfold isSample at h
  split at h
  · obtain ⟨rfl, rfl, rfl⟩ := of_decide_eq_true h
    rfl
  · cases h

lemma readFile_sample : readFile sampleFiles ⟨"c"⟩ true = .ok sampleMembers := by
  have hfind : findFile? sampleFiles ⟨"c"⟩ = some ⟨"c.toml"⟩ := by decide +kernel
  have hwrite : FileTree.write {} ⟨"c.toml"⟩ (Text.toBytes sampleText) = .ok sampleFiles := rfl
  have hsample : (Toml.parse? sampleText).any isSample = true := by decide +kernel
  have hparse : Toml.parse? sampleText
      = some [("Files", .table [("language_id", .integer 1)])] := by
    rw [Option.any_eq_true] at hsample
    obtain ⟨members, hmembers, his⟩ := hsample
    rw [hmembers, eq_of_isSample his]
  have horigin : originOf ⟨"c.toml"⟩ = "c.toml" := by decide +kernel
  unfold readFile
  rw [hfind]
  dsimp only
  rw [FileTree.readText_write hwrite]
  dsimp only
  rw [hparse, horigin]
  rfl

/-- An override of the pattern for reports. -/
def samplePattern (pattern : String) : Layer :=
  .override "files.report_pattern" (.text none pattern)

lemma parse?_samplePattern : KeyPath.parse? "files.report_pattern"
    = some ⟨"files", [.member "report_pattern"]⟩ := by decide

lemma isRegular_samplePattern (files : FileTree) (pattern : String) :
    (samplePattern pattern).IsRegular files := by
  refine ⟨?_, ?_⟩
  · apply fits_of_fitsLeaves
    rw [samplePattern, Layer.entries, keyEntries, parse?_samplePattern]
    simp (disch := decide) only [stepEntries, Value.entries, under, Text.lower_of_isSmall,
      List.map_cons, List.map_nil]
    rfl
  · intro key value heq
    cases heq
    rfl

lemma lower_sample : Text.lower "Files" = "files" := by decide +kernel

lemma parse?_sample : KeyPath.parse? "Files" = some ⟨"Files", []⟩ := by decide

lemma isRegular_sample : Layer.IsRegular sampleFiles (.file ⟨"c"⟩ true) := by
  refine ⟨?_, ?_⟩
  · apply fits_of_fitsLeaves
    rw [Layer.entries, readFile_sample]
    simp (disch := decide) only [fileEntries, sampleMembers, List.flatMap_cons, List.flatMap_nil,
      keyEntries, parse?_sample, stepEntries, Value.entries, memberEntries, under, lower_sample,
      Text.lower_of_isSmall, List.map_cons, List.map_nil, List.append_nil]
    rfl
  · intro key value heq
    cases heq

/-- What the defaults and that file are merged into, with a pattern for reports. -/
def sampleMerged (pattern : String) : List (String × Value) :=
  [("server", .emptyTable),
   ("highlighting", .table none
      [("enabled", .boolean none true), ("colors", textTable defaultColors)]),
   ("files", .table none
      [("report_pattern", .text none pattern), ("language_id", .integer (some "c.toml") 1)]),
   ("extract", textTable [("output_extension", "mindes")])]

lemma mergeSources_sample : mergeSources [defaults, sampleMembers]
    = .table none (sampleMerged "input_report.txt") := by
  have hserver : KeyPath.parse? "server" = some ⟨"server", []⟩ := by decide
  have hhighlighting : KeyPath.parse? "highlighting" = some ⟨"highlighting", []⟩ := by decide
  have hfiles : KeyPath.parse? "files" = some ⟨"files", []⟩ := by decide
  have hextract : KeyPath.parse? "extract" = some ⟨"extract", []⟩ := by decide
  have hfirst : [defaults, sampleMembers].foldl setMembers .emptyTable
      = .table none (sampleMerged "input_report.txt") := by
    rw [List.foldl_cons, List.foldl_cons, setMembers_defaults]
    simp (disch := decide) only [List.foldl_nil, List.foldl_cons, sampleMembers, setMembers,
      setKey_of_name parse?_sample, merge, mergeAll, lower_sample, Text.lower_of_isSmall,
      withMember, member?, setMember, defaults, textTable]
    rfl
  rw [mergeSources_of_table hfirst]
  simp (disch := decide) only [List.foldl_nil, List.foldl_cons, sampleMerged, setMembers,
    setKey_of_name hserver, setKey_of_name hhighlighting, setKey_of_name hfiles,
    setKey_of_name hextract, merge, mergeAll, Text.lower_of_isSmall, withMember, member?,
    setMember, textTable, defaultColors, emptyTable, List.map_cons, List.map_nil]
  rfl

lemma fileMembers_sample : fileMembers sampleFiles
    [samplePattern "r", .file ⟨"c"⟩ true, samplePattern "s"] = .ok [sampleMembers] := by
  simp only [samplePattern, fileMembers, readFile_sample]
  rfl

/-- The sample layers build a configuration. -/
lemma load_sample : load sampleFiles [samplePattern "r", .file ⟨"c"⟩ true, samplePattern "s"]
    = .ok { standard with reportPattern := "s", languageId := "1" } := by
  have hmerged : mergeLayers [sampleMembers]
        [(⟨"files", [.member "report_pattern"]⟩, .text none "s")]
      = .table none (sampleMerged "s") := by
    unfold mergeLayers
    rw [mergeSources_sample]
    simp (disch := decide) only [List.foldl_nil, List.foldl_cons, sampleMerged, setAt, assign,
      merge, Text.lower_of_isSmall, withMember, member?, setMember]
    rfl
  have hoverrides : overrides [samplePattern "r", .file ⟨"c"⟩ true, samplePattern "s"]
      = .ok [(⟨"files", [.member "report_pattern"]⟩, .text none "s")] := by
    simp only [samplePattern, overrides, parse?_samplePattern]
    rfl
  have hsorted : defaultColors.mergeSort (fun a b => decide (a.1 ≤ b.1)) = defaultColors :=
    List.mergeSort_of_pairwise (by decide)
  rw [load_of_layers hoverrides fileMembers_sample, hmerged]
  show Except.ok { standard with
      colors := defaultColors.mergeSort (fun a b => decide (a.1 ≤ b.1))
      reportPattern := "s", languageId := "1" } = _
  rw [hsorted]
  rfl

/-! ## Precedence -/

/-- **Each leaf is decided by one value.** If layers that are regular build a configuration, each of
its leaves is read from one value alone: that of the latest override of its path, or else that of
the last file that sets it, or else the default. So a leaf is the same in every other configuration
in which the same value decides it, whatever else its layers set; and the whole configuration is the
same if overrides are moved before or behind files, or if an optional file is added that is
absent. What is assumed of merging is that files come in order also if a KELVIN SIGN stands in a key
(`FilesMergeInOrder`). -/
theorem load_decided_by_one_value (files : FileTree) (layers : List Layer) (config : Config)
    (hregular : ∀ layer ∈ layers, layer.IsRegular files)
    (horder : FilesMergeInOrder files layers) (hload : load files layers = .ok config) :
    (∀ leaf : Leaf, leaf.read (deciding? files layers leaf) = .ok (leaf.get config)) ∧
    (∀ (files' : FileTree) (layers' : List Layer) (config' : Config),
      (∀ layer ∈ layers', layer.IsRegular files') → FilesMergeInOrder files' layers' →
      load files' layers' = .ok config' →
      ∀ leaf : Leaf, deciding? files' layers' leaf = deciding? files layers leaf →
        leaf.get config' = leaf.get config) ∧
    (∀ layers' : List Layer,
      layers'.filter (·.isOverride) = layers.filter (·.isOverride) →
      layers'.filter (!·.isOverride) = layers.filter (!·.isOverride) →
      load files layers' = .ok config) ∧
    (∀ (before after : List Layer) (path : Path), layers = before ++ after →
      findFile? files path = none →
      load files (before ++ .file path false :: after) = .ok config) := by
  have hread := read_deciding? hregular horder hload
  refine ⟨hread, ?_, ?_, ?_⟩
  · intro files' layers' config' hregular' horder' hload' leaf hsame
    have hread' := read_deciding? hregular' horder' hload' leaf
    rw [hsame, hread leaf] at hread'
    exact (Except.ok.inj hread').symm
  · intro layers' hoverrides hfiles
    rw [load_of_filter_eq hoverrides hfiles, hload]
  · intro before after path hlayers habsent
    rw [load_insert_absent habsent, ← hlayers, hload]

/-- A file between two overrides of another leaf: the leaf that the file sets, in capitals, is read
from the file, the other one from the later override, and both stay if the overrides are moved
behind the file and an absent file is put before it. -/
theorem load_decided_by_one_value_of_sample :
    let layers : List Layer := [samplePattern "r", .file ⟨"c"⟩ true, samplePattern "s"]
    let moved : List Layer := [.file ⟨"c"⟩ true, samplePattern "r", samplePattern "s"]
    ∃ config, load sampleFiles layers = .ok config ∧
      (∀ layer ∈ layers, layer.IsRegular sampleFiles) ∧ FilesMergeInOrder sampleFiles layers ∧
      Leaf.languageId.read (deciding? sampleFiles layers .languageId) = .ok config.languageId ∧
      config.languageId = "1" ∧ config.reportPattern = "s" ∧
      load sampleFiles moved = .ok config ∧
      load sampleFiles (.file ⟨"absent"⟩ false :: layers) = .ok config := by
  intro layers moved
  have hregular : ∀ layer ∈ layers, layer.IsRegular sampleFiles := by
    intro layer hlayer
    simp only [layers, List.mem_cons, List.not_mem_nil, or_false] at hlayer
    rcases hlayer with rfl | rfl | rfl
    · exact isRegular_samplePattern sampleFiles "r"
    · exact isRegular_sample
    · exact isRegular_samplePattern sampleFiles "s"
  have horder : FilesMergeInOrder sampleFiles layers := by
    intro sources hsources hkelvin
    rw [fileMembers_sample] at hsources
    cases hsources
    exact absurd hkelvin (by decide)
  obtain ⟨hread, -, hmoved, habsent⟩ :=
    load_decided_by_one_value sampleFiles layers _ hregular horder load_sample
  have hnone : findFile? sampleFiles ⟨"absent"⟩ = none := by decide +kernel
  exact ⟨_, load_sample, hregular, horder, hread .languageId, rfl, rfl, hmoved moved rfl rfl,
    habsent [] layers ⟨"absent"⟩ rfl hnone⟩

end SolverInput.Config
