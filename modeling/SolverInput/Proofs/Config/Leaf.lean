import SolverInput.Proofs.Config.Normal
import SolverInput.Proofs.Files.Tree

/-!
# The leaves of a configuration

Every field of a configuration, and every single colour, is a leaf: it has a path in the merged
values, and it is read from the value there and from nothing else (`read_leaf`). Sections can also
be lists, whose fields are found by their place; a path that leads through tables excludes that.
-/

namespace SolverInput.Config

open Value

/-- A leaf of the configuration. -/
inductive Leaf where
  | completionDictionary
  | highlighting
  | color (name : String)
  | reportPattern
  | languageId
  | outputExtension
  deriving DecidableEq

namespace Leaf

/-- The section of a leaf and the names that lead to it from there. -/
def path : Leaf → List String
  | completionDictionary => ["server", "completion_dictionary"]
  | highlighting => ["highlighting", "enabled"]
  | color name => ["highlighting", "colors", name]
  | reportPattern => ["files", "report_pattern"]
  | languageId => ["files", "language_id"]
  | outputExtension => ["extract", "output_extension"]

/-- What a configuration has at a leaf. -/
def Content : Leaf → Type
  | completionDictionary => Option Path
  | highlighting => Bool
  | color _ => Option String
  | reportPattern => String
  | languageId => String
  | outputExtension => String

/-- The content of a leaf in a configuration. -/
def get (config : Config) : (leaf : Leaf) → leaf.Content
  | completionDictionary => config.completionDictionary
  | highlighting => config.highlighting
  | color name => config.colors.lookup name
  | reportPattern => config.reportPattern
  | languageId => config.languageId
  | outputExtension => config.outputExtension

/-- The key that messages about a leaf show. -/
def key (leaf : Leaf) : List KeyPart := leaf.path.map .name

/-- Reads a leaf that may be absent. -/
def readOptional {α : Type} (reader : Value → Except Error α) :
    Option Value → Except Error (Option α)
  | none => .ok none
  | some value => (reader value).map some

/-- Reads a leaf that has to be there. -/
def readRequired {α : Type} (name : String) (reader : Value → Except Error α) :
    Option Value → Except Error α
  | none => .error (.missingField name)
  | some value => reader value

/-- Reads the content of a leaf from the value at its path. -/
def read : (leaf : Leaf) → Option Value → Except Error leaf.Content
  | completionDictionary, value? =>
    (readOptional (readOptionalText completionDictionary.key) value?).map
      fun text? => text?.join.map Path.mk
  | highlighting, value? => readRequired "enabled" (readBoolean highlighting.key) value?
  | color name, value? => readOptional (readText (color name).key) value?
  | reportPattern, value? => readRequired "report_pattern" (readText reportPattern.key) value?
  | languageId, value? => readRequired "language_id" (readText languageId.key) value?
  | outputExtension, value? => readRequired "output_extension" (readText outputExtension.key) value?

/-! ## Reading takes no list -/

/-- A list is no content of a leaf. -/
lemma not_list_of_read {leaf : Leaf} {content : leaf.Content} {origin : Option String}
    {items : List Value} : leaf.read (some (.list origin items)) ≠ .ok content := by
  cases leaf <;> exact nofun

/-- The items of lists do not matter to a leaf that can be read. -/
lemma read_of_outline {leaf : Leaf} {content : leaf.Content} {value? value'? : Option Value}
    (h : leaf.read value? = .ok content) (hsame : value?.map outline = value'?.map outline) :
    value'? = value? := by
  cases value? with
  | none =>
    rw [Option.map_none, eq_comm, Option.map_eq_none_iff] at hsame
    exact hsame
  | some value =>
    obtain ⟨value', rfl, houtline⟩ := Option.map_eq_some_iff.1 hsame.symm
    cases value with
    | list origin items => exact absurd h not_list_of_read
    | _ =>
      cases value' with
      | list origin items => cases houtline
      | _ => exact congrArg some houtline

end Leaf

/-! ## Reading sections -/

/-- A field of a section that is a table is the member of that name, and a path through the field
goes on from there. -/
lemma at?_of_field {root values value : Value} {shape : SectionShape} {key : List KeyPart}
    {index : Nat} {name : String} {path rest : List String}
    (hvalues : sectionValues root shape.name = .ok values)
    (hfield : field shape values index name = .ok (key, value))
    (hleaf : LeafAt path root) (hpath : path = shape.name :: name :: rest) :
    key = [.name shape.name, .name name] ∧ root.at? [shape.name, name] = some value ∧
      root.at? path = value.at? rest := by
  subst hpath
  have hmember : root.member? shape.name = some values := by
    unfold sectionValues at hvalues
    split at hvalues
    · rename_i found hfound
      cases hvalues
      exact hfound
    · cases hvalues
  have htable := (hleaf.2 values hmember).1
  cases values with
  | table origin members =>
    obtain ⟨found?, hfound, hfield⟩ := Except.bind_eq_ok_iff.1 hfield
    cases hfound
    cases hlookup : members.lookup name with
    | none =>
      rw [hlookup] at hfield
      cases hfield
    | some found =>
      rw [hlookup] at hfield
      cases hfield
      have hat (more : List String) : root.at? (shape.name :: name :: more) = value.at? more := by
        rw [at?, hmember, Option.bind_some, at?, member?, hlookup, Option.bind_some]
      exact ⟨rfl, hat [], hat rest⟩
  | _ => cases htable

/-- A section that may be absent is read like a leaf that may be absent. -/
lemma readServer_eq_of_leafAt {root : Value}
    (hleaf : LeafAt Leaf.completionDictionary.path root) :
    readServer root
      = Leaf.completionDictionary.read (root.at? Leaf.completionDictionary.path) := by
  have hpath : root.at? Leaf.completionDictionary.path
      = (root.member? "server").bind (at? ["completion_dictionary"]) := rfl
  have hserver : serverShape.name = "server" := rfl
  unfold readServer
  rw [hpath, hserver]
  cases hmember : root.member? "server" with
  | none => rfl
  | some values =>
    have htable := (hleaf.2 values hmember).1
    cases values with
    | table origin members =>
      have hleafValue : at? ["completion_dictionary"] (.table origin members)
          = members.lookup "completion_dictionary" := by
        rw [at?, member?]
        cases members.lookup "completion_dictionary" <;> rfl
      rw [Option.bind_some, hleafValue]
      dsimp only [field?, bind, Except.bind]
      cases members.lookup "completion_dictionary" with
      | none => rfl
      | some value =>
        show (readOptionalText Leaf.completionDictionary.key value).bind
            (fun text? => .ok (text?.map Path.mk))
          = ((readOptionalText Leaf.completionDictionary.key value).map some).map
            fun text? => text?.join.map Path.mk
        cases readOptionalText Leaf.completionDictionary.key value with
        | error error => rfl
        | ok text? => rfl
    | _ => cases htable

/-! ## Reading colours -/

/-- The order of members with different names does not matter. -/
lemma lookup_of_perm {α : Type} {xs ys : List (String × α)} (h : xs.Perm ys)
    (hnames : (xs.map Prod.fst).Nodup) (name : String) : ys.lookup name = xs.lookup name := by
  have hnames' : (ys.map Prod.fst).Nodup := (h.map Prod.fst).nodup_iff.1 hnames
  apply Option.ext
  intro value
  constructor
  · intro hy
    exact lookup_of_mem hnames (h.mem_iff.2 (mem_of_lookup hy))
  · intro hx
    exact lookup_of_mem hnames' (h.mem_iff.1 (mem_of_lookup hx))

/-- A table of texts is read member by member. -/
lemma readTexts_table {key : List KeyPart} {origin : Option String}
    {members : List (String × Value)} {texts : List (String × String)}
    (h : readTexts key (.table origin members) = .ok texts) :
    texts.map Prod.fst = members.map Prod.fst ∧
      ∀ name, Leaf.readOptional (readText (key ++ [.name name])) (members.lookup name)
        = .ok (texts.lookup name) := by
  unfold readTexts at h
  dsimp only at h
  induction members generalizing texts with
  | nil =>
    cases h
    exact ⟨rfl, fun _ => rfl⟩
  | cons member rest ih =>
    rw [List.mapM_cons] at h
    obtain ⟨text, htext, h⟩ := Except.bind_eq_ok_iff.1 h
    obtain ⟨texts', htexts, h⟩ := Except.bind_eq_ok_iff.1 h
    obtain ⟨s, hs, hmember⟩ := Except.bind_eq_ok_iff.1 htext
    cases h
    cases hmember
    obtain ⟨hnames, hrest⟩ := ih htexts
    refine ⟨by rw [List.map_cons, List.map_cons, hnames], ?_⟩
    intro name
    rw [lookup_cons_eq, lookup_cons_eq]
    split_ifs with hname
    · subst hname
      rw [Leaf.readOptional, hs]
      rfl
    · exact hrest name

lemma Value.Normal.at? {value found : Value} {path : List String} (h : Normal value)
    (hfound : value.at? path = some found) : Normal found := by
  induction path generalizing value with
  | nil =>
    cases hfound
    exact h
  | cons name rest ih =>
    obtain ⟨member, hmember, hrest⟩ := Option.bind_eq_some_iff.1 hfound
    exact ih (h.member? hmember) hrest

/-- The colours are read name by name, and sorting them changes no colour. -/
lemma read_color {root values value : Value} {key : List KeyPart} {texts : List (String × String)}
    (hleaf : ∀ name, LeafAt (Leaf.color name).path root) (hnormal : root.Normal)
    (hvalues : sectionValues root highlightingShape.name = .ok values)
    (hfield : field highlightingShape values 1 "colors" = .ok (key, value))
    (htexts : readTexts key value = .ok texts) (name : String) :
    Leaf.readOptional (readText (Leaf.color name).key) (root.at? (Leaf.color name).path)
      = .ok ((texts.mergeSort fun a b => decide (a.1 ≤ b.1)).lookup name) := by
  obtain ⟨rfl, hvalue, hpath⟩ := at?_of_field hvalues hfield (hleaf name) rfl
  cases value with
  | table origin members =>
    obtain ⟨hnames, hread⟩ := readTexts_table htexts
    have hmember : at? [name] (.table origin members) = members.lookup name := by
      rw [at?, member?]
      cases members.lookup name <;> rfl
    -- sorting could change a colour only if a name stood there twice
    have hnodup : (texts.map Prod.fst).Nodup := by
      rw [hnames]
      cases hnormal.at? hvalue with
      | leaf h => cases h
      | table names _ _ => exact names
    rw [hpath, hmember, lookup_of_perm (List.mergeSort_perm _ _).symm hnodup]
    exact hread name
  | _ => cases htexts

/-- **Every leaf is read from the value at its path.** -/
lemma read_leaf {root : Value} {config : Config} (hleaf : ∀ leaf : Leaf, LeafAt leaf.path root)
    (hnormal : root.Normal) (h : read root = .ok config) (leaf : Leaf) :
    leaf.read (root.at? leaf.path) = .ok (leaf.get config) := by
  -- the sections and fields in the order in which they are read
  obtain ⟨dictionary, hdictionary, h⟩ := Except.bind_eq_ok_iff.1 h
  obtain ⟨highlighting, hhighlighting, h⟩ := Except.bind_eq_ok_iff.1 h
  obtain ⟨⟨enabledKey, enabledValue⟩, henabled, h⟩ := Except.bind_eq_ok_iff.1 h
  obtain ⟨enabled, hreadEnabled, h⟩ := Except.bind_eq_ok_iff.1 h
  obtain ⟨⟨colorsKey, colorsValue⟩, hcolors, h⟩ := Except.bind_eq_ok_iff.1 h
  obtain ⟨colors, hreadColors, h⟩ := Except.bind_eq_ok_iff.1 h
  obtain ⟨files, hfiles, h⟩ := Except.bind_eq_ok_iff.1 h
  obtain ⟨⟨patternKey, patternValue⟩, hpattern, h⟩ := Except.bind_eq_ok_iff.1 h
  obtain ⟨pattern, hreadPattern, h⟩ := Except.bind_eq_ok_iff.1 h
  obtain ⟨⟨languageKey, languageValue⟩, hlanguage, h⟩ := Except.bind_eq_ok_iff.1 h
  obtain ⟨language, hreadLanguage, h⟩ := Except.bind_eq_ok_iff.1 h
  obtain ⟨extract, hextract, h⟩ := Except.bind_eq_ok_iff.1 h
  obtain ⟨⟨extensionKey, extensionValue⟩, hextension, h⟩ := Except.bind_eq_ok_iff.1 h
  obtain ⟨extension, hreadExtension, h⟩ := Except.bind_eq_ok_iff.1 h
  cases h
  cases leaf with
  | completionDictionary =>
    rw [← readServer_eq_of_leafAt (hleaf .completionDictionary)]
    exact hdictionary
  | highlighting =>
    obtain ⟨rfl, -, hvalue⟩ := at?_of_field hhighlighting henabled (hleaf .highlighting) rfl
    rw [hvalue]
    exact hreadEnabled
  | color name =>
    exact read_color (fun name => hleaf (.color name)) hnormal hhighlighting hcolors hreadColors
      name
  | reportPattern =>
    obtain ⟨rfl, -, hvalue⟩ := at?_of_field hfiles hpattern (hleaf .reportPattern) rfl
    rw [hvalue]
    exact hreadPattern
  | languageId =>
    obtain ⟨rfl, -, hvalue⟩ := at?_of_field hfiles hlanguage (hleaf .languageId) rfl
    rw [hvalue]
    exact hreadLanguage
  | outputExtension =>
    obtain ⟨rfl, -, hvalue⟩ := at?_of_field hextract hextension (hleaf .outputExtension) rfl
    rw [hvalue]
    exact hreadExtension

end SolverInput.Config
