import SolverInput.Config.Load
import Mathlib.Data.List.Basic

/-!
# Merging, entry by entry

A value that is put over others is a list of entries: each entry gives the value at one path, and a
table is an entry of its own before the entries of its members (`Value.entries`). Seen from one
path, merging, assigning and setting keys do nothing but take over the last entry at that path, as
long as every entry above the path is a table and no entry at the path is one (`Fits`). `Sets` says
this of a step; steps that follow each other add up (`Sets.append`), so it holds of all members of a
file and of all files in their order (`sets_foldl_setMembers`).
-/

namespace SolverInput.Config

namespace Value

/-! ## Values at a path -/

/-- The value that a path of member names leads to. -/
def at? : List String → Value → Option Value
  | [], value => some value
  | name :: rest, value => (value.member? name).bind (at? rest)

/-- Tells whether a value is a table. -/
def isTable : Value → Bool
  | table _ _ => true
  | _ => false

/-- A value as far as a single leaf goes: the items of a list do not matter. -/
def outline : Value → Value
  | list _ _ => list none []
  | other => other

lemma isTable_outline (value : Value) : value.outline.isTable = value.isTable := by
  cases value <;> rfl

/-- A path leads through tables and ends before the next one; it may end early where a member is
missing. -/
def LeafAt : List String → Value → Prop
  | [], value => value.isTable = false
  | name :: rest, value =>
    value.isTable = true ∧ ∀ member, value.member? name = some member → LeafAt rest member

lemma isTable_withMember (target : Value) (name : String) (value : Value) :
    (target.withMember name value).isTable = true := by
  cases target <;> rfl

/-- What is no table has no members. -/
lemma member?_of_isTable_eq_false {target : Value} (h : target.isTable = false) (name : String) :
    target.member? name = none := by
  cases target with
  | table => cases h
  | _ => rfl

/-- What is no table is replaced by one. -/
lemma withMember_of_isTable_eq_false {target : Value} (h : target.isTable = false) (name : String)
    (value : Value) : target.withMember name value = table none [(name, value)] := by
  cases target with
  | table => cases h
  | _ => rfl

lemma lookup_cons_eq {α : Type} (name other : String) (value : α) (members : List (String × α)) :
    ((name, value) :: members).lookup other
      = if other = name then some value else members.lookup other := by
  rw [List.lookup_cons]
  by_cases h : other = name
  · rw [if_pos h, h, beq_self_eq_true]
  · rw [if_neg h, beq_false_of_ne h]

lemma lookup_setMember (name other : String) (value : Value) (members : List (String × Value)) :
    (setMember name value members).lookup other
      = if other = name then some value else members.lookup other := by
  induction members with
  | nil => exact lookup_cons_eq name other value []
  | cons member rest ih =>
    rw [setMember]
    split_ifs with hfound hother hother
    · rw [lookup_cons_eq, if_pos hother]
    · rw [lookup_cons_eq, if_neg hother, lookup_cons_eq, if_neg (by rwa [hfound])]
    · rw [lookup_cons_eq, if_neg (by rw [hother]; exact Ne.symm hfound), ih, if_pos hother]
    · rw [lookup_cons_eq, lookup_cons_eq, ih, if_neg hother]

lemma member?_withMember (target : Value) (name other : String) (value : Value) :
    (target.withMember name value).member? other
      = if other = name then some value else target.member? other := by
  cases target with
  | table origin members => exact lookup_setMember name other value members
  | _ => exact lookup_setMember name other value []

/-- Another member does not matter. -/
lemma at?_withMember_of_ne {name other : String} (h : other ≠ name) (target value : Value)
    (rest : List String) :
    at? (other :: rest) (target.withMember name value) = at? (other :: rest) target := by
  rw [at?, at?, member?_withMember, if_neg h]

lemma at?_withMember_self (target : Value) (name : String) (value : Value) (rest : List String) :
    at? (name :: rest) (target.withMember name value) = at? rest value := by
  rw [at?, member?_withMember, if_pos rfl, Option.bind_some]

/-! ## Entries -/

/-- A value at a path. -/
abbrev Setting := List String × Value

/-- Entries one level further down. -/
def under (name : String) (entries : List Setting) : List Setting :=
  entries.map fun entry => (name :: entry.1, entry.2)

mutual

/-- The entries of a value that is merged. -/
def entries : Value → List Setting
  | table _ members => ([], emptyTable) :: memberEntries members
  | other => [([], other)]

/-- The entries of members that are merged. -/
def memberEntries : List (String × Value) → List Setting
  | [] => []
  | (name, value) :: rest => under (Text.lower name) (entries value) ++ memberEntries rest

end

lemma entries_of_leaf {value : Value} (h : value.isTable = false) :
    value.entries = [([], value)] := by
  cases value with
  | table => cases h
  | _ =>
    rw [entries]
    simp

/-- The entries of a value at the end of some steps. An index makes a list of what it is applied
to. -/
def stepEntries (value : Value) : List KeyStep → List Setting
  | [] => value.entries
  | .member name :: rest => ([], emptyTable) :: under (Text.lower name) (stepEntries value rest)
  | .item _ :: _ => [([], list none [])]

/-- The entries of a top-level key of a file. -/
def keyEntries (key : String) (value : Value) : List Setting :=
  match KeyPath.parse? key with
  | some path => value.stepEntries (.member path.first :: path.rest)
  | none => value.stepEntries [.member key]

/-- The value of the last entry at a path. -/
def lastAt? (path : List String) (entries : List Setting) : Option Value :=
  (entries.filterMap fun entry => if entry.1 = path then some entry.2 else none).getLast?

/-- No entry is in the way of a path: those above it are tables, and those at it are not. -/
def Fits (path : List String) (entries : List Setting) : Prop :=
  ∀ entry ∈ entries, entry.1 <+: path → (entry.2.isTable = true ↔ entry.1 ≠ path)

section

variable {name other : String} {path rest : List String} {xs ys es : List Setting}

lemma lastAt?_append : lastAt? path (xs ++ ys) = (lastAt? path ys).or (lastAt? path xs) := by
  unfold lastAt?
  rw [List.filterMap_append, List.getLast?_append]

lemma lastAt?_under_self : lastAt? (name :: rest) (under name es) = lastAt? rest es := by
  unfold lastAt? under
  rw [List.filterMap_map]
  congr 2
  funext entry
  simp

lemma lastAt?_under_of_ne (h : other ≠ name) : lastAt? (other :: rest) (under name es) = none := by
  unfold lastAt? under
  rw [List.filterMap_map, List.getLast?_eq_none_iff, List.filterMap_eq_nil_iff]
  intro entry _
  simp [h.symm]

lemma Fits.append (h : Fits path xs) (h' : Fits path ys) : Fits path (xs ++ ys) := by
  intro entry hentry
  rcases List.mem_append.1 hentry with hentry | hentry
  · exact h entry hentry
  · exact h' entry hentry

lemma Fits.left (h : Fits path (xs ++ ys)) : Fits path xs := fun entry hentry =>
  h entry (List.mem_append_left ys hentry)

lemma Fits.right (h : Fits path (xs ++ ys)) : Fits path ys := fun entry hentry =>
  h entry (List.mem_append_right xs hentry)

lemma Fits.of_under (h : Fits (name :: rest) (under name es)) : Fits rest es := by
  intro entry hentry hprefix
  have hunder := h (name :: entry.1, entry.2) (List.mem_map_of_mem hentry)
    (List.cons_prefix_cons.2 ⟨rfl, hprefix⟩)
  simpa using hunder

end

/-! ## Steps that set entries -/

/-- Seen from any path that leads to a leaf, `after` is `before` with the last of the entries at
that path in place of what was there. -/
def Sets (entries : List Setting) (before after : Value) : Prop :=
  ∀ name rest, Fits (name :: rest) entries → LeafAt (name :: rest) before →
    LeafAt (name :: rest) after ∧
      (after.at? (name :: rest)).map outline
        = ((lastAt? (name :: rest) entries).or (before.at? (name :: rest))).map outline

lemma Sets.refl (value : Value) : Sets [] value value := fun _ _ _ hleaf => ⟨hleaf, rfl⟩

lemma Sets.append {xs ys : List Setting} {before between after : Value} (h : Sets xs before between)
    (h' : Sets ys between after) : Sets (xs ++ ys) before after := by
  intro name rest hfits hleaf
  obtain ⟨hbetween, hfirst⟩ := h name rest hfits.left hleaf
  obtain ⟨hafter, hsecond⟩ := h' name rest hfits.right hbetween
  refine ⟨hafter, ?_⟩
  rw [hsecond, lastAt?_append, Option.map_or, hfirst, Option.map_or, Option.map_or, Option.map_or,
    Option.or_assoc]

/-- The table that everything is in does not matter. -/
lemma Sets.inTable {es : List Setting} {before after : Value} (h : Sets es before after) :
    Sets (([], emptyTable) :: es) before after := by
  intro name rest hfits hleaf
  have hempty : lastAt? (name :: rest) (([], emptyTable) :: es) = lastAt? (name :: rest) es := by
    unfold lastAt?
    rw [List.filterMap_cons_none (by simp)]
  rw [hempty]
  have htail : Fits (name :: rest) es := fun entry hentry =>
    hfits entry (List.mem_cons_of_mem _ hentry)
  exact h name rest htail hleaf

/-- A member that takes over other entries leaves the rest of its table. -/
lemma sets_withMember_of {name : String} {es : List Setting} {target value : Value}
    (hself : ∀ rest, Fits rest es →
      (∀ member, target.member? name = some member → LeafAt rest member) →
      LeafAt rest value ∧ (value.at? rest).map outline
        = ((lastAt? rest es).or ((target.member? name).bind (at? rest))).map outline) :
    Sets (under name es) target (target.withMember name value) := by
  intro other rest hfits hleaf
  by_cases h : other = name
  · subst h
    obtain ⟨hvalue, heq⟩ := hself rest hfits.of_under hleaf.2
    refine ⟨⟨isTable_withMember _ _ _, ?_⟩, ?_⟩
    · intro member hmember
      rw [member?_withMember, if_pos rfl] at hmember
      cases hmember
      exact hvalue
    · rw [at?_withMember_self, lastAt?_under_self, heq]
      rfl
  · refine ⟨⟨isTable_withMember _ _ _, ?_⟩, ?_⟩
    · intro member hmember
      rw [member?_withMember, if_neg h] at hmember
      exact hleaf.2 member hmember
    · rw [at?_withMember_of_ne h, lastAt?_under_of_ne h, Option.none_or]

/-- A member that is no table is an entry. -/
lemma sets_withMember_leaf {value value' : Value} (hvalue : value.isTable = false)
    (houtline : value'.outline = value.outline) (target : Value) (name : String) :
    Sets (under name [([], value)]) target (target.withMember name value') := by
  apply sets_withMember_of
  intro rest hfits _
  have hempty : rest = [] := by
    have hentry := hfits ([], value) (by simp) List.nil_prefix
    by_contra hne
    rw [hvalue] at hentry
    exact Bool.false_ne_true (hentry.2 (Ne.symm hne))
  subst hempty
  refine ⟨?_, ?_⟩
  · show value'.isTable = false
    rw [← isTable_outline, houtline, isTable_outline, hvalue]
  · show some value'.outline = some value.outline
    rw [houtline]

/-- A member that is a table takes its own entries. -/
lemma sets_withMember_table {name : String} {es : List Setting} {target value : Value}
    (htable : ([], emptyTable) ∈ es) (h : Sets es ((target.member? name).getD emptyTable) value) :
    Sets (under name es) target (target.withMember name value) := by
  apply sets_withMember_of
  intro rest hfits hleaf
  cases rest with
  | nil =>
    -- a leaf cannot be here, as the table is an entry itself
    exact absurd rfl ((hfits _ htable List.nil_prefix).1 rfl)
  | cons next rest =>
    cases hmember : target.member? name with
    | none =>
      rw [hmember, Option.getD_none] at h
      exact h next rest hfits ⟨rfl, by intro _ hnone; cases hnone⟩
    | some member =>
      rw [hmember, Option.getD_some] at h
      exact h next rest hfits (hleaf member hmember)

mutual

lemma sets_merge (name : String) (target : Value) :
    (value : Value) → Sets (under (Text.lower name) value.entries) target (merge name target value)
  | table origin members => by
    rw [merge]
    apply sets_withMember_table
    · rw [entries]
      exact List.mem_cons_self
    · rw [entries]
      exact (sets_mergeAll _ members).inTable
  | nothing origin => sets_withMember_leaf rfl rfl target _
  | boolean origin value => sets_withMember_leaf rfl rfl target _
  | integer origin value => sets_withMember_leaf rfl rfl target _
  | float origin value => sets_withMember_leaf rfl rfl target _
  | text origin value => sets_withMember_leaf rfl rfl target _
  | list origin items => sets_withMember_leaf rfl rfl target _

lemma sets_mergeAll (target : Value) :
    (members : List (String × Value)) →
      Sets (memberEntries members) target (mergeAll target members)
  | [] => Sets.refl target
  | (name, value) :: rest => by
    rw [memberEntries, mergeAll]
    exact (sets_merge name target value).append (sets_mergeAll _ rest)

end

/-! ## Setting keys -/

/-- An index always leaves a list. -/
lemma outline_assign_item (value target : Value) (index : Int) (rest : List KeyStep) :
    (value.assign (.item index :: rest) target).outline = list none [] := by
  cases rest <;> rfl

/-- A step to a member goes into a new table, whether nothing or an empty table was there. -/
lemma assign_nothing (value : Value) (name : String) (rest : List KeyStep) :
    value.assign (.member name :: rest) (nothing none)
      = value.assign (.member name :: rest) emptyTable := by
  cases rest with
  | nil => cases value <;> rfl
  | cons step rest => rfl

lemma sets_assign (value : Value) (rest : List KeyStep) (name : String) (target : Value) :
    Sets (value.stepEntries (.member name :: rest)) target
      (value.assign (.member name :: rest) target) := by
  induction rest generalizing name target with
  | nil =>
    rw [assign]
    exact (sets_merge name target value).inTable
  | cons step rest ih =>
    rw [stepEntries]
    apply Sets.inTable
    cases step with
    | member next =>
      rw [assign]
      apply sets_withMember_table
      · rw [stepEntries]
        exact List.mem_cons_self
      · -- a member that is missing is as good as an empty table
        cases target.member? (Text.lower name) with
        | none =>
          rw [Option.getD_none, Option.getD_none, assign_nothing]
          exact ih next emptyTable
        | some member => exact ih next member
      · simp
    | item index =>
      rw [assign]
      · exact sets_withMember_leaf rfl (outline_assign_item value _ index rest) target _
      · simp

lemma sets_setKey (root : Value) (key : String) (value : Value) :
    Sets (keyEntries key value) root (root.setKey key value) := by
  unfold keyEntries setKey
  cases KeyPath.parse? key with
  | none => exact (sets_merge key root value).inTable
  | some path => exact sets_assign value path.rest path.first root

end Value

open Value

/-- The entries of a file. -/
def fileEntries (members : List (String × Value)) : List Setting :=
  members.flatMap fun member => keyEntries member.1 member.2

lemma setMembers_cons (root : Value) (member : String × Value) (rest : List (String × Value)) :
    setMembers root (member :: rest) = setMembers (root.setKey member.1 member.2) rest := rfl

lemma sets_setMembers (members : List (String × Value)) (root : Value) :
    Sets (fileEntries members) root (setMembers root members) := by
  induction members generalizing root with
  | nil => exact Sets.refl root
  | cons member rest ih =>
    unfold fileEntries
    rw [List.flatMap_cons]
    exact (sets_setKey root member.1 member.2).append (ih _)

lemma sets_foldl_setMembers (sources : List (List (String × Value))) (root : Value) :
    Sets (sources.flatMap fileEntries) root (sources.foldl setMembers root) := by
  induction sources generalizing root with
  | nil => exact Sets.refl root
  | cons members rest ih =>
    rw [List.flatMap_cons, List.foldl_cons]
    exact (sets_setMembers members root).append (ih _)

end SolverInput.Config
