import SolverInput.Proofs.Config.KeyCase
import SolverInput.Proofs.Config.Normal

/-!
# Merged files

Files are set one over the other, and the members of what they are merged into are set once more.
As long as that does not undo the order of the files (`MergesInOrder`), the files are, seen from a
leaf, the last entry of all of them (`at?_mergeSources`).

The second time a member is found under its name, unless that name reads as a path. The names of
merged values are names of members or whole keys, in small letters. The first are paths to
themselves only (`parse?_lower_first`), and the second are no paths, unless a KELVIN SIGN has made
them one. So files without that sign are merged in order (`mergesInOrder_of_no_kelvinSign`).
-/

namespace SolverInput.Config

open Value

/-- A top-level name that leads to the member of that name. -/
def IsPlain (name : String) : Prop :=
  KeyPath.parse? name = none ∨ KeyPath.parse? name = some ⟨name, []⟩

lemma keyEntries_of_isPlain {key : String} (h : IsPlain key) (value : Value) :
    keyEntries key value = ([], emptyTable) :: under (Text.lower key) value.entries := by
  unfold keyEntries
  rcases h with h | h
  · rw [h]
    rfl
  · rw [h]
    rfl

/-! ## The merged files -/

/-- What files are merged into: a merged table whose names are plain. -/
structure IsMerged (root : Value) : Prop where
  table : root.isTable = true
  normal : root.Normal
  names : ∀ name, root.member? name ≠ none → IsPlain name

section

variable {rest : List String} {name : String} {root : Value}

lemma exists_merge_eq (name : String) (target value : Value) :
    ∃ member, merge name target value = target.withMember (Text.lower name) member := by
  cases value with
  | table origin members => exact ⟨_, by rw [merge]⟩
  | _ => exact ⟨_, by rw [merge]; simp⟩

lemma exists_assign_eq (value : Value) (rest : List KeyStep) (name : String) (target : Value) :
    ∃ member, value.assign (.member name :: rest) target
      = target.withMember (Text.lower name) member := by
  cases rest with
  | nil => exact exists_merge_eq name target value
  | cons step rest => exact ⟨_, by rw [assign]; simp⟩

/-- A key of a file puts one member into the table. -/
lemma exists_setKey_eq {key : String} (hkey : Text.kelvinSign ∉ key.toList) (root value : Value) :
    ∃ name member, IsPlain name ∧ root.setKey key value = root.withMember name member := by
  unfold setKey
  cases hparse : KeyPath.parse? key with
  | none =>
    obtain ⟨member, hmember⟩ := exists_merge_eq key root value
    exact ⟨Text.lower key, member, Or.inl (KeyPath.parse?_lower_eq_none hkey hparse), hmember⟩
  | some keyPath =>
    obtain ⟨member, hmember⟩ := exists_assign_eq value keyPath.rest keyPath.first root
    exact ⟨Text.lower keyPath.first, member, Or.inr (KeyPath.parse?_lower_first hparse), hmember⟩

lemma normal_setKey (h : root.Normal) (key : String) (value : Value) :
    (root.setKey key value).Normal := by
  unfold setKey
  cases KeyPath.parse? key with
  | none => exact normal_merge key h value
  | some keyPath => exact normal_assign value keyPath.rest keyPath.first h

lemma normal_setMembers (h : root.Normal) (members : List (String × Value)) :
    (setMembers root members).Normal := by
  induction members generalizing root with
  | nil => exact h
  | cons member rest ih => exact ih (normal_setKey h member.1 member.2)

lemma IsMerged.setKey (h : IsMerged root) {key : String}
    (hkey : Text.kelvinSign ∉ key.toList) (value : Value) : IsMerged (root.setKey key value) := by
  obtain ⟨name, member, hname, heq⟩ := exists_setKey_eq hkey root value
  refine ⟨?_, normal_setKey h.normal key value, ?_⟩
  · rw [heq]
    exact isTable_withMember root name member
  · intro other hother
    rw [heq, member?_withMember] at hother
    split_ifs at hother with hsame
    · rw [hsame]
      exact hname
    · exact h.names other hother

lemma IsMerged.setMembers {members : List (String × Value)} (h : IsMerged root)
    (hkeys : ∀ member ∈ members, Text.kelvinSign ∉ member.1.toList) :
    IsMerged (setMembers root members) := by
  induction members generalizing root with
  | nil => exact h
  | cons member rest ih =>
    rw [setMembers_cons]
    exact ih (h.setKey (hkeys member List.mem_cons_self) member.2)
      fun other hother => hkeys other (List.mem_cons_of_mem _ hother)

lemma IsMerged.foldl {sources : List (List (String × Value))} (h : IsMerged root)
    (hkeys : ∀ members ∈ sources, ∀ member ∈ members, Text.kelvinSign ∉ member.1.toList) :
    IsMerged (sources.foldl Config.setMembers root) := by
  induction sources generalizing root with
  | nil => exact h
  | cons members rest ih =>
    rw [List.foldl_cons]
    exact ih (h.setMembers (hkeys members List.mem_cons_self))
      fun other hother => hkeys other (List.mem_cons_of_mem _ hother)

lemma isMerged_emptyTable : IsMerged emptyTable :=
  ⟨rfl, normal_emptyTable, fun _ hmember => absurd rfl hmember⟩

/-- The entries of merged members, set as those of a file, give what the table has at a leaf. -/
lemma IsMerged.gives_fileEntries {origin : Option String} {members : List (String × Value)}
    (h : IsMerged (.table origin members)) (hleaf : LeafAt (name :: rest) (.table origin members)) :
    Gives (name :: rest) (fileEntries members)
      ((Value.table origin members).at? (name :: rest)) := by
  cases h.normal with
  | leaf htable => cases htable
  | table names small values =>
    apply gives_flatMap names
    intro member hmember
    have hlookup := lookup_of_mem names hmember
    have hplain := h.names member.1 (by rw [Value.member?, hlookup]; simp)
    rw [keyEntries_of_isPlain hplain, small member hmember]
    apply Gives.inTable
    split_ifs with hsame
    · subst hsame
      exact ((values member hmember).gives_entries (hleaf.2 member.2 hlookup)).under
    · exact gives_under_of_ne hsame

/-! ## The order of files -/

/-- Seen from a path that leads to a leaf, sources are merged in order, each of them set over those
before it. This is what merging is meant to do, and an assumption on sources: a key that becomes a
path only in small letters, such as `highlighting.colors.subkey1` with a KELVIN SIGN for its `k`, is
a whole key first and is followed when the merged members are set once more, so it can win over a
file that comes later. -/
def MergesInOrder (path : List String) (sources : List (List (String × Value))) : Prop :=
  let inOrder := sources.foldl setMembers emptyTable
  LeafAt path inOrder → LeafAt path (mergeSources sources) ∧
    ((mergeSources sources).at? path).map outline = (inOrder.at? path).map outline

/-- Files are merged in order if there is no KELVIN SIGN in any of their keys. -/
lemma mergesInOrder_of_no_kelvinSign {sources : List (List (String × Value))}
    (hkeys : ∀ members ∈ sources, ∀ member ∈ members, Text.kelvinSign ∉ member.1.toList) :
    MergesInOrder (name :: rest) sources := by
  intro hleaf
  have hempty : LeafAt (name :: rest) emptyTable := ⟨rfl, fun _ hnone => by cases hnone⟩
  have hnone : emptyTable.at? (name :: rest) = none := rfl
  have hmerged := isMerged_emptyTable.foldl hkeys
  unfold mergeSources
  cases hroot : sources.foldl setMembers emptyTable with
  | table origin members =>
    rw [hroot] at hmerged hleaf
    -- the members are set a second time, as if they were those of a file
    have hgives := hmerged.gives_fileEntries hleaf
    obtain ⟨hagain, hsecond⟩ := sets_setMembers members emptyTable name rest hgives.fits hempty
    rw [hnone, Option.or_none, hgives.last] at hsecond
    exact ⟨hagain, hsecond⟩
  | _ =>
    have htable := hmerged.table
    rw [hroot] at htable
    cases htable

/-- With a KELVIN SIGN for the `k` of its key, the second of these sources wins over the third. -/
example :
    let sources : List (List (String × Value)) :=
      [[("a", emptyTable)], [("a.\u212A", .text none "second")],
       [("a", textTable [("k", "third")])]]
    let isText (expected : String) : Value → Bool
      | .text _ value => value == expected
      | _ => false
    ((sources.foldl setMembers emptyTable).at? ["a", "k"]).any (isText "third") ∧
      ((mergeSources sources).at? ["a", "k"]).any (isText "second") := by
  decide +kernel

/-- Seen from a leaf, files that are merged in order are the last entry of all of them. -/
lemma at?_mergeSources {sources : List (List (String × Value))}
    (horder : MergesInOrder (name :: rest) sources)
    (hfits : Fits (name :: rest) (sources.flatMap fileEntries)) :
    LeafAt (name :: rest) (mergeSources sources) ∧
      ((mergeSources sources).at? (name :: rest)).map outline
        = (lastAt? (name :: rest) (sources.flatMap fileEntries)).map outline := by
  have hempty : LeafAt (name :: rest) emptyTable := ⟨rfl, fun _ hnone => by cases hnone⟩
  have hnone : emptyTable.at? (name :: rest) = none := rfl
  -- the files are set one over the other
  obtain ⟨hleaf, hfirst⟩ := sets_foldl_setMembers sources emptyTable name rest hfits hempty
  rw [hnone, Option.or_none] at hfirst
  obtain ⟨hmerged, hsame⟩ := horder hleaf
  exact ⟨hmerged, hsame.trans hfirst⟩

lemma normal_mergeSources (sources : List (List (String × Value))) :
    (mergeSources sources).Normal := by
  have hfold : ∀ {root : Value}, root.Normal → (sources.foldl setMembers root).Normal := by
    induction sources with
    | nil => exact id
    | cons members rest ih => exact fun h => ih (normal_setMembers h members)
  unfold mergeSources
  split
  · exact normal_setMembers normal_emptyTable _
  · exact hfold normal_emptyTable

end

end SolverInput.Config
