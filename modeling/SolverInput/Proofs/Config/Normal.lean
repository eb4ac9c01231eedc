import SolverInput.Proofs.Config.Merge
import SolverInput.Proofs.Text.LetterCase

/-!
# Merged values

What is merged has each name once and in small letters (`Normal`), so a name is found in one place
only. The entries of such a value therefore give back what it has at each leaf
(`Normal.gives_entries`), and merging it once more would change nothing that a leaf can see.
-/

namespace SolverInput.Config

namespace Value

/-! ## Names in merged values -/

/-- A value as merging leaves it: a table has every name once, in small letters, and no origin. -/
inductive Normal : Value → Prop
  | leaf {value : Value} (h : value.isTable = false) : Normal value
  | table {members : List (String × Value)} (names : (members.map Prod.fst).Nodup)
      (small : ∀ member ∈ members, Text.lower member.1 = member.1)
      (values : ∀ member ∈ members, Normal member.2) : Normal (table none members)

lemma normal_emptyTable : Normal emptyTable := by
  apply Normal.table
  · exact List.nodup_nil
  · simp
  · simp

lemma mem_of_mem_setMember {name : String} {value : Value} {members : List (String × Value)}
    {member : String × Value} (h : member ∈ setMember name value members) :
    member = (name, value) ∨ member ∈ members := by
  induction members with
  | nil => exact Or.inl (List.mem_singleton.1 h)
  | cons first rest ih =>
    rw [setMember] at h
    split_ifs at h with hfound
    · rcases List.mem_cons.1 h with h | h
      · exact Or.inl h
      · exact Or.inr (List.mem_cons_of_mem _ h)
    · rcases List.mem_cons.1 h with h | h
      · exact Or.inr (h ▸ List.mem_cons_self)
      · rcases ih h with h | h
        · exact Or.inl h
        · exact Or.inr (List.mem_cons_of_mem _ h)

lemma nodup_setMember (name : String) (value : Value) {members : List (String × Value)}
    (h : (members.map Prod.fst).Nodup) : ((setMember name value members).map Prod.fst).Nodup := by
  induction members with
  | nil => simp [setMember]
  | cons first rest ih =>
    rw [List.map_cons, List.nodup_cons] at h
    rw [setMember]
    split_ifs with hfound
    · rw [List.map_cons, List.nodup_cons, ← hfound]
      exact h
    · rw [List.map_cons, List.nodup_cons]
      refine ⟨?_, ih h.2⟩
      intro hmem
      obtain ⟨member, hmember, heq⟩ := List.mem_map.1 hmem
      rcases mem_of_mem_setMember hmember with rfl | hold
      · exact hfound heq.symm
      · exact h.1 (heq ▸ List.mem_map_of_mem hold)

lemma mem_of_lookup {α : Type} {name : String} {value : α} {members : List (String × α)}
    (h : members.lookup name = some value) : (name, value) ∈ members := by
  induction members with
  | nil => cases h
  | cons first rest ih =>
    rw [lookup_cons_eq] at h
    split_ifs at h with hfound
    · cases h
      rw [hfound]
      exact List.mem_cons_self
    · exact List.mem_cons_of_mem _ (ih h)

lemma lookup_of_mem {α : Type} {name : String} {value : α} {members : List (String × α)}
    (hnames : (members.map Prod.fst).Nodup) (h : (name, value) ∈ members) :
    members.lookup name = some value := by
  induction members with
  | nil => cases h
  | cons first rest ih =>
    rw [List.map_cons, List.nodup_cons] at hnames
    rw [lookup_cons_eq]
    rcases List.mem_cons.1 h with h | h
    · rw [← h, if_pos rfl]
    · have hne : name ≠ first.1 := by
        rintro rfl
        exact hnames.1 (List.mem_map.2 ⟨_, h, rfl⟩)
      rw [if_neg hne, ih hnames.2 h]

lemma Normal.member? {target member : Value} {name : String} (h : Normal target)
    (hmember : target.member? name = some member) : Normal member := by
  cases h with
  | leaf hleaf =>
    rw [member?_of_isTable_eq_false hleaf] at hmember
    cases hmember
  | table names small values => exact values _ (mem_of_lookup hmember)

lemma Normal.withMember {target value : Value} {name : String} (h : Normal target)
    (hvalue : Normal value) (hname : Text.lower name = name) :
    Normal (target.withMember name value) := by
  cases h with
  | leaf hleaf =>
    rw [withMember_of_isTable_eq_false hleaf]
    apply Normal.table
    · simp
    · simpa using hname
    · simpa using hvalue
  | table names small values =>
    apply Normal.table (nodup_setMember name value names)
    · intro member hmember
      rcases mem_of_mem_setMember hmember with rfl | hold
      · exact hname
      · exact small member hold
    · intro member hmember
      rcases mem_of_mem_setMember hmember with rfl | hold
      · exact hvalue
      · exact values member hold

mutual

lemma normal_merge (name : String) {target : Value} (h : Normal target) :
    (value : Value) → Normal (merge name target value)
  | table origin members => by
    rw [merge]
    refine h.withMember (normal_mergeAll ?_ members) (Text.lower_lower name)
    cases hmember : target.member? (Text.lower name) with
    | none => exact normal_emptyTable
    | some member => exact h.member? hmember
  | nothing origin => h.withMember (.leaf rfl) (Text.lower_lower name)
  | boolean origin value => h.withMember (.leaf rfl) (Text.lower_lower name)
  | integer origin value => h.withMember (.leaf rfl) (Text.lower_lower name)
  | float origin value => h.withMember (.leaf rfl) (Text.lower_lower name)
  | text origin value => h.withMember (.leaf rfl) (Text.lower_lower name)
  | list origin items => h.withMember (.leaf rfl) (Text.lower_lower name)

lemma normal_mergeAll {target : Value} (h : Normal target) :
    (members : List (String × Value)) → Normal (mergeAll target members)
  | [] => h
  | (name, value) :: rest => by
    rw [mergeAll]
    exact normal_mergeAll (normal_merge name h value) rest

end

lemma normal_assign (value : Value) (rest : List KeyStep) (name : String) {target : Value}
    (h : Normal target) : Normal (value.assign (.member name :: rest) target) := by
  induction rest generalizing name target with
  | nil =>
    rw [assign]
    exact normal_merge name h value
  | cons step rest ih =>
    rw [assign]
    · apply h.withMember _ (Text.lower_lower name)
      cases step with
      | member next =>
        apply ih
        cases hmember : target.member? (Text.lower name) with
        | none => exact .leaf rfl
        | some member => exact h.member? hmember
      | item index =>
        apply Normal.leaf
        rw [← isTable_outline, outline_assign_item]
        rfl
    · simp

/-! ## The entries of merged values -/

/-- Seen from a path, entries have nothing in the way and this value last. -/
structure Gives (path : List String) (es : List Setting) (value : Option Value) : Prop where
  fits : Fits path es
  last : lastAt? path es = value

section

variable {name other : String} {path rest : List String} {xs ys es : List Setting}
  {value value' : Option Value}

lemma Gives.append (h : Gives path xs value) (h' : Gives path ys value') :
    Gives path (xs ++ ys) (value'.or value) := by
  refine ⟨h.fits.append h'.fits, ?_⟩
  rw [lastAt?_append, h.last, h'.last]

lemma Gives.inTable (h : Gives (name :: rest) es value) :
    Gives (name :: rest) (([], emptyTable) :: es) value := by
  have htable : Gives (name :: rest) [([], emptyTable)] none := by
    refine ⟨?_, rfl⟩
    intro entry hentry _
    rw [List.mem_singleton.1 hentry]
    simp [emptyTable, isTable]
  simpa using htable.append h

lemma Gives.under (h : Gives rest es value) : Gives (name :: rest) (under name es) value := by
  refine ⟨?_, lastAt?_under_self.trans h.last⟩
  intro entry hentry hprefix
  obtain ⟨inner, hinner, rfl⟩ := List.mem_map.1 hentry
  have hfits := h.fits inner hinner (List.cons_prefix_cons.1 hprefix).2
  simpa using hfits

lemma gives_under_of_ne (h : other ≠ name) : Gives (other :: rest) (under name es) none := by
  refine ⟨?_, lastAt?_under_of_ne h⟩
  intro entry hentry hprefix
  obtain ⟨inner, -, rfl⟩ := List.mem_map.1 hentry
  exact absurd (List.cons_prefix_cons.1 hprefix).1.symm h

end

lemma lookup_of_not_mem {name : String} {members : List (String × Value)}
    (h : name ∉ members.map Prod.fst) : members.lookup name = none := by
  rw [List.lookup_eq_none_iff]
  intro member hmember
  rw [bne_iff_ne]
  rintro rfl
  exact h (List.mem_map_of_mem hmember)

/-- If each member gives what it has at a path that starts with its name, all of them give what the
table has there. -/
lemma gives_flatMap {name : String} {rest : List String} {members : List (String × Value)}
    {f : String × Value → List Setting} (names : (members.map Prod.fst).Nodup)
    (h : ∀ member ∈ members,
      Gives (name :: rest) (f member) (if name = member.1 then member.2.at? rest else none)) :
    Gives (name :: rest) (members.flatMap f) ((members.lookup name).bind (at? rest)) := by
  induction members with
  | nil => exact ⟨fun _ hentry => absurd hentry List.not_mem_nil, rfl⟩
  | cons member more ih =>
    rw [List.map_cons, List.nodup_cons] at names
    have hmember := h member List.mem_cons_self
    have hmore := ih names.2 fun other hother => h other (List.mem_cons_of_mem _ hother)
    have hboth := hmember.append hmore
    rw [List.flatMap_cons, lookup_cons_eq]
    split_ifs at hboth ⊢ with hname
    · rw [hname, lookup_of_not_mem names.1] at hboth
      rw [hname]
      exact hboth
    · rwa [Option.or_none] at hboth

lemma memberEntries_eq_flatMap (members : List (String × Value)) :
    memberEntries members
      = members.flatMap fun member => under (Text.lower member.1) member.2.entries := by
  induction members with
  | nil => rfl
  | cons member rest ih => rw [memberEntries, ih, List.flatMap_cons]

/-- The entries of a merged value give what it has at a leaf. -/
lemma Normal.gives_entries {value : Value} (h : Normal value) {path : List String}
    (hleaf : LeafAt path value) : Gives path value.entries (value.at? path) := by
  induction h generalizing path with
  | @leaf value hvalue =>
    cases path with
    | nil =>
      rw [entries_of_leaf hvalue]
      refine ⟨?_, rfl⟩
      intro entry hentry _
      rw [List.mem_singleton.1 hentry]
      simpa using hvalue
    | cons name rest =>
      rw [hleaf.1] at hvalue
      cases hvalue
  | @table members names small values ih =>
    cases path with
    | nil => cases hleaf
    | cons name rest =>
      rw [entries, memberEntries_eq_flatMap]
      apply Gives.inTable
      -- names are different, so the entries of one member at most start with this name
      apply gives_flatMap names
      intro member hmember
      rw [small member hmember]
      split_ifs with hname
      · rw [hname]
        apply (ih member hmember _).under
        apply hleaf.2
        rw [hname]
        exact lookup_of_mem names hmember
      · exact gives_under_of_ne hname

end Value

end SolverInput.Config
