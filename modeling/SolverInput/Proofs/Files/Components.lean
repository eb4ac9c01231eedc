import Mathlib.Logic.Relation
import SolverInput.Proofs.Files.Path

/-!
# Paths by their components

The operations on paths act on the text, and the components forget most of it: void pieces, and
with them repeated slashes, inner dots and what stands at the end of a path behind its last name.
Here every operation is said by its components alone:

* the parent drops the last component (`parent?_cases`);
* the file name is the last component, if that is a name (`fileName?_eq_some_iff`);
* joining puts one name at the end (`components_join`);
* another extension renames the last component (`components_withExtension`).

The last one is not plain. The old extension is cut off the end of the text by its length, and the
text may go on behind the name, so that some slashes are cut off in the place of the extension, or
only a part of the extension is (`exists_cut`). Setting the new extension repairs both, unless
what is left is a `..`.
-/

namespace SolverInput.Path

variable {lead name : Text} {back before : List Text}

/-! ## Components of pieces -/

lemma isVoid_iff {piece : Text} : isVoid piece = true ↔ piece = [] ∨ piece = ['.'] := by
  rw [isVoid, Bool.or_eq_true, List.isEmpty_iff, beq_iff_eq]

lemma slash_not_mem_of_isVoid {piece : Text} (h : isVoid piece = true) : '/' ∉ piece := by
  rcases isVoid_iff.1 h with rfl | rfl
  · exact List.not_mem_nil
  · decide

/-- The components of pieces. -/
def steps (pieces : List Text) : List Component :=
  (pieces.filter (!isVoid ·)).map .ofPiece

/-- The component of a lead. -/
def leadSteps (lead : Text) : List Component :=
  if lead = ['/'] then [.root] else if lead = ['.'] then [.here] else []

lemma steps_append (front rest : List Text) : steps (front ++ rest) = steps front ++ steps rest := by
  simp [steps]

lemma steps_cons_of_void {piece : Text} (h : isVoid piece = true) (rest : List Text) :
    steps (piece :: rest) = steps rest := by
  simp [steps, h]

lemma steps_singleton {piece : Text} (h : isVoid piece = false) :
    steps [piece] = [.ofPiece piece] := by
  simp [steps, h]

/-- Void pieces at the end have no components. -/
lemma steps_reverse_dropWhile (back : List Text) :
    steps (back.dropWhile isVoid).reverse = steps back.reverse := by
  induction back with
  | nil => rfl
  | cons piece back ih =>
    by_cases hvoid : isVoid piece = true
    · rw [List.dropWhile_cons_of_pos hvoid, ih, List.reverse_cons, steps_append,
        steps_cons_of_void hvoid]
      simp [steps]
    · rw [List.dropWhile_cons_of_neg hvoid]

/-- The components of a path are those of its lead and of its pieces, up to the last one that is not
void. -/
lemma components_eq (path : Path) :
    path.components = leadSteps (splitLead path.text.toList).1
      ++ steps (backPieces (splitLead path.text.toList).2).reverse := by
  unfold backPieces
  rw [steps_reverse_dropWhile, List.reverse_reverse]
  rfl

lemma components_ofBackPieces (h : IsSpelling lead back) :
    (ofBackPieces lead back).components = leadSteps lead ++ steps back.reverse := by
  rw [components_eq, splitLead_ofBackPieces h]
  dsimp only
  rw [backPieces_intercalate h, steps_reverse_dropWhile]

/-- A lead that is left without pieces has its own component. -/
lemma components_of_suffix {rest : List Text} (h : IsSpelling lead back) (hrest : rest <:+ back) :
    (ofBackPieces lead rest).components = leadSteps lead ++ steps rest.reverse := by
  by_cases hnil : rest = []
  · obtain ⟨first, -, hfits⟩ := h.lead_fits
    subst hnil
    rcases hfits with rfl | ⟨rfl, -⟩ | ⟨rfl, -, -⟩
    · rfl
    · rfl
    · rfl
  · exact components_ofBackPieces (h.of_suffix hrest hnil)

/-- Void pieces at the end can be left out. -/
lemma IsSpelling.of_dropWhile (h : IsSpelling lead back)
    (hback : back.dropWhile isVoid = name :: before) : IsSpelling lead (name :: before) :=
  h.of_suffix (hback ▸ List.dropWhile_suffix isVoid) (List.cons_ne_nil name before)

/-- The last piece that is not void is the last component, and the parent has the others. -/
lemma components_of_dropWhile (h : IsSpelling lead back)
    (hback : back.dropWhile isVoid = name :: before) :
    (ofBackPieces lead back).components
      = (ofBackPieces lead (before.dropWhile isVoid)).components ++ [.ofPiece name] := by
  have hsuffix : before.dropWhile isVoid <:+ name :: before :=
    (List.dropWhile_suffix isVoid).trans (List.suffix_cons name before)
  rw [components_ofBackPieces h, ← steps_reverse_dropWhile, hback, List.reverse_cons, steps_append,
    steps_singleton (isVoid_of_dropWhile hback),
    components_of_suffix (h.of_dropWhile hback) hsuffix, steps_reverse_dropWhile,
    List.append_assoc]

/-! ## Parents and names -/

/-- A path is only a lead, or it has a last piece that is not void. -/
lemma backPieces_cases (path : Path) :
    backPieces (splitLead path.text.toList).2 = [] ∨
      ∃ lead back name before, path = ofBackPieces lead back ∧ IsSpelling lead back ∧
        back.dropWhile isVoid = name :: before := by
  by_cases hempty : path.text = ""
  · rw [hempty]
    exact Or.inl rfl
  · obtain ⟨lead, back, hspelling, rfl⟩ := exists_isSpelling hempty
    rw [splitLead_ofBackPieces hspelling]
    dsimp only
    rw [backPieces_intercalate hspelling]
    rcases hback : back.dropWhile isVoid with - | ⟨name, before⟩
    · exact Or.inl rfl
    · exact Or.inr ⟨lead, back, name, before, rfl, hspelling, hback⟩

/-- The components of a path that is only a lead. -/
lemma components_of_lead {path : Path} (h : backPieces (splitLead path.text.toList).2 = []) :
    path.components = leadSteps (splitLead path.text.toList).1 := by
  rw [components_eq, h]
  exact List.append_nil _

/-- Every path but the empty one and the root has a parent, with all components but the last. -/
lemma parent?_cases (path : Path) :
    path.parent? = none ∧ (path.components = [] ∨ path.components = [.root]) ∨
      ∃ directory last, path.parent? = some directory ∧
        path.components = directory.components ++ [last] := by
  rcases backPieces_cases path with hlead | ⟨lead, back, name, before, rfl, hspelling, hback⟩
  · have hparent : path.parent?
        = if (splitLead path.text.toList).1 = ['.'] then some ⟨""⟩ else none := by
      unfold parent?
      dsimp only
      rw [hlead]
    rw [hparent, components_of_lead hlead]
    unfold leadSteps
    by_cases hroot : (splitLead path.text.toList).1 = ['/']
    · rw [hroot]
      exact Or.inl ⟨rfl, Or.inr rfl⟩
    · by_cases hhere : (splitLead path.text.toList).1 = ['.']
      · rw [hhere]
        exact Or.inr ⟨⟨""⟩, .here, rfl, rfl⟩
      · rw [if_neg hroot, if_neg hhere, if_neg hhere]
        exact Or.inl ⟨rfl, Or.inl rfl⟩
  · exact Or.inr ⟨_, .ofPiece name, parent?_of_dropWhile hspelling hback,
      components_of_dropWhile hspelling hback⟩

lemma fileName?_eq_some_iff {path : Path} :
    path.fileName? = some name ↔ path.components.getLast? = some (.name name) := by
  rcases backPieces_cases path with hlead | ⟨lead, back, piece, before, rfl, hspelling, hback⟩
  · have hcomponents := components_of_lead hlead
    unfold fileName?
    rw [hlead, hcomponents]
    unfold leadSteps
    split_ifs
    · simp
    · simp
    · simp
  · rw [fileName?_of_dropWhile hspelling hback, components_of_dropWhile hspelling hback,
      List.getLast?_concat]
    unfold Component.ofPiece
    by_cases hup : piece = ['.', '.']
    · simp [hup]
    · simp [hup]

/-- A path that ends in a name has a parent. -/
lemma exists_parent?_of_fileName? {path : Path} (h : path.fileName? = some name) :
    ∃ directory, path.parent? = some directory ∧
      path.components = directory.components ++ [.name name] := by
  rw [fileName?_eq_some_iff] at h
  rcases parent?_cases path with ⟨-, hnil | hroot⟩ | ⟨directory, last, hparent, hconcat⟩
  · rw [hnil] at h
    cases h
  · rw [hroot] at h
    cases h
  · rw [hconcat, List.getLast?_concat, Option.some.injEq] at h
    exact ⟨directory, hparent, h ▸ hconcat⟩

/-- A file name is the last piece that is not void. -/
lemma exists_isSpelling_of_fileName? {path : Path} (h : path.fileName? = some name) :
    ∃ lead back before, path = ofBackPieces lead back ∧ IsSpelling lead back ∧
      back.dropWhile isVoid = name :: before := by
  rcases backPieces_cases path with hlead | ⟨lead, back, piece, before, rfl, hspelling, hback⟩
  · unfold fileName? at h
    rw [hlead] at h
    cases h
  · rw [fileName?_of_dropWhile hspelling hback] at h
    split_ifs at h
    cases h
    exact ⟨lead, back, before, rfl, hspelling, hback⟩

lemma isPiece_of_fileName? {path : Path} (h : path.fileName? = some name) :
    '/' ∉ name ∧ isVoid name = false := by
  obtain ⟨lead, back, before, -, hspelling, hback⟩ := exists_isSpelling_of_fileName? h
  exact ⟨(hspelling.of_dropWhile hback).no_slash name List.mem_cons_self,
    isVoid_of_dropWhile hback⟩

/-- Without a file name, a path is empty, a root, a `.`, or it ends in a step to the parent. -/
lemma components_of_no_fileName {path : Path} (h : path.fileName? = none) :
    path.components = [] ∨ path.components = [.root] ∨ path.components = [.here] ∨
      path.components.getLast? = some .up := by
  rcases backPieces_cases path with hlead | ⟨lead, back, piece, before, rfl, hspelling, hback⟩
  · rw [components_of_lead hlead]
    unfold leadSteps
    split_ifs
    · exact Or.inr (Or.inl rfl)
    · exact Or.inr (Or.inr (Or.inl rfl))
    · exact Or.inl rfl
  · rw [fileName?_of_dropWhile hspelling hback] at h
    split_ifs at h with hup
    rw [components_of_dropWhile hspelling hback, List.getLast?_concat, hup]
    exact Or.inr (Or.inr (Or.inr rfl))

lemma components_eq_nil_iff {path : Path} : path.components = [] ↔ path.text = "" := by
  constructor
  · intro h
    by_contra hne
    obtain ⟨lead, back, hspelling, rfl⟩ := exists_isSpelling hne
    obtain ⟨first, hfirst, hfits⟩ := hspelling.lead_fits
    rw [components_ofBackPieces hspelling, List.append_eq_nil_iff] at h
    rcases hfits with rfl | ⟨rfl, -⟩ | ⟨-, hempty, hhere⟩
    · cases h.1
    · cases h.1
    · -- the first piece is not void
      have hvoid : isVoid first = false := by simp [isVoid, hempty, hhere]
      have hmem : first ∈ back.reverse := List.mem_reverse.2 (List.mem_of_getLast? hfirst)
      rw [steps, List.map_eq_nil_iff, List.filter_eq_nil_iff] at h
      simpa [hvoid] using h.2 first hmem
  · intro h
    rw [components_eq, h]
    rfl

/-! ## What follows a slash -/

lemma IsSpelling.append {front : List Text} (h : IsSpelling lead back)
    (hfront : ∀ piece ∈ front, '/' ∉ piece) : IsSpelling lead (front ++ back) := by
  induction front with
  | nil => exact h
  | cons piece front ih =>
    rw [List.forall_mem_cons] at hfront
    exact (ih hfront.2).cons hfront.1

/-- One more piece is written behind a slash. -/
lemma toList_ofBackPieces_cons_of_ne_nil {rest : List Text} (hrest : rest ≠ []) (lead piece : Text) :
    (ofBackPieces lead (piece :: rest)).text.toList
      = (ofBackPieces lead rest).text.toList ++ '/' :: piece := by
  obtain ⟨last, rest, rfl⟩ := List.exists_cons_of_ne_nil hrest
  rw [toList_ofBackPieces_cons, toList_ofBackPieces_cons]
  simp

/-- A text behind a slash is more pieces. -/
lemma toList_ofBackPieces_append (hback : back ≠ []) (lead rest : Text) :
    (ofBackPieces lead ((rest.splitOn '/').reverse ++ back)).text.toList
      = (ofBackPieces lead back).text.toList ++ '/' :: rest := by
  induction rest using Text.byPieces '/' generalizing back with
  | last piece hpiece =>
    rw [List.splitOn_eq_singleton hpiece]
    exact toList_ofBackPieces_cons_of_ne_nil hback lead piece
  | piece piece rest hpiece ih =>
    rw [List.splitOn_append_cons_self_of_not_mem hpiece, List.reverse_cons, List.append_assoc,
      List.singleton_append, ih (List.cons_ne_nil piece back),
      toList_ofBackPieces_cons_of_ne_nil hback, List.append_assoc, List.cons_append]

/-- The components of a path that is written as this text. -/
def textComponents (t : Text) : List Component :=
  (mk (String.ofList t)).components

lemma components_eq_textComponents (path : Path) :
    path.components = textComponents path.text.toList := by
  rw [textComponents, String.ofList_toList]

/-- What stands before a slash has the same components whatever follows, and what follows adds the
components of its pieces. -/
lemma exists_textComponents_append (front : Text) :
    ∃ first, (front ≠ [] → textComponents front = first) ∧
      ∀ rest, textComponents (front ++ '/' :: rest) = first ++ steps (rest.splitOn '/') := by
  by_cases hfront : front = []
  · refine ⟨[.root], absurd hfront, fun rest => ?_⟩
    rw [hfront, List.nil_append, textComponents, components, String.toList_ofList]
    rfl
  · have hne : (mk (String.ofList front)).text ≠ "" := by simpa using hfront
    obtain ⟨lead, back, hspelling, hpath⟩ := exists_isSpelling hne
    refine ⟨leadSteps lead ++ steps back.reverse, fun _ => ?_, fun rest => ?_⟩
    · rw [textComponents, hpath, components_ofBackPieces hspelling]
    · have hmore : IsSpelling lead ((rest.splitOn '/').reverse ++ back) :=
        hspelling.append fun piece hpiece =>
          Text.not_mem_of_mem_splitOn (List.mem_reverse.1 hpiece)
      have htext : mk (String.ofList (front ++ '/' :: rest))
          = ofBackPieces lead ((rest.splitOn '/').reverse ++ back) := by
        apply ext
        rw [toList_ofBackPieces_append hspelling.ne_nil, ← hpath]
        simp
      rw [textComponents, htext, components_ofBackPieces hmore, List.reverse_append,
        List.reverse_reverse, steps_append, List.append_assoc]

/-! ## Respelling -/

/-- One way to write a path at greater length: a slash is doubled, a `.` is put behind a slash, or a
slash is put at the end. -/
inductive Respelled : Text → Text → Prop
  | slash (front rest : Text) : Respelled (front ++ '/' :: rest) (front ++ '/' :: '/' :: rest)
  | here (front rest : Text) : Respelled (front ++ '/' :: rest) (front ++ '/' :: '.' :: '/' :: rest)
  | lastHere (front : Text) : Respelled (front ++ ['/']) (front ++ ['/', '.'])
  | lastSlash (front : Text) (h : front ≠ []) : Respelled front (front ++ ['/'])

lemma steps_splitOn_of_void (piece rest : Text) (h : isVoid piece = true) :
    steps ((piece ++ '/' :: rest).splitOn '/') = steps (rest.splitOn '/') := by
  rw [List.splitOn_append_cons_self_of_not_mem (slash_not_mem_of_isVoid h), steps_cons_of_void h]

lemma Respelled.textComponents_eq {t u : Text} (h : Respelled t u) :
    textComponents t = textComponents u := by
  cases h with
  | slash front rest =>
    obtain ⟨first, -, hfirst⟩ := exists_textComponents_append front
    rw [hfirst, hfirst]
    exact congrArg (first ++ ·) (steps_splitOn_of_void [] rest rfl).symm
  | here front rest =>
    obtain ⟨first, -, hfirst⟩ := exists_textComponents_append front
    rw [hfirst, hfirst]
    exact congrArg (first ++ ·) (steps_splitOn_of_void ['.'] rest rfl).symm
  | lastHere front =>
    obtain ⟨first, -, hfirst⟩ := exists_textComponents_append front
    rw [hfirst, hfirst]
    rfl
  | lastSlash _ hfront =>
    obtain ⟨first, hsame, hfirst⟩ := exists_textComponents_append t
    rw [hfirst, hsame hfront]
    exact (List.append_nil first).symm

/-- A path keeps its components, however often it is written at greater length or shorter again. -/
lemma components_eq_of_respelled {path other : Path}
    (h : Relation.EqvGen Respelled path.text.toList other.text.toList) :
    other.components = path.components := by
  have hsame : ∀ t u, Relation.EqvGen Respelled t u → textComponents t = textComponents u := by
    intro t u htu
    induction htu with
    | rel t u hstep => exact hstep.textComponents_eq
    | refl t => rfl
    | symm t u _ ih => exact ih.symm
    | trans t u v _ _ ih ih' => exact ih.trans ih'
  rw [components_eq_textComponents, components_eq_textComponents, hsame _ _ h]

/-! ## Joining -/

lemma textComponents_of_not_mem {file : Text} (hslash : '/' ∉ file) (hvoid : isVoid file = false) :
    textComponents file = [.ofPiece file] := by
  have hfits : LeadFits [] file := by
    rw [isVoid, Bool.or_eq_false_iff] at hvoid
    exact Or.inr (Or.inr ⟨rfl, by simpa using hvoid.1, by simpa using hvoid.2⟩)
  have halone : IsSpelling [] [file] := ⟨⟨file, rfl, hfits⟩, by simpa using hslash⟩
  have htext : mk (String.ofList file) = ofBackPieces [] [file] := by
    apply ext
    simp [ofBackPieces]
  rw [textComponents, htext, components_ofBackPieces halone, List.reverse_singleton,
    steps_singleton hvoid]
  rfl

/-- Joining puts one name at the end, however the directory is written. -/
lemma components_join {file : Text} (directory : Path) (hslash : '/' ∉ file)
    (hvoid : isVoid file = false) :
    (directory.join (String.ofList file)).components
      = directory.components ++ [.ofPiece file] := by
  have hpieces : steps (file.splitOn '/') = [.ofPiece file] := by
    rw [List.splitOn_eq_singleton hslash, steps_singleton hvoid]
  rw [components_eq_textComponents, components_eq_textComponents directory, toList_join]
  generalize directory.text.toList = t
  split_ifs with hend
  · rcases hend with rfl | hend
    · exact textComponents_of_not_mem hslash hvoid
    · obtain ⟨front, rfl⟩ := List.getLast?_eq_some_iff.1 hend
      obtain ⟨first, -, hfirst⟩ := exists_textComponents_append front
      rw [List.append_assoc, List.singleton_append, hfirst, hfirst, hpieces]
      simp [steps, isVoid]
  · obtain ⟨first, hsame, hfirst⟩ := exists_textComponents_append t
    rw [hfirst, hsame (not_or.1 hend).1, hpieces]

/-! ## Extensions -/

lemma isVoid_take {piece : Text} (h : isVoid piece = true) (n : Nat) :
    isVoid (piece.take n) = true := by
  rcases isVoid_iff.1 h with rfl | rfl
  · rw [List.take_nil]
    rfl
  · cases n with
    | zero => rfl
    | succ n => simp [isVoid]

/-- What is cut off a path for its old extension. Cutting passes over void pieces at the end, one
after the other, and what is left of the length is cut off the extension. -/
lemma exists_cut {voids : List Text} {n : Nat} {own : Text} (lead stem : Text)
    (before : List Text) (hvoids : ∀ piece ∈ voids, isVoid piece = true) (hn : n ≤ own.length) :
    ∃ voids' own' cut, (∀ piece ∈ voids', isVoid piece = true) ∧ own' <+: own ∧ cut.length = n ∧
      (ofBackPieces lead (voids ++ (stem ++ '.' :: own) :: before)).text.toList
        = (ofBackPieces lead (voids' ++ (stem ++ '.' :: own') :: before)).text.toList ++ cut := by
  induction voids generalizing n with
  | nil =>
    refine ⟨[], own.take (own.length - n), own.drop (own.length - n), by simp,
      List.take_prefix _ _, ?_, ?_⟩
    · rw [List.length_drop]
      omega
    · rw [List.nil_append, List.nil_append, toList_ofBackPieces_cons, toList_ofBackPieces_cons]
      simp
  | cons piece voids ih =>
    rw [List.forall_mem_cons] at hvoids
    have hrest : voids ++ (stem ++ '.' :: own) :: before ≠ [] := by simp
    rw [List.cons_append, toList_ofBackPieces_cons_of_ne_nil hrest]
    by_cases hshort : n < piece.length + 1
    · -- the cut ends inside the piece, and what is left of it is void as well
      refine ⟨piece.take (piece.length - n) :: voids, own, piece.drop (piece.length - n), ?_,
        List.prefix_rfl, ?_, ?_⟩
      · rw [List.forall_mem_cons]
        exact ⟨isVoid_take hvoids.1 _, hvoids.2⟩
      · rw [List.length_drop]
        omega
      · rw [List.cons_append, toList_ofBackPieces_cons_of_ne_nil hrest, List.append_assoc,
          List.cons_append, List.take_append_drop]
    · obtain ⟨voids', own', cut, hvoids', hown, hlength, htext⟩ := ih hvoids.2
        (show n - (piece.length + 1) ≤ own.length by omega)
      refine ⟨voids', own', cut ++ '/' :: piece, hvoids', hown, ?_, ?_⟩
      · rw [List.length_append, List.length_cons]
        omega
      · rw [htext, List.append_assoc]

/-- Cutting off the old extension leaves a name with the same stem in its place. -/
lemma exists_withExtension_eq {stem own : Text} (h : IsSpelling lead back)
    (hback : back.dropWhile isVoid = name :: before) (hup : name ≠ ['.', '.'])
    (hsplit : splitExtension name = (stem, some own)) (hstem : stem ≠ [])
    (hjoin : name = stem ++ '.' :: own) (extension : String) :
    ∃ back' own', IsSpelling lead back' ∧ '.' ∉ own' ∧ stem ++ '.' :: own' <+: name ∧
      back'.dropWhile isVoid = (stem ++ '.' :: own') :: before ∧
      (ofBackPieces lead back).withExtension extension
        = (ofBackPieces lead back').setExtension extension := by
  have hspelling := h.of_dropWhile hback
  have hpieces : back = back.takeWhile isVoid ++ (stem ++ '.' :: own) :: before := by
    rw [← hjoin, ← hback, List.takeWhile_append_dropWhile]
  obtain ⟨voids, own', cut, hvoids, hown, hlength, htext⟩ := exists_cut lead stem before
    (fun piece hpiece => List.mem_takeWhile_imp hpiece) (le_refl own.length)
  have hbegins : stem ++ '.' :: own' <+: name := by
    rw [hjoin]
    exact (List.prefix_append_right_inj stem).2 (List.cons_prefix_cons.2 ⟨rfl, hown⟩)
  have hvoid := isVoid_append_dot hstem own'
  have hslash : '/' ∉ stem ++ '.' :: own' := fun hmem =>
    hspelling.no_slash name List.mem_cons_self (hbegins.subset hmem)
  refine ⟨voids ++ (stem ++ '.' :: own') :: before, own', ?_,
    fun hmem => not_mem_of_splitExtension hsplit (hown.subset hmem), hbegins, ?_, ?_⟩
  · exact (hspelling.rename (by simp [hjoin]) hslash hvoid).append fun piece hpiece =>
      slash_not_mem_of_isVoid (hvoids piece hpiece)
  · rw [List.dropWhile_append_of_pos hvoids, List.dropWhile_cons_of_neg (by simp [hvoid])]
  · unfold withExtension
    rw [fileName?_of_dropWhile h hback, if_neg hup, Option.bind_some, hsplit]
    dsimp only [Option.getD_some]
    rw [hpieces, htext, List.length_append, hlength, Nat.add_sub_cancel, List.take_left,
      String.ofList_toList]

/-- Another extension renames the last piece that is not void. -/
lemma withExtension_of_dropWhile (h : IsSpelling lead back)
    (hback : back.dropWhile isVoid = name :: before) (hdots : ¬['.', '.'] <+: name)
    (extension : String) :
    (ofBackPieces lead back).withExtension extension
      = ofBackPieces lead (((splitExtension name).1 ++ dotted extension) :: before) := by
  have hup : name ≠ ['.', '.'] := by
    rintro rfl
    exact hdots List.prefix_rfl
  rcases splitExtension_cases name with hnone | ⟨stem, own, hsome, hstem, hjoin⟩
  · -- nothing is cut off
    unfold withExtension
    rw [fileName?_of_dropWhile h hback, if_neg hup, Option.bind_some, hnone]
    dsimp only [Option.getD_none, List.length_nil]
    rw [Nat.sub_zero, List.take_length, String.ofList_toList,
      setExtension_of_dropWhile h hback, if_neg hup, hnone]
  · obtain ⟨back', own', hspelling, hdot, hbegins, hback', hcut⟩ :=
      exists_withExtension_eq h hback hup hsome hstem hjoin extension
    -- the cut name is not taken for a step to the parent
    have hnot : stem ++ '.' :: own' ≠ ['.', '.'] := fun heq => hdots (heq ▸ hbegins)
    rw [hcut, setExtension_of_dropWhile hspelling hback', if_neg hnot,
      splitExtension_append hstem hdot, hsome]

/-- The stem of a file name ends before the last dot that is not its first character. Without such
a dot it is the whole name. -/
def IsStem (stem name : Text) : Prop :=
  (∃ own, name = stem ++ '.' :: own ∧ stem ≠ [] ∧ '.' ∉ own) ∨ stem = name ∧ '.' ∉ name.tail

lemma isStem_splitExtension (name : Text) : IsStem (splitExtension name).1 name := by
  unfold splitExtension
  split
  · rename_i stem own hsplit
    have hname := Text.eq_of_splitAtLast? hsplit
    have hown := Text.not_mem_of_splitAtLast? hsplit
    split_ifs with hempty
    · -- the only dot is the first character
      refine Or.inr ⟨rfl, ?_⟩
      rw [hname, List.isEmpty_iff.1 hempty]
      exact hown
    · exact Or.inl ⟨own, by simpa using hname, by simpa using hempty, hown⟩
  · rename_i hsplit
    exact Or.inr ⟨rfl, fun hmem =>
      Text.not_mem_of_splitAtLast?_eq_none hsplit (List.mem_of_mem_tail hmem)⟩

/-- A name has one stem. -/
lemma IsStem.eq {stem : Text} (h : IsStem stem name) : stem = (splitExtension name).1 := by
  rcases h with ⟨own, rfl, hstem, hown⟩ | ⟨rfl, hdot⟩
  · rw [splitExtension_append hstem hown]
  · rcases splitExtension_cases stem with hnone | ⟨stem', own, -, hstem, hjoin⟩
    · rw [hnone]
    · -- a dot behind a stem is not the first character
      obtain ⟨c, cs, rfl⟩ := List.exists_cons_of_ne_nil hstem
      exact absurd (by simp [hjoin]) hdot

lemma IsStem.isPrefix {stem : Text} (h : IsStem stem name) : stem <+: name := by
  rcases h with ⟨own, rfl, -, -⟩ | ⟨rfl, -⟩
  · exact List.prefix_append stem _
  · exact List.prefix_rfl

lemma IsStem.ne_nil {stem : Text} (h : IsStem stem name) (hname : name ≠ []) : stem ≠ [] := by
  rcases h with ⟨own, -, hstem, -⟩ | ⟨rfl, -⟩
  · exact hstem
  · exact hname

lemma ne_up_of_append_dot {stem rest : Text} (hstem : stem ≠ []) (hrest : rest ≠ []) :
    stem ++ '.' :: rest ≠ ['.', '.'] := by
  intro heq
  have hlength := congrArg List.length heq
  have hstem' := List.length_pos_iff.2 hstem
  have hrest' := List.length_pos_iff.2 hrest
  simp only [List.length_append, List.length_cons, List.length_nil] at hlength
  omega

/-- Another extension renames the last component. -/
lemma components_withExtension {path : Path} {extension : String} (hextension : extension ≠ "")
    (hslash : '/' ∉ extension.toList) (hname : path.fileName? = some name)
    (hdots : ¬['.', '.'] <+: name) :
    (path.withExtension extension).components = path.components.dropLast
      ++ [.name ((splitExtension name).1 ++ '.' :: extension.toList)] := by
  obtain ⟨lead, back, before, rfl, hspelling, hback⟩ := exists_isSpelling_of_fileName? hname
  obtain ⟨hpiece, hnotVoid⟩ := isPiece_of_fileName? hname
  have hne : name ≠ [] := by
    rintro rfl
    cases hnotVoid
  have hstem := isStem_splitExtension name
  have hchars : extension.toList ≠ [] := by simpa using hextension
  have hvoid := isVoid_append_dot (hstem.ne_nil hne) extension.toList
  have hrenamed : '/' ∉ (splitExtension name).1 ++ '.' :: extension.toList := by
    have hnot : '/' ∉ (splitExtension name).1 := fun hmem => hpiece (hstem.isPrefix.subset hmem)
    simp [hnot, hslash]
  have hdotted : dotted extension = '.' :: extension.toList := by simp [dotted, hextension]
  rw [withExtension_of_dropWhile hspelling hback hdots, hdotted,
    components_of_dropWhile ((hspelling.of_dropWhile hback).rename hne hrenamed hvoid)
      (List.dropWhile_cons_of_neg (by simp [hvoid])),
    components_of_dropWhile hspelling hback, List.dropLast_concat, Component.ofPiece,
    if_neg (ne_up_of_append_dot (hstem.ne_nil hne) hchars)]

/-- A path without a file name gets no extension. -/
lemma withExtension_of_no_fileName {path : Path} (h : path.fileName? = none) (extension : String) :
    path.withExtension extension = path := by
  unfold withExtension
  rw [h]
  dsimp only [Option.bind_none, Option.getD_none, List.length_nil]
  rw [Nat.sub_zero, List.take_length, String.ofList_toList]
  rcases backPieces_cases path with hlead | ⟨lead, back, piece, before, rfl, hspelling, hback⟩
  · unfold setExtension
    dsimp only
    rw [hlead]
  · rw [fileName?_of_dropWhile hspelling hback] at h
    split_ifs at h with hup
    rw [setExtension_of_dropWhile hspelling hback, if_pos hup]

end SolverInput.Path
