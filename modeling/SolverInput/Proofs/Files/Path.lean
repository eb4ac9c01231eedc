import SolverInput.Report.Output
import SolverInput.Proofs.Report.Row
import SolverInput.Proofs.Text.Lines

/-!
# Paths by their pieces

A path that is not empty is spelled by its lead and its pieces (`exists_isSpelling`), and the
operations on paths are operations on the pieces: the parent drops the last one
(`parent?_ofBackPieces`), another extension renames it (`withExtension_ofBackPieces`), and joining
puts one more piece at the end (`join_ofBackPieces`). From there the default output is known for
every input that ends in a name: the run directory with the extension
(`exists_defaultOutput_of_runDirectory`), or the input under another name
(`defaultOutput_of_no_runDirectory`).
-/

namespace SolverInput.Path

/-! ## Spellings -/

/-- A lead that can stand before a first piece: after a leading `.` comes a slash, and a first piece
without a lead is neither empty nor a `.`. -/
def LeadFits (lead first : Text) : Prop :=
  lead = ['/'] ∨ lead = ['.'] ∧ first = [] ∨ lead = [] ∧ first ≠ [] ∧ first ≠ ['.']

/-- A lead and pieces, last one first, that are found again in the path that they spell. -/
structure IsSpelling (lead : Text) (back : List Text) : Prop where
  lead_fits : ∃ first, back.getLast? = some first ∧ LeadFits lead first
  no_slash : ∀ piece ∈ back, '/' ∉ piece

variable {lead name : Text} {back before : List Text}

/-- Pieces that are left from the first one on have the same lead. -/
lemma IsSpelling.of_suffix {rest : List Text} (h : IsSpelling lead back) (hrest : rest <:+ back)
    (hne : rest ≠ []) : IsSpelling lead rest := by
  obtain ⟨first, hfirst, hfits⟩ := h.lead_fits
  obtain ⟨front, rfl⟩ := hrest
  refine ⟨⟨first, ?_, hfits⟩, fun piece hpiece => h.no_slash piece (by simp [hpiece])⟩
  rwa [List.getLast?_append_of_ne_nil _ hne] at hfirst

/-- One more piece at the end leaves the lead as it is. -/
lemma IsSpelling.cons (h : IsSpelling lead back) (hname : '/' ∉ name) :
    IsSpelling lead (name :: back) := by
  obtain ⟨first, hfirst, hfits⟩ := h.lead_fits
  refine ⟨⟨first, ?_, hfits⟩, ?_⟩
  · rw [List.getLast?_cons, hfirst]
    rfl
  · intro piece hpiece
    rcases List.mem_cons.1 hpiece with rfl | hpiece
    · exact hname
    · exact h.no_slash piece hpiece

/-- Another last piece, which is not void, leaves the lead as it is. -/
lemma IsSpelling.rename {other : Text} (h : IsSpelling lead (name :: before))
    (hname : name ≠ []) (hother : '/' ∉ other) (hvoid : isVoid other = false) :
    IsSpelling lead (other :: before) := by
  by_cases hbefore : before = []
  · obtain ⟨first, hfirst, hfits⟩ := h.lead_fits
    subst hbefore
    cases hfirst
    refine ⟨⟨other, rfl, ?_⟩, by simpa using hother⟩
    rcases hfits with hroot | ⟨-, hempty⟩ | ⟨hlead, -, -⟩
    · exact Or.inl hroot
    · exact absurd hempty hname
    · rw [isVoid, Bool.or_eq_false_iff] at hvoid
      exact Or.inr (Or.inr ⟨hlead, by simpa using hvoid.1, by simpa using hvoid.2⟩)
  · exact (h.of_suffix (List.suffix_cons name before) hbefore).cons hother

lemma IsSpelling.ne_nil (h : IsSpelling lead back) : back ≠ [] := by
  obtain ⟨first, hfirst, -⟩ := h.lead_fits
  rintro rfl
  cases hfirst

/-! ## Finding the lead and the pieces -/

/-- Pieces joined by slashes start with the first piece; what follows is nothing or a slash. -/
lemma exists_intercalate_cons (first : Text) (more : List Text) :
    ∃ rest, List.intercalate ['/'] (first :: more) = first ++ rest ∧
      (rest = [] ∨ ∃ rest', rest = '/' :: rest') := by
  cases more with
  | nil => exact ⟨[], by simp, Or.inl rfl⟩
  | cons next more =>
    refine ⟨'/' :: List.intercalate ['/'] (next :: more), ?_, Or.inr ⟨_, rfl⟩⟩
    rw [List.intercalate_cons_cons]
    simp

lemma splitLead_append {first rest : Text} (hfits : LeadFits lead first) (hfirst : '/' ∉ first)
    (hrest : rest = [] ∨ ∃ rest', rest = '/' :: rest') :
    splitLead (lead ++ (first ++ rest)) = (lead, first ++ rest) := by
  rcases hfits with rfl | ⟨rfl, rfl⟩ | ⟨rfl, hempty, hhere⟩
  · rfl
  · rcases hrest with rfl | ⟨rest', rfl⟩
    · rfl
    · rfl
  · obtain ⟨c, cs, rfl⟩ := List.exists_cons_of_ne_nil hempty
    rw [List.mem_cons, not_or] at hfirst
    rw [List.nil_append, List.cons_append]
    -- a slash after a leading dot would make the dot the whole first piece
    unfold splitLead
    split
    · rename_i heq
      cases heq
      exact absurd rfl hfirst.1
    · rename_i heq
      injection heq with hc hcs
      rw [List.append_eq_nil_iff] at hcs
      exact absurd (by rw [hc, hcs.1]) hhere
    · rename_i heq
      injection heq with hc hcs
      cases cs with
      | nil => exact absurd (by rw [hc]) hhere
      | cons d ds =>
        injection hcs with hd
        exact absurd (by simp [hd]) hfirst.2
    · rfl

lemma splitLead_ofBackPieces (h : IsSpelling lead back) :
    splitLead (ofBackPieces lead back).text.toList
      = (lead, List.intercalate ['/'] back.reverse) := by
  obtain ⟨first, hfirst, hfits⟩ := h.lead_fits
  have hhead : back.reverse.head? = some first := by rw [List.head?_reverse, hfirst]
  obtain ⟨more, hmore⟩ := List.head?_eq_some_iff.1 hhead
  obtain ⟨rest, hrest, hslash⟩ := exists_intercalate_cons first more
  have hmem : first ∈ back := by
    rw [← List.mem_reverse, hmore]
    exact List.mem_cons_self
  unfold ofBackPieces
  rw [String.toList_ofList, hmore, hrest]
  exact splitLead_append hfits (h.no_slash first hmem) hslash

lemma splitOn_intercalate_reverse (h : IsSpelling lead back) :
    (List.intercalate ['/'] back.reverse).splitOn '/' = back.reverse := by
  apply List.splitOn_intercalate
  · intro piece hpiece
    exact h.no_slash piece (List.mem_reverse.1 hpiece)
  · simpa using h.ne_nil

lemma backPieces_intercalate (h : IsSpelling lead back) :
    backPieces (List.intercalate ['/'] back.reverse) = back.dropWhile isVoid := by
  unfold backPieces
  rw [splitOn_intercalate_reverse h, List.reverse_reverse]

/-- A text is its lead and the rest, and the lead fits the first piece of the rest. -/
lemma exists_splitLead {t : Text} (ht : t ≠ []) :
    ∃ lead rest first, t = lead ++ rest ∧ (rest.splitOn '/').head? = some first ∧
      LeadFits lead first := by
  obtain ⟨first, more, hsplit⟩ := List.exists_cons_of_ne_nil (List.splitOn_ne_nil '/' t)
  obtain ⟨rest, hrest, hslash⟩ := exists_intercalate_cons first more
  have hjoin : t = first ++ rest := by
    rw [← hrest, ← hsplit, List.intercalate_splitOn]
  by_cases hempty : first = []
  · -- the text starts with a slash
    rcases hslash with hnil | ⟨rest', hcons⟩
    · exact absurd (by rw [hjoin, hempty, hnil]; rfl) ht
    · obtain ⟨head, others, hhead⟩ := List.exists_cons_of_ne_nil (List.splitOn_ne_nil '/' rest')
      refine ⟨['/'], rest', head, ?_, ?_, Or.inl rfl⟩
      · rw [hjoin, hempty, hcons]
        rfl
      · rw [hhead]
        rfl
  · by_cases hhere : first = ['.']
    · refine ⟨['.'], rest, [], by rw [hjoin, hhere], ?_, Or.inr (Or.inl ⟨rfl, rfl⟩)⟩
      rcases hslash with rfl | ⟨rest', rfl⟩
      · rfl
      · rw [show '/' :: rest' = [] ++ '/' :: rest' from rfl,
          List.splitOn_append_cons_self_of_not_mem (by simp)]
        rfl
    · exact ⟨[], t, first, rfl, by rw [hsplit]; rfl, Or.inr (Or.inr ⟨rfl, hempty, hhere⟩)⟩

/-- Every path that is not empty is spelled by a lead and pieces. -/
lemma exists_isSpelling {path : Path} (h : path.text ≠ "") :
    ∃ lead back, IsSpelling lead back ∧ path = ofBackPieces lead back := by
  have hchars : path.text.toList ≠ [] := by simpa using h
  obtain ⟨lead, rest, first, hjoin, hfirst, hfits⟩ := exists_splitLead hchars
  refine ⟨lead, (rest.splitOn '/').reverse, ⟨⟨first, ?_, hfits⟩, ?_⟩, ?_⟩
  · rw [List.getLast?_reverse, hfirst]
  · intro piece hpiece
    exact Text.not_mem_of_mem_splitOn (List.mem_reverse.1 hpiece)
  · unfold ofBackPieces
    rw [List.reverse_reverse, List.intercalate_splitOn, ← hjoin, String.ofList_toList]

/-- The text of a path ends in its last piece. -/
lemma toList_ofBackPieces_cons (lead name : Text) (before : List Text) :
    (ofBackPieces lead (name :: before)).text.toList
      = lead ++ before.reverse.flatMap (· ++ ['/']) ++ name := by
  have hjoin (pieces : List Text) : List.intercalate ['/'] (pieces ++ [name])
      = pieces.flatMap (· ++ ['/']) ++ name := by
    induction pieces with
    | nil => simp
    | cons piece rest ih =>
      rw [List.cons_append, List.intercalate_cons_of_ne_nil (by simp), ih]
      simp
  unfold ofBackPieces
  rw [String.toList_ofList, List.reverse_cons, hjoin, List.append_assoc]

/-! ## Parents and names -/

/-- Void pieces at the end are passed over: the parent stands before the last piece that is not
void. -/
lemma parent?_of_dropWhile (h : IsSpelling lead back)
    (hback : back.dropWhile isVoid = name :: before) :
    (ofBackPieces lead back).parent? = some (ofBackPieces lead (before.dropWhile isVoid)) := by
  unfold parent?
  rw [splitLead_ofBackPieces h]
  dsimp only
  rw [backPieces_intercalate h, hback]

lemma parent?_ofBackPieces (h : IsSpelling lead (name :: before)) (hname : isVoid name = false) :
    (ofBackPieces lead (name :: before)).parent?
      = some (ofBackPieces lead (before.dropWhile isVoid)) :=
  parent?_of_dropWhile h (List.dropWhile_cons_of_neg (by simp [hname]))

lemma fileName?_of_dropWhile (h : IsSpelling lead back)
    (hback : back.dropWhile isVoid = name :: before) :
    (ofBackPieces lead back).fileName? = if name = ['.', '.'] then none else some name := by
  unfold fileName?
  rw [splitLead_ofBackPieces h]
  dsimp only
  rw [backPieces_intercalate h, hback]

lemma fileName?_ofBackPieces (h : IsSpelling lead (name :: before)) (hname : isVoid name = false) :
    (ofBackPieces lead (name :: before)).fileName?
      = if name = ['.', '.'] then none else some name :=
  fileName?_of_dropWhile h (List.dropWhile_cons_of_neg (by simp [hname]))

/-! ## Extensions -/

/-- What an extension adds to a stem. -/
def dotted (extension : String) : Text :=
  if extension.isEmpty then [] else '.' :: extension.toList

/-- The name of a file with another extension. A stem `.` is lost, as cutting off its extension
leaves `..`. -/
def renamed (name : Text) (extension : String) : Text :=
  match splitExtension name with
  | (_, none) => name ++ dotted extension
  | (stem, some _) => if stem = ['.'] then ['.', '.'] else stem ++ dotted extension

/-- A file name that has this extension already: a stem, a dot and the extension, or a name without
an extension if the extension is empty. Two kinds of names are no such names, as they do not stay
the same: one that ends in a dot, such as `a.`, which loses the dot under the empty extension, and
one with the stem `.`, such as `..x`, which becomes `..` under every extension. -/
def HasExtension (name : Text) (extension : String) : Prop :=
  match splitExtension name with
  | (_, none) => extension = ""
  | (stem, some own) => own = extension.toList ∧ own ≠ [] ∧ stem ≠ ['.']

/-- A file name has no extension, or it is a stem that is not empty, a dot and the extension. -/
lemma splitExtension_cases (name : Text) :
    splitExtension name = (name, none) ∨
      ∃ stem own, splitExtension name = (stem, some own) ∧ stem ≠ [] ∧
        name = stem ++ '.' :: own := by
  unfold splitExtension
  split
  · rename_i stem own hsplit
    split_ifs with hempty
    · exact Or.inl rfl
    · refine Or.inr ⟨stem, own, rfl, by simpa using hempty, ?_⟩
      rw [Text.eq_of_splitAtLast? hsplit]
      simp
  · exact Or.inl rfl

/-- An extension holds no dot. -/
lemma not_mem_of_splitExtension {stem own : Text} (h : splitExtension name = (stem, some own)) :
    '.' ∉ own := by
  unfold splitExtension at h
  split at h
  · rename_i hsplit
    split_ifs at h
    · cases h
    · cases h
      exact Text.not_mem_of_splitAtLast? hsplit
  · cases h

lemma splitExtension_append {stem own : Text} (h : stem ≠ []) (hown : '.' ∉ own) :
    splitExtension (stem ++ '.' :: own) = (stem, some own) := by
  unfold splitExtension
  rw [Text.splitAtLast?_append stem hown]
  simp [h]

lemma setExtension_of_dropWhile (h : IsSpelling lead back)
    (hback : back.dropWhile isVoid = name :: before) (extension : String) :
    (ofBackPieces lead back).setExtension extension
      = if name = ['.', '.'] then ofBackPieces lead back
        else ofBackPieces lead (((splitExtension name).1 ++ dotted extension) :: before) := by
  unfold setExtension
  rw [splitLead_ofBackPieces h]
  dsimp only
  rw [backPieces_intercalate h, hback]
  rfl

lemma setExtension_ofBackPieces (h : IsSpelling lead (name :: before))
    (hname : isVoid name = false) (extension : String) :
    (ofBackPieces lead (name :: before)).setExtension extension
      = if name = ['.', '.'] then ofBackPieces lead (name :: before)
        else ofBackPieces lead (((splitExtension name).1 ++ dotted extension) :: before) :=
  setExtension_of_dropWhile h (List.dropWhile_cons_of_neg (by simp [hname])) extension

lemma isVoid_append_dot {stem : Text} (h : stem ≠ []) (rest : Text) :
    isVoid (stem ++ '.' :: rest) = false := by
  cases stem with
  | nil => exact absurd rfl h
  | cons c cs => simp [isVoid]

/-- Another extension renames the last piece. -/
lemma withExtension_ofBackPieces (h : IsSpelling lead (name :: before))
    (hname : isVoid name = false) (hup : name ≠ ['.', '.']) (extension : String) :
    (ofBackPieces lead (name :: before)).withExtension extension
      = ofBackPieces lead (renamed name extension :: before) := by
  have hown : (ofBackPieces lead (name :: before)).fileName? = some name := by
    rw [fileName?_ofBackPieces h hname, if_neg hup]
  unfold withExtension renamed
  rw [hown]
  dsimp only [Option.bind_some]
  rcases splitExtension_cases name with hnone | ⟨stem, own, hsome, hstem, hjoin⟩
  · -- nothing is cut off
    rw [hnone]
    dsimp only [Option.getD_none, List.length_nil]
    rw [Nat.sub_zero, List.take_length, String.ofList_toList,
      setExtension_ofBackPieces h hname, if_neg hup, hnone]
  · -- the extension is cut off, and the dot before it is left
    rw [hsome]
    dsimp only [Option.getD_some]
    have hcut : (ofBackPieces lead (name :: before)).text.toList
        = (ofBackPieces lead ((stem ++ ['.']) :: before)).text.toList ++ own := by
      rw [toList_ofBackPieces_cons, toList_ofBackPieces_cons, hjoin]
      simp
    have hvoid : isVoid (stem ++ ['.']) = false := isVoid_append_dot hstem []
    have hslash : '/' ∉ stem ++ ['.'] := by
      have hnot := h.no_slash name List.mem_cons_self
      rw [hjoin] at hnot
      simp only [List.mem_append, List.mem_cons, not_or] at hnot ⊢
      exact ⟨hnot.1, hnot.2.1, List.not_mem_nil⟩
    have hshort : IsSpelling lead ((stem ++ ['.']) :: before) :=
      h.rename (by simp [hjoin]) hslash hvoid
    rw [hcut, List.length_append, Nat.add_sub_cancel, List.take_left,
      String.ofList_toList, setExtension_ofBackPieces hshort hvoid,
      splitExtension_append hstem List.not_mem_nil]
    by_cases hdot : stem = ['.']
    · simp [hdot]
    · have hnot : stem ++ ['.'] ≠ ['.', '.'] := by
        intro heq
        exact hdot
          (List.append_cancel_right (heq.trans (show ['.', '.'] = ['.'] ++ ['.'] from rfl)))
      rw [if_neg hnot, if_neg hdot]

/-! ## Names with another extension -/

lemma isVoid_append {piece : Text} (h : isVoid piece = false) (more : Text) :
    isVoid (piece ++ more) = false := by
  rw [isVoid, Bool.or_eq_false_iff] at h ⊢
  have hne : piece ≠ [] := by simpa using h.1
  have hhere : piece ≠ ['.'] := by simpa using h.2
  refine ⟨by simp [hne], beq_false_of_ne ?_⟩
  intro heq
  rcases List.append_eq_singleton_iff.1 heq with ⟨hnil, -⟩ | ⟨hdot, -⟩
  · exact hne hnil
  · exact hhere hdot

lemma isVoid_renamed (hname : isVoid name = false) (extension : String) :
    isVoid (renamed name extension) = false := by
  unfold renamed
  rcases splitExtension_cases name with hnone | ⟨stem, own, hsome, hstem, -⟩
  · rw [hnone]
    exact isVoid_append hname _
  · rw [hsome]
    dsimp only
    split_ifs with hdot
    · rfl
    · exact isVoid_append (by simp [isVoid, hstem, hdot]) _

lemma slash_not_mem_dotted {extension : String} (h : '/' ∉ extension.toList) :
    '/' ∉ dotted extension := by
  unfold dotted
  split_ifs
  · exact List.not_mem_nil
  · rw [List.mem_cons, not_or]
    exact ⟨by decide, h⟩

lemma slash_not_mem_renamed {extension : String} (hname : '/' ∉ name)
    (hextension : '/' ∉ extension.toList) : '/' ∉ renamed name extension := by
  have hdotted := slash_not_mem_dotted hextension
  unfold renamed
  rcases splitExtension_cases name with hnone | ⟨stem, own, hsome, -, hjoin⟩
  · rw [hnone]
    simp [hname, hdotted]
  · rw [hjoin, List.mem_append, not_or] at hname
    rw [hsome]
    dsimp only
    split_ifs
    · decide
    · simp [hname.1, hdotted]

/-- A name stays as it is exactly if it has the extension already. -/
lemma renamed_eq_self_iff {extension : String} (hup : name ≠ ['.', '.']) :
    renamed name extension = name ↔ HasExtension name extension := by
  unfold renamed HasExtension dotted
  rcases splitExtension_cases name with hnone | ⟨stem, own, hsome, -, hjoin⟩
  · rw [hnone]
    by_cases hempty : extension = ""
    · simp [hempty]
    · simp [hempty]
  · rw [hsome]
    dsimp only
    by_cases hdot : stem = ['.']
    · simp [hdot, hup.symm]
    · -- the stem stays, so only the extensions are compared
      rw [if_neg hdot, hjoin, List.append_cancel_left_eq]
      by_cases hempty : extension = ""
      · simp +contextual [hempty]
      · have hchars : extension.toList ≠ [] := by simpa using hempty
        simp only [String.isEmpty_iff, hempty, if_false, List.cons.injEq, true_and]
        constructor
        · rintro rfl
          exact ⟨rfl, hchars, hdot⟩
        · rintro ⟨rfl, -, -⟩
          rfl

/-! ## Joining -/

lemma ext {a b : Path} (h : a.text.toList = b.text.toList) : a = b :=
  congrArg mk (String.toList_inj.1 h)

lemma toList_join (directory : Path) (file : Text) :
    (directory.join (String.ofList file)).text.toList
      = if directory.text.toList = [] ∨ directory.text.toList.getLast? = some '/'
        then directory.text.toList ++ file else directory.text.toList ++ '/' :: file := by
  unfold join
  have hempty : directory.text.isEmpty = true ↔ directory.text.toList = [] := by simp
  by_cases h : directory.text.toList = [] ∨ directory.text.toList.getLast? = some '/'
  · rw [if_pos h, if_pos (by simpa [hempty] using h)]
    simp
  · rw [if_neg h, if_neg (by simpa [hempty] using h)]
    simp

/-- A file name is joined to a directory as one more piece. A directory that is only a lead may get
an empty piece first, which is the slash after a leading dot. -/
lemma join_ofBackPieces {rest : List Text} {file : Text} (h : IsSpelling lead back)
    (hrest : rest <:+ back) (hend : rest.dropWhile isVoid = rest) (hslash : '/' ∉ file)
    (hfile : isVoid file = false) :
    ∃ firsts, IsSpelling lead (file :: firsts) ∧ firsts.dropWhile isVoid = rest ∧
      (ofBackPieces lead rest).join (String.ofList file) = ofBackPieces lead (file :: firsts) := by
  cases rest with
  | nil =>
    obtain ⟨first, -, hfits⟩ := h.lead_fits
    have halone : ∀ piece ∈ [file], '/' ∉ piece := by simpa using hslash
    rcases hfits with rfl | ⟨rfl, -⟩ | ⟨rfl, -, -⟩
    · refine ⟨[], ⟨⟨file, rfl, Or.inl rfl⟩, halone⟩, rfl, ext ?_⟩
      rw [toList_join]
      simp [ofBackPieces]
    · refine ⟨[[]], ⟨⟨[], rfl, Or.inr (Or.inl ⟨rfl, rfl⟩)⟩, by simpa using hslash⟩, rfl, ext ?_⟩
      rw [toList_join]
      simp [ofBackPieces]
    · rw [isVoid, Bool.or_eq_false_iff] at hfile
      refine ⟨[], ⟨⟨file, rfl, Or.inr (Or.inr ⟨rfl, ?_, ?_⟩)⟩, halone⟩, rfl, ext ?_⟩
      · simpa using hfile.1
      · simpa using hfile.2
      · rw [toList_join]
        simp [ofBackPieces]
  | cons last more =>
    have hspelling := h.of_suffix hrest (by simp)
    refine ⟨last :: more, hspelling.cons hslash, hend, ext ?_⟩
    -- the directory ends in a piece with a character, and that character is no slash
    have hlast : isVoid last = false := by
      by_contra hvoid
      rw [List.dropWhile_cons_of_pos (by simpa using hvoid)] at hend
      have hlength := (List.dropWhile_suffix isVoid (l := more)).length_le
      rw [hend, List.length_cons] at hlength
      omega
    have hne : last ≠ [] := by
      rintro rfl
      cases hlast
    have hopen : (ofBackPieces lead (last :: more)).text.toList.getLast? ≠ some '/' := by
      rw [toList_ofBackPieces_cons, List.getLast?_append_of_ne_nil _ hne]
      intro hget
      exact hspelling.no_slash last List.mem_cons_self (List.mem_of_getLast? hget)
    have hfull : (ofBackPieces lead (last :: more)).text.toList ≠ [] := by
      rw [toList_ofBackPieces_cons]
      simp [hne]
    rw [toList_join, if_neg (not_or.2 ⟨hfull, hopen⟩), toList_ofBackPieces_cons,
      toList_ofBackPieces_cons, List.reverse_cons]
    simp

/-! ## The default output -/

lemma isVoid_of_dropWhile {run : Text} {rest : List Text}
    (h : before.dropWhile isVoid = run :: rest) : isVoid run = false := by
  have hhead := List.head?_dropWhile_not isVoid before
  rw [h] at hhead
  simpa using hhead

lemma suffix_of_dropWhile {run : Text} {rest : List Text} (name : Text)
    (h : before.dropWhile isVoid = run :: rest) : run :: rest <:+ name :: before := by
  rw [← h]
  exact (List.dropWhile_suffix isVoid).trans (List.suffix_cons name before)

/-- Only a lead is left above an input whose pieces before the name are all void, and a lead is no
run directory. -/
lemma runDirectory?_of_void (h : IsSpelling lead (name :: before)) (hname : isVoid name = false)
    (hbefore : before.dropWhile isVoid = []) :
    (ofBackPieces lead (name :: before)).runDirectory? = none := by
  obtain ⟨first, -, hfits⟩ := h.lead_fits
  unfold runDirectory?
  rw [parent?_ofBackPieces h hname, hbefore]
  rcases hfits with rfl | ⟨rfl, -⟩ | ⟨rfl, -, -⟩
  · rfl
  · rfl
  · rfl

/-- The run directory is the last piece before the name that is not void, unless it is a `..`. -/
lemma runDirectory?_of_cons {run : Text} {rest : List Text} (h : IsSpelling lead (name :: before))
    (hname : isVoid name = false) (hbefore : before.dropWhile isVoid = run :: rest) :
    (ofBackPieces lead (name :: before)).runDirectory?
      = if run = ['.', '.'] then none
        else some (ofBackPieces lead (rest.dropWhile isVoid), run) := by
  have hsuffix := suffix_of_dropWhile name hbefore
  have hrun := isVoid_of_dropWhile hbefore
  have hspelling := h.of_suffix hsuffix (by simp)
  have hne : (ofBackPieces lead (run :: rest)).text.isEmpty = false := by
    have hchars : run ≠ [] := by
      rintro rfl
      cases hrun
    rw [← Bool.not_eq_true, String.isEmpty_iff, ← String.toList_inj, toList_ofBackPieces_cons]
    simp [hchars]
  unfold runDirectory?
  rw [parent?_ofBackPieces h hname, hbefore]
  simp only [bind, Option.bind_some, hne, Bool.false_eq_true, if_false,
    parent?_ofBackPieces hspelling hrun, fileName?_ofBackPieces hspelling hrun]
  split_ifs
  · rfl
  · rfl

/-- An input without a run directory is renamed. -/
lemma defaultOutput_of_no_runDirectory (h : IsSpelling lead (name :: before))
    (hname : isVoid name = false) (hup : name ≠ ['.', '.'])
    (hnone : (ofBackPieces lead (name :: before)).runDirectory? = none) (extension : String) :
    (ofBackPieces lead (name :: before)).defaultOutput extension
      = ofBackPieces lead (renamed name extension :: before) := by
  unfold defaultOutput
  rw [hnone]
  exact withExtension_ofBackPieces h hname hup extension

/-- The output of an input with a run directory stands beside that directory. -/
lemma exists_defaultOutput_of_runDirectory {root : Path} {run : Text} {extension : String}
    (h : IsSpelling lead (name :: before)) (hname : isVoid name = false)
    (hsome : (ofBackPieces lead (name :: before)).runDirectory? = some (root, run))
    (hextension : '/' ∉ extension.toList) :
    ∃ rest firsts, before.dropWhile isVoid = run :: rest ∧ run ≠ ['.', '.'] ∧
      firsts.dropWhile isVoid = rest.dropWhile isVoid ∧
      IsSpelling lead ((run ++ '.' :: extension.toList) :: firsts) ∧
      (ofBackPieces lead (name :: before)).defaultOutput extension
        = ofBackPieces lead ((run ++ '.' :: extension.toList) :: firsts) := by
  rcases hbefore : before.dropWhile isVoid with - | ⟨run', rest⟩
  · rw [runDirectory?_of_void h hname hbefore] at hsome
    cases hsome
  · have hdirectory := runDirectory?_of_cons h hname hbefore
    rw [hsome] at hdirectory
    split_ifs at hdirectory with hup
    cases hdirectory
    have hsuffix := suffix_of_dropWhile name hbefore
    have hslash : '/' ∉ run ++ '.' :: extension.toList := by
      have hrun := h.no_slash run (hsuffix.subset List.mem_cons_self)
      simp [hrun, hextension]
    have hfile : String.ofList run ++ "." ++ extension
        = String.ofList (run ++ '.' :: extension.toList) := by
      rw [← String.toList_inj]
      simp
    obtain ⟨firsts, hspelling, hfirsts, hjoin⟩ := join_ofBackPieces h
      ((List.dropWhile_suffix isVoid).trans ((List.suffix_cons run rest).trans hsuffix))
      (List.dropWhile_idempotent isVoid rest) hslash
      (isVoid_append (isVoid_of_dropWhile hbefore) _)
    refine ⟨rest, firsts, rfl, hup, hfirsts, hspelling, ?_⟩
    unfold defaultOutput
    rw [hsome, ← hjoin]
    dsimp only
    rw [hfile]

end SolverInput.Path
