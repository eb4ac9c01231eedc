import SolverInput.Proofs.Files.Path
import SolverInput.Proofs.Files.Tree
import SolverInput.Proofs.Report.Extract

/-!
# The input survives its extraction

Without an output of its own, a request writes to the default output, and the question is whether
that is the input again. As paths, the two are the same exactly if the input has no run directory
and its name has the extension already (`defaultOutput_eq_self_iff`). Two paths can also lead to one
file; here they do not, because the places differ:

* the output of a run stands beside the run directory, one level above the input;
* an input that is renamed stays in its directory and gets another name there.

Both need an extension without a slash, which is one piece of the path together with the name.
-/

namespace SolverInput

namespace Path

variable {lead lead' name : Text} {back back' before : List Text}

/-! ## When the default output is the input -/

/-- A path is spelled in one way. -/
lemma IsSpelling.unique (h : IsSpelling lead back) (h' : IsSpelling lead' back')
    (heq : ofBackPieces lead back = ofBackPieces lead' back') : back = back' := by
  have hsplit := splitLead_ofBackPieces h
  rw [heq, splitLead_ofBackPieces h', Prod.mk.injEq] at hsplit
  have hpieces := splitOn_intercalate_reverse h
  rw [← hsplit.2, splitOn_intercalate_reverse h', List.reverse_inj] at hpieces
  exact hpieces.symm

/-- The default output is the input itself exactly if the input has no run directory and its name
has the extension. -/
lemma defaultOutput_eq_self_iff {extension : String} (h : IsSpelling lead (name :: before))
    (hname : isVoid name = false) (hup : name ≠ ['.', '.'])
    (hextension : '/' ∉ extension.toList) :
    (ofBackPieces lead (name :: before)).defaultOutput extension
        = ofBackPieces lead (name :: before) ↔
      (ofBackPieces lead (name :: before)).runDirectory? = none ∧
        HasExtension name extension := by
  rcases hrun : (ofBackPieces lead (name :: before)).runDirectory? with - | ⟨root, run⟩
  · rw [defaultOutput_of_no_runDirectory h hname hup hrun, ← renamed_eq_self_iff hup]
    constructor
    · intro heq
      have htext := congrArg (fun path => path.text.toList) heq
      simp only [toList_ofBackPieces_cons, List.append_cancel_left_eq] at htext
      exact ⟨rfl, htext⟩
    · rintro ⟨-, hsame⟩
      rw [hsame]
  · obtain ⟨rest, firsts, hbefore, -, hfirsts, hspelling, houtput⟩ :=
      exists_defaultOutput_of_runDirectory h hname hrun hextension
    constructor
    · intro heq
      -- the output would have to have one piece less
      rw [houtput] at heq
      have hback := (List.cons.inj (hspelling.unique h heq)).2
      have hlength := (List.dropWhile_suffix isVoid (l := rest)).length_le
      rw [← hfirsts, hback, hbefore, List.length_cons] at hlength
      omega
    · rintro ⟨hnone, -⟩
      cases hnone

end Path

namespace FileTree

variable {files : FileTree} {lead name : Text} {back before : List Text}

/-! ## Where spelled paths lead -/

/-- Where a path with this lead starts. -/
def base (files : FileTree) (lead : Text) : Place :=
  if lead = ['/'] then [] else files.workingDirectory

lemma reachable_base (files : FileTree) (lead : Text) : files.Reachable (files.base lead) := by
  unfold base
  split_ifs
  · exact files.reachable_nil
  · exact files.reachable_workingDirectory

/-- A path leads where its pieces lead from its lead. -/
lemma follow_of_resolve {place : Place} (h : Path.IsSpelling lead back)
    (hresolve : files.resolve (Path.ofBackPieces lead back) = .ok place) :
    files.follow (files.base lead) back.reverse = .ok place := by
  obtain ⟨⟨start, pieces⟩, hstart, hfollow⟩ := Except.bind_eq_ok_iff.1 hresolve
  obtain ⟨-, rfl, rfl⟩ := eq_of_start hstart
  dsimp only at hfollow
  obtain ⟨first, hfirst, hfits⟩ := h.lead_fits
  rw [← List.head?_reverse] at hfirst
  obtain ⟨more, hmore⟩ := List.head?_eq_some_iff.1 hfirst
  have hslash : ∀ piece ∈ first :: more, '/' ∉ piece := by
    rw [← hmore]
    intro piece hpiece
    exact h.no_slash piece (List.mem_reverse.1 hpiece)
  have hpieces := Path.splitOn_intercalate_reverse h
  rw [Path.ofBackPieces, String.toList_ofList, hmore] at hfollow
  rw [hmore] at hpieces ⊢
  rcases hfits with rfl | ⟨rfl, rfl⟩ | ⟨rfl, hempty, -⟩
  · -- a slash ends an empty piece, which stays at the root
    rw [List.singleton_append, if_pos (by simp), show
      ('/' :: List.intercalate ['/'] (first :: more)).splitOn '/' = [] :: first :: more by
        rw [← List.nil_append ('/' :: _), List.splitOn_append_cons_self_of_not_mem (by simp),
          hpieces], follow_void files.entry?_nil rfl] at hfollow
    exact hfollow
  · -- the leading dot and the empty piece after it both stay in the working directory
    have hdot : ['.'] ++ List.intercalate ['/'] ([] :: more)
        = List.intercalate ['/'] (['.'] :: more) := by
      cases more with
      | nil => simp
      | cons next more =>
        rw [List.intercalate_cons_cons, List.intercalate_cons_cons]
        simp
    have hhead : (List.intercalate ['/'] (['.'] :: more)).head? = some '.' := by
      rw [← hdot]
      rfl
    rw [hdot, hhead, if_neg (by decide), List.splitOn_intercalate _ (by simpa using hslash)
      (by simp), follow_void files.entry?_workingDirectory rfl] at hfollow
    show files.follow files.workingDirectory ([] :: more) = .ok place
    rw [follow_void files.entry?_workingDirectory rfl]
    exact hfollow
  · -- the first piece starts with a character that is no slash
    obtain ⟨rest, hrest, -⟩ := Path.exists_intercalate_cons first more
    have hhead : (List.intercalate ['/'] (first :: more)).head? ≠ some '/' := by
      obtain ⟨c, cs, rfl⟩ := List.exists_cons_of_ne_nil hempty
      rw [hrest]
      intro hc
      cases hc
      exact hslash _ List.mem_cons_self List.mem_cons_self
    rw [List.nil_append, if_neg hhead, hpieces] at hfollow
    exact hfollow

/-- One piece leads to the place itself, to the place above or to an entry of the place. -/
lemma follow_piece_cases {place target : Place} {piece : Text}
    (h : files.follow place [piece] = .ok target) :
    target = place ∨ target = place.dropLast ∨ target = place ++ [piece] := by
  rw [follow] at h
  obtain ⟨_, -, h⟩ := Except.bind_eq_ok_iff.1 h
  split_ifs at h
  · cases h
    exact Or.inl rfl
  · cases h
    exact Or.inr (Or.inl rfl)
  · cases h
    exact Or.inr (Or.inr rfl)

lemma length_le_of_follow {place target : Place} {piece : Text}
    (h : files.follow place [piece] = .ok target) : target.length ≤ place.length + 1 := by
  rcases follow_piece_cases h with rfl | rfl | rfl
  · omega
  · rw [List.length_dropLast]
    omega
  · simp

/-- An entry of a directory is found under its own name only. -/
lemma eq_of_follow_eq_concat {directory : Place} {piece : Text}
    (h : files.follow directory [piece] = .ok (directory ++ [name])) : piece = name := by
  rcases follow_piece_cases h with heq | heq | heq
  · have hlength := congrArg List.length heq
    simp at hlength
  · have hlength := congrArg List.length heq
    rw [List.length_append, List.length_dropLast, List.length_singleton] at hlength
    omega
  · simpa using heq.symm

/-! ## The places of input and output -/

/-- The path of a file that can be read is spelled with the name of the file at the end, and the
pieces before it lead to the directory. -/
lemma exists_isSpelling_of_read {input : Path} {content : ByteArray}
    (h : files.read input = .ok content) :
    ∃ lead name before directory, input = Path.ofBackPieces lead (name :: before) ∧
      Path.IsSpelling lead (name :: before) ∧ IsFileName name ∧
      files.follow (files.base lead) before.reverse = .ok directory ∧
      files.resolve input = .ok (directory ++ [name]) := by
  obtain ⟨place, hresolve, hfile⟩ := read_eq_ok_iff.1 h
  obtain ⟨⟨start, pieces⟩, hstart, -⟩ := Except.bind_eq_ok_iff.1 hresolve
  have hne : input.text ≠ "" := by simpa using (eq_of_start hstart).1
  obtain ⟨lead, back, hspelling, rfl⟩ := Path.exists_isSpelling hne
  obtain ⟨name, before, rfl⟩ := List.exists_cons_of_ne_nil hspelling.ne_nil
  have hfollow := follow_of_resolve hspelling hresolve
  rw [List.reverse_cons] at hfollow
  obtain ⟨directory, hbefore, -, hname, rfl⟩ :=
    exists_of_follow_file (files.reachable_base lead) hfollow hfile
  exact ⟨lead, name, before, directory, rfl, hspelling, hname, hbefore, hresolve⟩

/-- An output beside the run directory is not inside it. -/
lemma resolve_ne_of_runDirectory {run file : Text} {rest firsts : List Text} {directory : Place}
    (hfollow : files.follow (files.base lead) before.reverse = .ok directory)
    (hbefore : before.dropWhile Path.isVoid = run :: rest) (hup : run ≠ ['.', '.'])
    (hfirsts : firsts.dropWhile Path.isVoid = rest.dropWhile Path.isVoid)
    (hspelling : Path.IsSpelling lead (file :: firsts)) :
    files.resolve (Path.ofBackPieces lead (file :: firsts)) ≠ .ok (directory ++ [name]) := by
  intro hresolve
  have hrun := follow_dropWhile hfollow
  rw [hbefore, List.reverse_cons] at hrun
  obtain ⟨root, hroot, -, hlast⟩ := exists_of_follow_concat hrun
  obtain ⟨rfl, -⟩ := eq_concat_of_follow hlast (Path.isVoid_of_dropWhile hbefore) hup
  have houtput := follow_of_resolve hspelling hresolve
  rw [List.reverse_cons] at houtput
  obtain ⟨root', hroot', -, hfile⟩ := exists_of_follow_concat houtput
  -- input and output start from the same directory, the one above the run directory
  have hsame := follow_dropWhile hroot'
  rw [hfirsts, follow_dropWhile hroot] at hsame
  cases hsame
  have hlength := length_le_of_follow hfile
  rw [List.length_append, List.length_append, List.length_singleton, List.length_singleton]
    at hlength
  omega

/-- An input that gets another name is another file. -/
lemma resolve_ne_of_rename {other : Text} {directory : Place}
    (hfollow : files.follow (files.base lead) before.reverse = .ok directory)
    (hspelling : Path.IsSpelling lead (other :: before)) (hother : other ≠ name) :
    files.resolve (Path.ofBackPieces lead (other :: before)) ≠ .ok (directory ++ [name]) := by
  intro hresolve
  have houtput := follow_of_resolve hspelling hresolve
  rw [List.reverse_cons] at houtput
  obtain ⟨directory', hdirectory', -, hlast⟩ := exists_of_follow_concat houtput
  rw [hfollow] at hdirectory'
  cases hdirectory'
  exact hother (eq_of_follow_eq_concat hlast)

/-- The default output of a file that can be read is another file, unless it is the same path. -/
lemma resolve_defaultOutput_ne {input : Path} {content : ByteArray} {extension : String}
    {place : Place} (h : files.read input = .ok content) (hextension : '/' ∉ extension.toList)
    (hne : input.defaultOutput extension ≠ input)
    (hplace : files.resolve input = .ok place) :
    files.resolve (input.defaultOutput extension) ≠ .ok place := by
  obtain ⟨lead, name, before, directory, rfl, hspelling, hname, hfollow, hresolve⟩ :=
    exists_isSpelling_of_read h
  rw [hresolve] at hplace
  cases hplace
  rcases hrun : (Path.ofBackPieces lead (name :: before)).runDirectory? with - | ⟨root, run⟩
  · have houtput := Path.defaultOutput_of_no_runDirectory hspelling hname.not_void hname.not_up hrun
      extension
    rw [houtput] at hne ⊢
    refine resolve_ne_of_rename hfollow ?_ ?_
    · exact hspelling.rename (by rintro rfl; cases hname.not_void)
        (Path.slash_not_mem_renamed (hspelling.no_slash name List.mem_cons_self) hextension)
        (Path.isVoid_renamed hname.not_void extension)
    · intro hsame
      exact hne (by rw [hsame])
  · obtain ⟨rest, firsts, hbefore, hup, hfirsts, hout, houtput⟩ :=
      Path.exists_defaultOutput_of_runDirectory hspelling hname.not_void hrun hextension
    rw [houtput]
    exact resolve_ne_of_runDirectory hfollow hbefore hup hfirsts hout

/-- The default output of a file that can be read is that file's own path exactly if the file has no
run directory and its name has the extension. -/
lemma defaultOutput_eq_iff_of_read {input : Path} {content : ByteArray} {extension : String}
    (h : files.read input = .ok content) (hextension : '/' ∉ extension.toList) :
    input.defaultOutput extension = input ↔ input.runDirectory? = none ∧
      ∃ name, input.fileName? = some name ∧ Path.HasExtension name extension := by
  obtain ⟨lead, name, before, directory, rfl, hspelling, hname, -, -⟩ :=
    exists_isSpelling_of_read h
  rw [Path.defaultOutput_eq_self_iff hspelling hname.not_void hname.not_up hextension,
    Path.fileName?_ofBackPieces hspelling hname.not_void, if_neg hname.not_up]
  simp only [Option.some.injEq, exists_eq_left']

end FileTree

namespace ExtractRequest

/-- The files after a request. -/
def filesAfter (request : ExtractRequest) (extension : String) (files : FileTree) : FileTree :=
  match request.run extension files with
  | .ok _ written => written
  | .error _ left => left

/-- A request whose output is not the place of a file leaves that file as it was. -/
lemma loadReport_filesAfter (request : ExtractRequest) (extension : String) {files : FileTree}
    {path : Path} {text : Text} {place : Place} (hload : files.loadReport path = .ok text)
    (hplace : files.resolve path = .ok place)
    (hne : files.resolve (request.outputPath extension) ≠ .ok place) :
    (request.filesAfter extension files).loadReport path = .ok text := by
  unfold filesAfter
  split
  · rename_i outcome written hrun
    obtain ⟨report, -, rfl, hwrite⟩ := run_eq_ok_iff.1 hrun
    obtain ⟨target, htarget, -⟩ := FileTree.exists_of_write hwrite
    have hother : files.resolve path ≠ .ok target := by
      intro hsame
      apply hne
      rw [← hplace, hsame]
      exact FileTree.resolve_of_target htarget
    rw [FileTree.loadReport_eq_ok_iff] at hload ⊢
    exact (FileTree.readText_write_of_ne hwrite htarget hother text).2 hload
  · rename_i error left hrun
    rw [run_atomic request extension files error left hrun]
    exact hload

/-- A request that writes over its own input leaves the extraction there. -/
lemma loadReport_filesAfter_self {request : ExtractRequest} {extension : String}
    {files : FileTree} {text : Text} {place : Place}
    (hload : files.loadReport request.input = .ok text)
    (hsame : request.outputPath extension = request.input)
    (htarget : files.target request.input = .ok place) :
    (request.filesAfter extension files).loadReport request.input
      = .ok (request.extraction text).render := by
  rw [← hsame] at htarget
  obtain ⟨outcome, written, hrun⟩ := exists_run_eq_ok_iff.2 ⟨⟨text, hload⟩, place, htarget⟩
  obtain ⟨rfl, hwritten⟩ := readText_of_run hload hrun
  unfold filesAfter
  rw [hrun, FileTree.loadReport_eq_ok_iff, ← hwritten]
  exact congrArg _ hsame.symm

/-- **Extraction keeps its source.** A request that names no output changes its input only if the
default output leads to the place of the input. With an extension that holds no slash this is so
exactly if the default output is the input path itself, which means that the input has no run
directory and its name has the extension already; the input is then replaced by its own
extraction. -/
theorem run_keeps_input (files : FileTree) (kind : ExtractKind) (input : Path)
    (extension : String) (text : Text) (hload : files.loadReport input = .ok text) :
    let request : ExtractRequest := ⟨kind, input, none⟩
    let after := request.filesAfter extension files
    let output := input.defaultOutput extension
    (files.resolve output ≠ files.resolve input → after.loadReport input = .ok text) ∧
    ('/' ∉ extension.toList →
      (output = input ↔ input.runDirectory? = none ∧
        ∃ name, input.fileName? = some name ∧ Path.HasExtension name extension) ∧
      (output ≠ input → after.loadReport input = .ok text) ∧
      (output = input →
        after.loadReport input = .ok ((Report.ofText text).extract kind).render)) := by
  intro request after output
  obtain ⟨content, hread, -⟩ := Except.bind_eq_ok_iff.1 (FileTree.loadReport_eq_ok_iff.1 hload)
  obtain ⟨place, hplace, htarget⟩ := FileTree.target_of_read hread
  have hkept : files.resolve output ≠ .ok place → after.loadReport input = .ok text :=
    loadReport_filesAfter request extension hload hplace
  refine ⟨fun hne => hkept (hplace ▸ hne), fun hextension => ⟨?_, ?_, ?_⟩⟩
  · exact FileTree.defaultOutput_eq_iff_of_read hread hextension
  · intro hne
    exact hkept (FileTree.resolve_defaultOutput_ne hread hextension hne hplace)
  · intro hsame
    exact loadReport_filesAfter_self hload hsame htarget

/-- A report that has the extension already is kept if it stands in a run directory. -/
theorem run_keeps_input_in_run_directory :
    let text := "> [Solver] a = 1\nx".toList
    let input : Path := ⟨"run/in.mindes"⟩
    let files := FileTree.install {} input (.file (Text.toBytes text))
    let request : ExtractRequest := ⟨.full, input, none⟩
    files.loadReport input = .ok text ∧ input.defaultOutput "mindes" ≠ input ∧
      (request.filesAfter "mindes" files).loadReport input = .ok text := by
  intro text input files request
  have hload : files.loadReport input = .ok text := by decide +kernel
  have hne : input.defaultOutput "mindes" ≠ input := by decide +kernel
  obtain ⟨-, hslash⟩ := run_keeps_input files .full input "mindes" text hload
  exact ⟨hload, hne, (hslash (by decide)).2.1 hne⟩

/-- Not every input is kept. A bare report that has the extension already is its own output, and an
extension with a slash can lead from the run directory back to the input: both files are replaced by
their extraction. -/
theorem run_replaces_input :
    let text := "> [Solver] a = 1\nx".toList
    (let input : Path := ⟨"input_report.mindes"⟩
      let files := FileTree.install {} input (.file (Text.toBytes text))
      let request : ExtractRequest := ⟨.full, input, none⟩
      files.loadReport input = .ok text ∧ input.defaultOutput "mindes" = input ∧
        (request.filesAfter "mindes" files).loadReport input = .ok "a = 1".toList) ∧
    (let input : Path := ⟨"r/i"⟩
      let files :=
        (FileTree.install {} input (.file (Text.toBytes text))).install ⟨"r.x"⟩ .directory
      let request : ExtractRequest := ⟨.full, input, none⟩
      files.loadReport input = .ok text ∧
        (request.filesAfter "x/../r/i" files).loadReport input = .ok "a = 1".toList) := by
  decide +kernel

end ExtractRequest

end SolverInput
