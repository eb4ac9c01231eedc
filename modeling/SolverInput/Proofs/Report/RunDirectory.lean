import SolverInput.Proofs.Files.Components

/-!
# Outputs by the components of their inputs

The default output is put together from parents, names, joining and renaming, each with its own
rules for slashes and dots. By components it is plain. If the second last component of the input is
a name, it is the run directory, and the name of the run with the extension stands in the place of
the two last components (`IsRunDirectory.components_defaultOutput`); two runs share their output
exactly if they share their directory (`IsRunDirectory.defaultOutput_eq_iff`). Otherwise the file
name gets the extension in its place (`components_defaultOutput_of_file`). So the output depends on
the components of the input alone (`components_defaultOutput_congr`).

The one proviso is about file names that start with two dots: without a run directory, cutting off
the extension of `..x` leaves a step to the parent.
-/

namespace SolverInput.Path

variable {input directory : Path} {run name : Text} {extension : String}

/-! ## Run directories -/

/-- The input stands in the directory of a run: its parent is not empty and ends in the name of the
run. -/
structure IsRunDirectory (input directory : Path) (run : Text) : Prop where
  parent : input.parent? = some directory
  not_empty : directory.text ≠ ""
  last : directory.components.getLast? = some (.name run)

/-- An empty parent makes no difference, as it has no parent itself. -/
lemma runDirectory?_of_parent (h : input.parent? = some directory) :
    input.runDirectory?
      = directory.parent?.bind fun root => directory.fileName?.map fun run => (root, run) := by
  unfold runDirectory?
  rw [h]
  by_cases hempty : directory.text = ""
  · have hdirectory : directory = ⟨""⟩ := ext (by rw [hempty])
    rw [hdirectory]
    rfl
  · have hfalse : directory.text.isEmpty = false := by simpa using hempty
    simp only [bind, Option.bind_some, hfalse, Bool.false_eq_true, if_false]
    cases directory.parent? with
    | none => rfl
    | some root =>
      cases directory.fileName? with
      | none => rfl
      | some run => rfl

lemma isRunDirectory_of_fileName? (hparent : input.parent? = some directory)
    (hrun : directory.fileName? = some run) : IsRunDirectory input directory run := by
  have hlast := fileName?_eq_some_iff.1 hrun
  refine ⟨hparent, ?_, hlast⟩
  intro hempty
  rw [components_eq_nil_iff.2 hempty] at hlast
  cases hlast

/-- The output of a run stands beside its directory. -/
lemma IsRunDirectory.components_defaultOutput (h : IsRunDirectory input directory run)
    (hextension : extension ≠ "") (hslash : '/' ∉ extension.toList) :
    ∃ root, directory.parent? = some root ∧ directory.components = root.components ++ [.name run] ∧
      (input.defaultOutput extension).components
        = root.components ++ [.name (run ++ '.' :: extension.toList)] := by
  have hrun := fileName?_eq_some_iff.2 h.last
  obtain ⟨root, hroot, hconcat⟩ := exists_parent?_of_fileName? hrun
  refine ⟨root, hroot, hconcat, ?_⟩
  have hsome : input.runDirectory? = some (root, run) := by
    rw [runDirectory?_of_parent h.parent, hroot, hrun]
    rfl
  have hfile : String.ofList run ++ "." ++ extension
      = String.ofList (run ++ '.' :: extension.toList) := by
    rw [← String.toList_inj]
    simp
  obtain ⟨hpiece, hvoid⟩ := isPiece_of_fileName? hrun
  have hne : run ≠ [] := by
    rintro rfl
    cases hvoid
  have hchars : extension.toList ≠ [] := by simpa using hextension
  unfold defaultOutput
  rw [hsome]
  dsimp only
  rw [hfile, components_join root (by simp [hpiece, hslash]) (isVoid_append_dot hne _),
    Component.ofPiece, if_neg (ne_up_of_append_dot hne hchars)]

lemma concat_name_inj {above above' : List Component} {name' : Text} :
    above ++ [.name name] = above' ++ [.name name'] ↔ above = above' ∧ name = name' := by
  rw [List.append_singleton_inj, Component.name.injEq]

/-- Runs share their output exactly if they share their directory. -/
lemma IsRunDirectory.defaultOutput_eq_iff {other directory' : Path} {run' : Text}
    (h : IsRunDirectory input directory run) (h' : IsRunDirectory other directory' run')
    (hextension : extension ≠ "") (hslash : '/' ∉ extension.toList) :
    (other.defaultOutput extension).components = (input.defaultOutput extension).components ↔
      directory'.components = directory.components := by
  obtain ⟨root, -, hdirectory, houtput⟩ := h.components_defaultOutput hextension hslash
  obtain ⟨root', -, hdirectory', houtput'⟩ := h'.components_defaultOutput hextension hslash
  rw [houtput, houtput', hdirectory, hdirectory', concat_name_inj, concat_name_inj,
    List.append_cancel_right_eq]

/-- A path with the same components has its run directory in the same place. -/
lemma IsRunDirectory.exists_of_components_eq {other : Path}
    (h : IsRunDirectory input directory run) (hsame : other.components = input.components) :
    ∃ directory', IsRunDirectory other directory' run ∧
      directory'.components = directory.components := by
  rcases parent?_cases input with ⟨hnone, -⟩ | ⟨parent, last, hparent, hconcat⟩
  · rw [h.parent] at hnone
    cases hnone
  · rw [h.parent] at hparent
    cases hparent
    rcases parent?_cases other with ⟨-, hshort⟩ | ⟨directory', last', hparent', hconcat'⟩
    · -- the input has a component before its last one
      obtain ⟨above, habove⟩ := List.getLast?_eq_some_iff.1 h.last
      rw [hsame, hconcat, habove] at hshort
      rcases hshort with hnil | hroot
      · simp at hnil
      · have hlength := congrArg List.length hroot
        simp at hlength
    · rw [hsame, hconcat] at hconcat'
      have hdirectory := (List.append_inj' hconcat' rfl).1
      refine ⟨directory', isRunDirectory_of_fileName? hparent' ?_, hdirectory.symm⟩
      rw [fileName?_eq_some_iff, ← hdirectory]
      exact h.last

/-! ## Inputs without a run directory -/

lemma runDirectory?_eq_none (h : ∀ directory run, ¬IsRunDirectory input directory run) :
    input.runDirectory? = none := by
  cases hparent : input.parent? with
  | none =>
    unfold runDirectory?
    rw [hparent]
    rfl
  | some directory =>
    rw [runDirectory?_of_parent hparent]
    cases hrun : directory.fileName? with
    | none =>
      cases directory.parent? with
      | none => rfl
      | some root => rfl
    | some run => exact absurd (isRunDirectory_of_fileName? hparent hrun) (h directory run)

/-- Without a run directory the output is the input with its file name renamed. -/
lemma components_defaultOutput_of_file (h : ∀ directory run, ¬IsRunDirectory input directory run)
    (hextension : extension ≠ "") (hslash : '/' ∉ extension.toList)
    (hname : input.fileName? = some name) (hdots : ¬['.', '.'] <+: name) :
    (input.defaultOutput extension).components = input.components.dropLast
      ++ [.name ((splitExtension name).1 ++ '.' :: extension.toList)] := by
  unfold defaultOutput
  rw [runDirectory?_eq_none h]
  exact components_withExtension hextension hslash hname hdots

/-- Inputs with the same components have outputs with the same components. -/
lemma components_defaultOutput_congr {other : Path} (hextension : extension ≠ "")
    (hslash : '/' ∉ extension.toList)
    (hdots : ∀ name, input.fileName? = some name → ¬['.', '.'] <+: name)
    (hsame : other.components = input.components) :
    (other.defaultOutput extension).components = (input.defaultOutput extension).components := by
  have hfile : other.fileName? = input.fileName? := by
    ext name
    rw [fileName?_eq_some_iff, fileName?_eq_some_iff, hsame]
  by_cases hrun : ∃ directory run, IsRunDirectory input directory run
  · obtain ⟨directory, run, hrun⟩ := hrun
    obtain ⟨directory', hrun', hdirectory⟩ := hrun.exists_of_components_eq hsame
    exact (hrun.defaultOutput_eq_iff hrun' hextension hslash).2 hdirectory
  · have hnone : ∀ directory run, ¬IsRunDirectory input directory run :=
      fun directory run h => hrun ⟨directory, run, h⟩
    have hnone' : ∀ directory run, ¬IsRunDirectory other directory run := by
      intro directory run h
      obtain ⟨directory', hrun', -⟩ := h.exists_of_components_eq hsame.symm
      exact hnone directory' run hrun'
    cases hname : input.fileName? with
    | some name =>
      rw [components_defaultOutput_of_file hnone hextension hslash hname (hdots name hname),
        components_defaultOutput_of_file hnone' hextension hslash (hfile.trans hname)
          (hdots name hname), hsame]
    | none =>
      unfold defaultOutput
      rw [runDirectory?_eq_none hnone, runDirectory?_eq_none hnone']
      dsimp only
      rw [withExtension_of_no_fileName hname, withExtension_of_no_fileName (hfile.trans hname),
        hsame]

/-! ## The default output -/

/-- **Where an extraction is written.** For an extension that is not empty and holds no slash, and
an input whose file name does not start with two dots:

* an input in a run directory is written beside that directory, under the name of the run with the
  extension added, and no other run directory has this output;
* any other input that has a file name is written in its own directory, which is not given, or is
  `/`, `.` or ends in `..`, and its name gets the extension in the place of what follows the stem;
* repeated slashes, inner dots and slashes at the end of the input are not seen in the output. -/
theorem defaultOutput_by_components (input : Path) (extension : String)
    (hextension : extension ≠ "") (hslash : '/' ∉ extension.toList)
    (hdots : ∀ name, input.fileName? = some name → ¬['.', '.'] <+: name) :
    let output := (input.defaultOutput extension).components
    (∀ directory run, IsRunDirectory input directory run →
      (∃ root, directory.parent? = some root ∧
        directory.components = root.components ++ [.name run] ∧
        output = root.components ++ [.name (run ++ '.' :: extension.toList)]) ∧
      ∀ other directory' run', IsRunDirectory other directory' run' →
        ((other.defaultOutput extension).components = output ↔
          directory'.components = directory.components)) ∧
    ((∀ directory run, ¬IsRunDirectory input directory run) →
      ∀ name, input.fileName? = some name →
        ∃ directory stem, input.parent? = some directory ∧ IsStem stem name ∧
          (directory.text = "" ∨ directory.components = [.root] ∨
            directory.components = [.here] ∨ directory.components.getLast? = some .up) ∧
          output = directory.components ++ [.name (stem ++ '.' :: extension.toList)]) ∧
    ∀ other : Path, Relation.EqvGen Respelled input.text.toList other.text.toList →
      (other.defaultOutput extension).components = output := by
  intro output
  refine ⟨fun directory run hrun => ⟨?_, ?_⟩, fun hnone name hname => ?_, fun other hother => ?_⟩
  · exact hrun.components_defaultOutput hextension hslash
  · intro other directory' run' hrun'
    exact hrun.defaultOutput_eq_iff hrun' hextension hslash
  · obtain ⟨directory, hparent, hconcat⟩ := exists_parent?_of_fileName? hname
    have hno : directory.fileName? = none := by
      by_contra hsome
      obtain ⟨run, hrun⟩ := Option.ne_none_iff_exists'.1 hsome
      exact hnone directory run (isRunDirectory_of_fileName? hparent hrun)
    refine ⟨directory, (splitExtension name).1, hparent, isStem_splitExtension name, ?_, ?_⟩
    · rw [← components_eq_nil_iff]
      exact components_of_no_fileName hno
    · show (input.defaultOutput extension).components = _
      rw [components_defaultOutput_of_file hnone hextension hslash hname (hdots name hname),
        hconcat, List.dropLast_concat]
  · exact components_defaultOutput_congr hextension hslash hdots (components_eq_of_respelled hother)

/-- A report in a run directory whose name has a dot, and a hidden file beside the working
directory. -/
theorem defaultOutput_by_components_dotted_run :
    (let input : Path := ⟨"data/run.2/./report.txt/"⟩
      let other : Path := ⟨"data//run.2/./report.txt/"⟩
      (input.defaultOutput "mindes").components
          = [.name "data".toList, .name "run.2.mindes".toList] ∧
        (other.defaultOutput "mindes").components = (input.defaultOutput "mindes").components) ∧
    ((⟨"../.notes.tar.gz/"⟩ : Path).defaultOutput "mindes").components
      = [.up, .name ".notes.tar.mindes".toList] := by
  have hdots (input : Path) (file : Text) (hfile : input.fileName? = some file)
      (hfile' : ¬['.', '.'] <+: file) :
      ∀ name, input.fileName? = some name → ¬['.', '.'] <+: name := by
    intro name hname
    rw [hfile] at hname
    cases hname
    exact hfile'
  refine ⟨?_, ?_⟩
  · intro input other
    obtain ⟨hrun, -, hsame⟩ := defaultOutput_by_components input "mindes" (by decide) (by decide)
      (hdots input "report.txt".toList (by decide +kernel) (by decide +kernel))
    obtain ⟨⟨root, hroot, -, houtput⟩, -⟩ := hrun ⟨"data/run.2"⟩ "run.2".toList
      ⟨by decide +kernel, by decide, by decide +kernel⟩
    have hdata : root = ⟨"data"⟩ := Option.some.inj (hroot.symm.trans (by decide +kernel))
    have hdouble : Respelled input.text.toList other.text.toList := by
      have hinput : input.text.toList = "data".toList ++ '/' :: "run.2/./report.txt/".toList := by
        decide +kernel
      have hother : other.text.toList
          = "data".toList ++ '/' :: '/' :: "run.2/./report.txt/".toList := by
        decide +kernel
      rw [hinput, hother]
      exact .slash _ _
    refine ⟨?_, hsame other (.rel _ _ hdouble)⟩
    rw [houtput, hdata]
    decide +kernel
  · have hname : (⟨"../.notes.tar.gz/"⟩ : Path).fileName? = some ".notes.tar.gz".toList := by
      decide +kernel
    obtain ⟨-, hfile, -⟩ := defaultOutput_by_components ⟨"../.notes.tar.gz/"⟩ "mindes" (by decide)
      (by decide) (hdots _ _ hname (by decide +kernel))
    have hnone : ∀ directory run, ¬IsRunDirectory ⟨"../.notes.tar.gz/"⟩ directory run := by
      intro directory run hrun
      have hparent : directory = ⟨".."⟩ :=
        Option.some.inj (hrun.parent.symm.trans (by decide +kernel))
      have hlast := hrun.last
      rw [hparent] at hlast
      cases hlast.symm.trans (show (⟨".."⟩ : Path).components.getLast? = some .up by decide +kernel)
    obtain ⟨directory, stem, hparent, hstem, -, houtput⟩ := hfile hnone _ hname
    have hup : directory = ⟨".."⟩ := Option.some.inj (hparent.symm.trans (by decide +kernel))
    rw [houtput, hup, hstem.eq]
    decide +kernel

/-- A name that starts with two dots is renamed differently with a slash behind it. -/
example : (⟨"..x"⟩ : Path).defaultOutput "m" = ⟨".."⟩ ∧
    (⟨"..x/"⟩ : Path).defaultOutput "m" = ⟨"..m"⟩ := by
  decide +kernel

end SolverInput.Path
