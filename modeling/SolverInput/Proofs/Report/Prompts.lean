import SolverInput.Proofs.CommandLine.Extract
import SolverInput.Proofs.Report.Account
import SolverInput.Proofs.Report.Views
import Mathlib.Data.List.Basic

/-!
# The full input of a document

Whether a line is a prompt is asked twice: by the reader that files it, and by the view that reads
its text. Both ask the line alone, so a line that is filed as a prompt is never malformed afterwards.
In closed form, the prompts of a document are the prompts among the lines that are not passed over
(`get_prompts_ofLines`), and the full input is what these lines say.

On the command line this leaves nothing for the flag `--strict` to do when the full input is
extracted (`rows_of_full`).
-/

namespace SolverInput

/-- The lines of a document that are not passed over. -/
def Reading.readLines (R : Reading) : List Text :=
  R.pick fun i => R.skipped i = false

/-- Among the lines that are read, the line alone decides whether it is kept as a prompt. -/
lemma Reading.pick_keptAsPrompt (R : Reading) :
    R.pick R.KeptAsPrompt = R.readLines.filter fun line => (Line.prompt? line).isSome := by
  unfold readLines pick
  rw [List.filter_map, List.filter_filter]
  congr 1
  apply List.filter_congr
  rintro ⟨line, i⟩ hmem
  have hline : R.lines[i]? = some line := List.mk_mem_zipIdx_iff_getElem?.1 hmem
  simp [KeptAsPrompt, hline, Bool.and_comm]

namespace Report

/-- The prompts of a document are those among the lines that are not passed over. -/
lemma get_prompts_ofLines (lines : List Text) :
    (ofLines lines).get .prompts
      = (Reading.ofLines lines).readLines.filter fun line => (Line.prompt? line).isSome := by
  rw [← Reading.pick_keptAsPrompt]
  exact get_ofLines_eq_pick lines .prompts

/-- Every prompt of a document is read. -/
lemma malformed_fullInput_ofLines (lines : List Text) : (ofLines lines).fullInput.malformed = [] := by
  unfold fullInput Extraction.ofBucket
  rw [Extraction.malformed_eq_nil_iff, get_prompts_ofLines]
  intro line hline
  rw [Option.isSome_map]
  exact (List.mem_filter.1 hline).2

/-- The full input of a document is what its prompts say. -/
lemma items_fullInput_ofLines (lines : List Text) :
    (ofLines lines).fullInput.items
      = ((Reading.ofLines lines).readLines.filterMap fun line =>
          (Line.prompt? line).map Prompt.text).filter isContent := by
  unfold fullInput Extraction.ofBucket
  rw [Extraction.items_ofRowsFrom, get_prompts_ofLines, List.filterMap_filter]
  congr 1
  apply List.filterMap_congr
  intro line _
  cases Line.prompt? line <;> rfl

end Report

namespace CommandLine.ExtractArguments

/-- The full input of a report has no malformed rows. -/
lemma rows_of_full {arguments : ExtractArguments} (h : arguments.kind = .full) (files : FileTree) :
    arguments.rows files = [] := by
  unfold rows
  split
  · unfold request ExtractRequest.extraction
    rw [h]
    exact Report.malformed_fullInput_ofLines _
  · rfl

/-- For the full input the flag makes no difference. -/
lemma prepare_strict_of_full {arguments : ExtractArguments} (h : arguments.kind = .full)
    (files : FileTree) :
    prepare { arguments with strict := true } files
      = prepare { arguments with strict := false } files := by
  cases hconfig : loadConfig files arguments.config with
  | error failure =>
    unfold prepare
    rw [hconfig]
    rfl
  | ok config => rw [prepare_strict arguments hconfig, if_pos (rows_of_full h files)]

/-- Without the flag no command fails on malformed rows. -/
lemma run_lenient_ne_malformed (arguments : ExtractArguments) (files : FileTree)
    (rows : List MalformedRow) (left : FileTree) :
    run { arguments with strict := false } files ≠ .error (.malformed rows) left := by
  cases hload : Config.load files (configLayers arguments.config) with
  | error error =>
    have hprepare : prepare { arguments with strict := false } files = .error (.config error) := by
      unfold prepare loadConfig
      rw [hload]
      rfl
    rw [(run_of_prepare_error hprepare).1]
    simp
  | ok config =>
    have hconfig : loadConfig files arguments.config = .ok config := by
      unfold loadConfig
      rw [hload]
      rfl
    rw [(arguments.run_lenient hconfig).1, EStateM.map, EStateM.adaptExcept]
    -- the faults of a request are those of its two files
    match arguments.request.run config.outputExtension files with
    | .ok outcome written => simp
    | .error (.load error) left => simp [Failure.ofExtract]
    | .error (.write path cause) left => simp [Failure.ofExtract]

end CommandLine.ExtractArguments

namespace Report

open CommandLine in
/-- **The full input of a document has no malformed rows.** Its items are the texts of the prompts
among the lines that are not passed over, in document order, less those that are empty or a run of
`-`. So the full input of any file is extracted alike with and without the flag `--strict`, and it
never fails on its rows. -/
theorem fullInput_never_malformed :
    (∀ lines : List Text,
      let R := Reading.ofLines lines
      let e := (ofLines lines).fullInput
      e.malformed = [] ∧ e.strict = .ok e.items ∧ R.SkipRule ∧
      e.items = (R.readLines.filterMap fun line => (Line.prompt? line).map Prompt.text).filter
        fun text => !(text.isEmpty || text.all (· == '-'))) ∧
    (∀ (arguments : ExtractArguments) (files : FileTree), arguments.kind = .full →
      let strict : ExtractArguments := { arguments with strict := true }
      let lenient : ExtractArguments := { arguments with strict := false }
      strict.run files = lenient.run files ∧
      (∀ rows left, strict.run files ≠ .error (.malformed rows) left) ∧
      Command.run files (.extract strict) = Command.run files (.extract lenient)) := by
  refine ⟨fun lines => ?_, fun arguments files hkind => ?_⟩
  · intro R e
    have hclean : e.malformed = [] := malformed_fullInput_ofLines lines
    have hstrict : e.strict = .ok e.items := by
      simp [Extraction.strict, hclean]
    refine ⟨hclean, hstrict, Reading.skipRule_ofLines lines, ?_⟩
    rw [← isContent_eq]
    exact items_fullInput_ofLines lines
  · intro strict lenient
    have hprepare : strict.prepare files = lenient.prepare files :=
      ExtractArguments.prepare_strict_of_full hkind files
    obtain ⟨hrun, houtcome⟩ := ExtractArguments.run_of_prepare_eq hprepare
    refine ⟨hrun, fun rows left => ?_, houtcome⟩
    rw [hrun]
    exact arguments.run_lenient_ne_malformed files rows left

open CommandLine in
/-- A comment under a table header is passed over, an echoed rule is dropped, and neither makes a
strict extraction fail. -/
theorem fullInput_never_malformed_under_header :
    let lines : List Text :=
      ["=D E B U G=".toList, "NO. VARIABLE |VALUE".toList, "# b".toList, "> [x] --".toList,
        "> [x] a = 1".toList]
    let arguments : ExtractArguments := { kind := .full, input := ⟨"in"⟩, strict := true }
    arguments.kind = .full ∧ (ofLines lines).fullInput.malformed = [] ∧
      (ofLines lines).fullInput.items = ["a = 1".toList] ∧
      ∀ files rows left, arguments.run files ≠ .error (.malformed rows) left := by
  intro lines arguments
  obtain ⟨hlines, hcommand⟩ := fullInput_never_malformed
  exact ⟨rfl, (hlines lines).1, by decide, fun files => (hcommand arguments files rfl).2.1⟩

end Report

end SolverInput
