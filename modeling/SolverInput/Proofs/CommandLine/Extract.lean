import SolverInput.CommandLine.Command
import SolverInput.Proofs.Config.Defaults
import SolverInput.Proofs.Report.Extract

/-!
# Extraction on the command line

The command that extracts a report and the request of an editor are two programs that do the same,
if the request uses the extension of the command's configuration (`run_extract_eq_request`). Both
read the report first and write last, and nothing in between can fail. The flag `--strict` puts one
fault there: malformed rows end the command after the report is read and before anything is
reported or written (`prepare_strict`).
-/

namespace SolverInput.CommandLine

/-- The failure of a command for the error of a request. -/
def Failure.ofExtract : ExtractError → Failure
  | .load error => .load error
  | .write path cause => .write path cause

lemma Failure.message_ofExtract (error : ExtractError) :
    (ofExtract error).message = error.message := by
  cases error with
  | load error => rfl
  | write path cause => rfl

/-- The warnings about malformed rows, one a line. -/
def warnings (rows : List MalformedRow) : String :=
  String.join (rows.map fun row => "Warning: " ++ row.message ++ "\n")

/-- What a command shows and leaves if it does what a request did. The rows are those of the
report. -/
def Outcome.ofRequest (rows : List MalformedRow) :
    EStateM.Result ExtractError FileTree ExtractOutcome → Outcome
  | .ok outcome written =>
    { stdout := "Extracted contents written to: " ++ outcome.output.text ++ "\n",
      stderr := warnings rows, files := written }
  | .error error left =>
    { exit := 1, stderr := warnings rows ++ ("Error: " ++ error.message ++ "\n"), files := left }

/-! ## Rows -/

/-- A strict extraction fails if there are malformed rows, and else it is a lenient one. -/
lemma checked_strict (extraction : Extraction Text) :
    checked extraction true
      = if extraction.malformed = [] then checked extraction false
        else .error (.malformed extraction.malformed) := by
  unfold checked Extraction.strict Extraction.render
  by_cases hrows : extraction.malformed = []
  · simp [hrows]
  · simp [hrows]

namespace ExtractArguments

/-- The request that the arguments stand for. -/
def request (arguments : ExtractArguments) : ExtractRequest :=
  ⟨arguments.kind, arguments.input, arguments.output⟩

/-- The malformed rows of the report; there are none if it cannot be read. -/
def rows (arguments : ExtractArguments) (files : FileTree) : List MalformedRow :=
  match files.loadReport arguments.input with
  | .ok text => (arguments.request.extraction text).malformed
  | .error _ => []

variable {arguments : ExtractArguments} {files : FileTree} {config : Config}

/-! ## Preparing -/

/-- A report that cannot be read ends the command. -/
lemma prepare_of_loadReport_error {error : LoadError}
    (hconfig : loadConfig files arguments.config = .ok config)
    (hload : files.loadReport arguments.input = .error error) :
    arguments.prepare files = .error (.load error) := by
  unfold prepare loadText
  rw [hconfig, hload]
  rfl

/-- A report that can be read is extracted, and the flag decides about its rows. -/
lemma prepare_of_loadReport {text : Text}
    (hconfig : loadConfig files arguments.config = .ok config)
    (hload : files.loadReport arguments.input = .ok text) :
    arguments.prepare files
      = (checked (arguments.request.extraction text) arguments.strict).map fun result =>
          ⟨arguments.request.outputPath config.outputExtension, result.1, result.2⟩ := by
  unfold prepare loadText
  rw [hconfig, hload]
  change (checked (arguments.request.extraction text) arguments.strict).bind _ = _
  cases checked (arguments.request.extraction text) arguments.strict with
  | ok result => rfl
  | error failure => rfl

/-- The flag adds one fault: malformed rows in a report that can be read. -/
lemma prepare_strict (arguments : ExtractArguments)
    (hconfig : loadConfig files arguments.config = .ok config) :
    prepare { arguments with strict := true } files
      = if arguments.rows files = [] then prepare { arguments with strict := false } files
        else .error (.malformed (arguments.rows files)) := by
  unfold rows
  cases hload : files.loadReport arguments.input with
  | error error =>
    have hprepare (strict : Bool) :
        prepare { arguments with strict } files = .error (.load error) :=
      prepare_of_loadReport_error hconfig hload
    rw [hprepare, hprepare, if_pos rfl]
  | ok text =>
    have hprepare (strict : Bool) :
        prepare { arguments with strict } files
          = (checked (arguments.request.extraction text) strict).map fun result =>
              ⟨arguments.request.outputPath config.outputExtension, result.1, result.2⟩ :=
      prepare_of_loadReport hconfig hload
    rw [hprepare, hprepare, checked_strict]
    split_ifs with hrows
    · rfl
    · rfl

/-! ## Running -/

/-- What a command does depends on what it prepares alone. -/
lemma run_of_prepare_eq {other : ExtractArguments}
    (h : arguments.prepare files = other.prepare files) :
    arguments.run files = other.run files ∧ arguments.outcome files = other.outcome files := by
  unfold run outcome
  simp only [bind, EStateM.bind, FileM.reading, h, and_self]

lemma run_of_prepare_error {failure : Failure} (h : arguments.prepare files = .error failure) :
    arguments.run files = .error failure files ∧
      arguments.outcome files = .failed files failure := by
  unfold run outcome
  rw [FileM.reading_bind_of_error h, h]
  exact ⟨rfl, rfl⟩

lemma run_of_write {prepared : Prepared} {written : FileTree}
    (h : arguments.prepare files = .ok prepared)
    (hwrite : prepared.write files = .ok () written) :
    arguments.run files = .ok (prepared.output, prepared.malformed) written ∧
      arguments.outcome files
        = { stdout := "Extracted contents written to: " ++ prepared.output.text ++ "\n",
            stderr := warnings prepared.malformed, files := written } := by
  unfold run outcome
  rw [FileM.reading_bind_of_ok h, h]
  dsimp only [bind, EStateM.bind]
  rw [hwrite, ← String.append_empty (s := warnings prepared.malformed)]
  exact ⟨rfl, rfl⟩

lemma run_of_write_error {prepared : Prepared} {failure : Failure} {left : FileTree}
    (h : arguments.prepare files = .ok prepared)
    (hwrite : prepared.write files = .error failure left) :
    arguments.run files = .error failure left ∧
      arguments.outcome files
        = { exit := 1,
            stderr := warnings prepared.malformed ++ ("Error: " ++ failure.message ++ "\n"),
            files := left } := by
  unfold run outcome
  rw [FileM.reading_bind_of_ok h, h]
  dsimp only [bind, EStateM.bind]
  rw [hwrite]
  exact ⟨rfl, rfl⟩

/-- Without the flag the command does what the request does. -/
lemma run_lenient (arguments : ExtractArguments)
    (hconfig : loadConfig files arguments.config = .ok config) :
    let lenient : ExtractArguments := { arguments with strict := false }
    let request := arguments.request.run config.outputExtension
    lenient.run files = ((request.adaptExcept .ofExtract).map fun outcome =>
        (outcome.output, outcome.malformed)) files ∧
      lenient.outcome files = .ofRequest (arguments.rows files) (request files) := by
  intro lenient request
  rw [EStateM.map, EStateM.adaptExcept]
  cases hload : files.loadReport arguments.input with
  | error error =>
    have hresult : request files = .error (.load error) files :=
      ExtractRequest.run_of_loadReport_error hload
    have hrows : arguments.rows files = [] := by
      unfold rows
      rw [hload]
    have hprepare : lenient.prepare files = .error (.load error) :=
      prepare_of_loadReport_error hconfig hload
    obtain ⟨hrun, houtcome⟩ := run_of_prepare_error hprepare
    rw [hrun, houtcome, hresult, hrows]
    exact ⟨rfl, rfl⟩
  | ok text =>
    let output := arguments.request.outputPath config.outputExtension
    let extraction := arguments.request.extraction text
    let prepared : Prepared := ⟨output, extraction.render, extraction.malformed⟩
    have hread : files.loadReport arguments.request.input = .ok text := hload
    have hresult : request files = _ := ExtractRequest.run_of_loadReport hread
    have hrows : arguments.rows files = extraction.malformed := by
      unfold rows
      rw [hload]
    have hprepare : lenient.prepare files = .ok prepared := prepare_of_loadReport hconfig hload
    cases hwrite : files.write output (Text.toBytes extraction.render) with
    | ok written =>
      have hwritten : prepared.write files = .ok () written := by
        unfold Prepared.write EStateM.adaptExcept FileM.write
        rw [hwrite]
      obtain ⟨hrun, houtcome⟩ := run_of_write hprepare hwritten
      rw [hwrite] at hresult
      rw [hrun, houtcome, hresult, hrows]
      exact ⟨rfl, rfl⟩
    | error cause =>
      have hfailed : prepared.write files = .error (.write output cause) files := by
        unfold Prepared.write EStateM.adaptExcept FileM.write
        rw [hwrite]
      obtain ⟨hrun, houtcome⟩ := run_of_write_error hprepare hfailed
      rw [hwrite] at hresult
      rw [hrun, houtcome, hresult, hrows]
      exact ⟨rfl, rfl⟩

end ExtractArguments

/-- **The command line and the editor extract alike.** Without the flag `--strict` the command ends
as the request does, with the same output path, malformed rows and files or with the text of the
same error. With the flag, malformed rows in a report that can be read end the command with the
files as they were, and in every other case the flag makes no difference. -/
theorem run_extract_eq_request (arguments : ExtractArguments) (files : FileTree) (config : Config)
    (hconfig : loadConfig files arguments.config = .ok config) :
    let lenient : ExtractArguments := { arguments with strict := false }
    let strict : ExtractArguments := { arguments with strict := true }
    let request := arguments.request.run config.outputExtension
    let rows := arguments.rows files
    (lenient.run files = ((request.adaptExcept .ofExtract).map fun outcome =>
        (outcome.output, outcome.malformed)) files ∧
      (∀ error, (Failure.ofExtract error).message = error.message) ∧
      Command.run files (.extract lenient) = .ofRequest rows (request files)) ∧
    (rows ≠ [] → strict.run files = .error (.malformed rows) files ∧
      Command.run files (.extract strict) = .failed files (.malformed rows)) ∧
    (rows = [] → strict.run files = lenient.run files ∧
      Command.run files (.extract strict) = Command.run files (.extract lenient)) := by
  intro lenient strict request rows
  obtain ⟨hrun, houtcome⟩ := arguments.run_lenient hconfig
  have hprepare := arguments.prepare_strict hconfig
  refine ⟨⟨hrun, Failure.message_ofExtract, houtcome⟩, ?_, ?_⟩
  · intro hrows
    rw [if_neg hrows] at hprepare
    exact ExtractArguments.run_of_prepare_error hprepare
  · intro hrows
    rw [if_pos hrows] at hprepare
    exact ExtractArguments.run_of_prepare_eq hprepare

/-- Without a configuration file the configuration is the default one. -/
lemma loadConfig_none (files : FileTree) : loadConfig files none = .ok .standard := by
  unfold loadConfig configLayers
  rw [Config.load_nil]
  rfl

/-- A line that is no row of the inputs table is a warning for one command and the end of the
other. -/
theorem run_extract_eq_request_bad_row :
    let text := "=D E B U G=\nLINE PROPERTY |CONTENT\n-\nnot a row\n-\n=".toList
    let files := FileTree.put {} ["work".toList, "in".toList] (.file (Text.toBytes text))
    let lenient : ExtractArguments := { kind := .raw, input := ⟨"in"⟩ }
    let strict : ExtractArguments := { lenient with strict := true }
    let rows : List MalformedRow := [⟨.inputs, 0, "not a row".toList⟩]
    loadConfig files lenient.config = .ok .standard ∧
      Command.run files (.extract lenient)
        = .ofRequest rows (lenient.request.run "mindes" files) ∧
      Command.run files (.extract strict) = .failed files (.malformed rows) := by
  intro text files lenient strict rows
  have hconfig : loadConfig files lenient.config = .ok .standard := loadConfig_none files
  have hload : files.loadReport ⟨"in"⟩ = .ok text := by
    have hwrite : FileTree.write {} ⟨"in"⟩ (Text.toBytes text) = .ok files := rfl
    exact FileTree.loadReport_write hwrite
  have hrows : lenient.rows files = rows := by
    unfold ExtractArguments.rows
    rw [hload]
    decide +kernel
  obtain ⟨⟨-, -, hlenient⟩, hstrict, -⟩ := run_extract_eq_request lenient files _ hconfig
  rw [hrows] at hlenient hstrict
  exact ⟨hconfig, hlenient, (hstrict (by simp [rows])).2⟩

end SolverInput.CommandLine
