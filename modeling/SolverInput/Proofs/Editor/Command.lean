import SolverInput.Editor.Session
import SolverInput.Proofs.Report.Extract

/-!
# What a command does to the files

A command reads its arguments, then a report, and writes one file at the very end (`run_atomic`). So
it either fails and leaves every file as it was, or it changes one file, the output
(`execute_atomic`).
`FileTree.Wrote` says what the change of one file is, as seen through places and through paths.
-/

namespace SolverInput

/-- One file was written: the path leads to its new text, every entry at another place is as it was,
and so is the content of every path that leads to another place. -/
structure FileTree.Wrote (before after : FileTree) (path : Path) (text : Text) : Prop where
  reads : after.readText path = .ok text
  elsewhere : ∃ place, before.target path = .ok place ∧
    (∀ other, other ≠ place → after.entry? other = before.entry? other) ∧
    ∀ other, before.resolve other ≠ .ok place → ∀ content,
      after.read other = .ok content ↔ before.read other = .ok content

lemma FileTree.wrote_of_write {files written : FileTree} {path : Path} {text : Text}
    (h : files.write path (Text.toBytes text) = .ok written) : files.Wrote written path text := by
  obtain ⟨place, htarget, -⟩ := exists_of_write h
  exact ⟨readText_write h, place, htarget, fun _ => entry?_write_of_ne h htarget,
    fun _ => read_write_of_ne h htarget⟩

namespace Editor

namespace Command

variable {command : String} {arguments : List Json} {extension : String} {files : FileTree}

/-! ## Reading the arguments -/

lemma kind?_eq_none_iff : kind? command = none ↔ command ∉ names := by
  unfold kind? names
  split_ifs with hraw hfull
  · simp [hraw]
  · simp [hfull]
  · simp [hraw, hfull]

/-- A path argument is a string that is not empty. -/
lemma pathArgument?_eq_some_iff {index : Nat} {path : Path} :
    pathArgument? arguments index = some path ↔
      arguments[index]? = some (.string path.text) ∧ path.text ≠ "" := by
  unfold pathArgument?
  cases arguments[index]? with
  | none => simp
  | some value =>
    cases value with
    | string text =>
      simp only [Json.string?, bind, Option.bind_some, Option.some.injEq, Json.string.injEq]
      by_cases hempty : text = ""
      · simp [hempty]
      · rw [if_neg (by simpa using hempty), Option.some.injEq]
        constructor
        · rintro rfl
          exact ⟨rfl, hempty⟩
        · rintro ⟨rfl, -⟩
          rfl
    | _ => simp [Json.string?]

/-- An argument is no path if it is absent, not a string or empty. -/
lemma pathArgument?_eq_none_iff {index : Nat} :
    pathArgument? arguments index = none ↔
      ∀ text, arguments[index]? = some (.string text) → text = "" := by
  rw [Option.eq_none_iff_forall_ne_some]
  constructor
  · intro hnone text htext
    by_contra hempty
    exact hnone ⟨text⟩ (pathArgument?_eq_some_iff.2 ⟨htext, hempty⟩)
  · intro hempty path hpath
    obtain ⟨htext, hne⟩ := pathArgument?_eq_some_iff.1 hpath
    exact hne (hempty path.text htext)

lemma request_eq_unknown_iff :
    request command arguments = .error (.unknown command) ↔ command ∉ names := by
  rw [← kind?_eq_none_iff]
  unfold request
  cases kind? command with
  | none => simp
  | some kind => cases pathArgument? arguments 0 <;> simp

lemma request_eq_missingInput_iff :
    request command arguments = .error .missingInput ↔
      command ∈ names ∧ pathArgument? arguments 0 = none := by
  have hknown : command ∈ names ↔ kind? command ≠ none := by
    rw [ne_eq, kind?_eq_none_iff, not_not]
  rw [hknown]
  unfold request
  cases kind? command with
  | none => simp
  | some kind => cases pathArgument? arguments 0 <;> simp

lemma request_eq_ok_iff {r : ExtractRequest} :
    request command arguments = .ok r ↔
      kind? command = some r.kind ∧ pathArgument? arguments 0 = some r.input ∧
        r.output = pathArgument? arguments 1 := by
  obtain ⟨kind', input', output'⟩ := r
  unfold request
  cases kind? command with
  | none => simp
  | some kind =>
    cases pathArgument? arguments 0 with
    | none => simp
    | some input => simp [eq_comm]

/-! ## Running -/

/-- A command reads its arguments, and then does what a request does. -/
lemma run_atomic (command : String) (arguments : List Json) (extension : String) :
    (run command arguments extension).Atomic := by
  unfold run
  apply FileM.atomic_reading_bind
  intro request
  exact (request.run_atomic extension).adaptExcept _

lemma run_of_request {r : ExtractRequest} (h : request command arguments = .ok r) :
    run command arguments extension files
      = (r.run extension).adaptExcept .extract files := by
  unfold run
  rw [FileM.reading_bind_of_ok (by exact h)]

lemma run_of_request_error {error : CommandError}
    (h : request command arguments = .error error) :
    run command arguments extension files = .error error files := by
  unfold run
  rw [FileM.reading_bind_of_error (by exact h)]

/-- A command succeeds if its arguments are a request and the request is finished. -/
lemma run_eq_ok_iff {outcome : ExtractOutcome} {written : FileTree} :
    run command arguments extension files = .ok outcome written ↔
      ∃ r, request command arguments = .ok r ∧ r.run extension files = .ok outcome written := by
  cases hrequest : request command arguments with
  | error error =>
    rw [run_of_request_error hrequest]
    simp
  | ok r =>
    rw [run_of_request hrequest, EStateM.adaptExcept]
    simp only [Except.ok.injEq, exists_eq_left']
    cases r.run extension files with
    | ok other after => simp
    | error e left => simp

/-- A command that fails before its request is run fails for its arguments. -/
lemma run_eq_error_iff {error : CommandError} (h : ∀ e, error ≠ .extract e) :
    run command arguments extension files = .error error files ↔
      request command arguments = .error error := by
  cases hrequest : request command arguments with
  | error other =>
    rw [run_of_request_error hrequest]
    simp
  | ok r =>
    rw [run_of_request hrequest, EStateM.adaptExcept]
    cases r.run extension files with
    | ok outcome written => simp
    | error e left => simp [(h e).symm]

end Command

namespace Session

lemma handle_execute_of_error {s : Session} {files left : FileTree} {command : String}
    {arguments : List Json} {error : CommandError}
    (h : Command.run command arguments s.settings.outputExtension files = .error error left) :
    s.handle files (.execute command arguments)
      = { session := s, files := left, reply := .failure error,
          notices := failedNotices error } := by
  simp only [handle, h]

lemma handle_execute_of_ok {s : Session} {files written : FileTree} {command : String}
    {arguments : List Json} {outcome : ExtractOutcome}
    (h : Command.run command arguments s.settings.outputExtension files
      = .ok outcome written) :
    s.handle files (.execute command arguments)
      = { session := s, files := written, reply := .path outcome.output,
          notices := extractedNotices outcome } := by
  simp only [handle, h]

/-- **Commands are atomic.** A command is unknown exactly if it is none of the two, and else lacks
its input exactly if the first argument is absent, not a string or empty. A command that fails, for
these or any other cause, leaves all files as they were. It succeeds exactly if its report can be
loaded and its output can be written to, and then it writes one file, the output that it returns:
the second argument, or the default output if that is absent, not a string or empty. What it writes
and reports is the extraction of the text that the input had before the command, also if the input
is the output. -/
theorem execute_atomic (s : Session) (files : FileTree) (command : String)
    (arguments : List Json) :
    let extension := s.settings.outputExtension
    let result := Command.run command arguments extension files
    let after := s.handle files (.execute command arguments)
    (result = .error (.unknown command) files ↔ command ∉ Command.names) ∧
    (result = .error .missingInput files ↔
      command ∈ Command.names ∧ ∀ text, arguments[0]? = some (.string text) → text = "") ∧
    (∀ error left, result = .error error left →
      left = files ∧ after.reply = .failure error ∧ after.files = files) ∧
    ((∃ outcome written, result = .ok outcome written) ↔
      ∃ request, Command.request command arguments = .ok request ∧
        (∃ text, files.loadReport request.input = .ok text) ∧
        ∃ place, files.target (request.outputPath extension) = .ok place) ∧
    (∀ outcome written, result = .ok outcome written →
      after.reply = .path outcome.output ∧ after.files = written ∧
      ∃ kind input text, Command.kind? command = some kind ∧
        arguments[0]? = some (.string input) ∧ files.loadReport ⟨input⟩ = .ok text ∧
        (∀ output, output ≠ "" → arguments[1]? = some (.string output) →
          outcome.output = ⟨output⟩) ∧
        ((∀ output, arguments[1]? = some (.string output) → output = "") →
          outcome.output = Path.defaultOutput ⟨input⟩ extension) ∧
        let extraction := (Report.ofText text).extract kind
        outcome.lines = extraction.items.length ∧ outcome.malformed = extraction.malformed ∧
        files.Wrote written outcome.output extraction.render) := by
  intro extension result after
  refine ⟨?_, ?_, ?_, ?_, ?_⟩
  · exact (Command.run_eq_error_iff (by simp)).trans Command.request_eq_unknown_iff
  · rw [← Command.pathArgument?_eq_none_iff, ← Command.request_eq_missingInput_iff]
    exact Command.run_eq_error_iff (by simp)
  · intro error left hresult
    have hleft : left = files := Command.run_atomic _ _ _ files error left hresult
    have hafter : after = _ := handle_execute_of_error hresult
    rw [hafter]
    exact ⟨hleft, rfl, hleft⟩
  · simp only [result, Command.run_eq_ok_iff, ← ExtractRequest.exists_run_eq_ok_iff]
    constructor
    · rintro ⟨outcome, written, request, hrequest, hrun⟩
      exact ⟨request, hrequest, outcome, written, hrun⟩
    · rintro ⟨request, hrequest, outcome, written, hrun⟩
      exact ⟨outcome, written, request, hrequest, hrun⟩
  · intro outcome written hresult
    have hafter : after = _ := handle_execute_of_ok hresult
    obtain ⟨request, hrequest, hrun⟩ := Command.run_eq_ok_iff.1 hresult
    obtain ⟨hkind, hinput, houtput⟩ := Command.request_eq_ok_iff.1 hrequest
    obtain ⟨text, hload, rfl, hwrite⟩ := ExtractRequest.run_eq_ok_iff.1 hrun
    rw [hafter]
    refine ⟨rfl, rfl, request.kind, request.input.text, text, hkind, ?_, hload, ?_, ?_, rfl, rfl,
      FileTree.wrote_of_write hwrite⟩
    · exact (Command.pathArgument?_eq_some_iff.1 hinput).1
    · intro output hne hargument
      have hpath : Command.pathArgument? arguments 1 = some ⟨output⟩ :=
        Command.pathArgument?_eq_some_iff.2 ⟨hargument, hne⟩
      simp [ExtractRequest.outcome, ExtractRequest.outputPath, houtput, hpath]
    · intro hnone
      rw [Command.pathArgument?_eq_none_iff.2 hnone] at houtput
      simp [ExtractRequest.outcome, ExtractRequest.outputPath, houtput]

/-- A report that is extracted over itself: the file that is written is the file that was read, and
what it holds is the extraction of what it held. A command that finds no report leaves the file that
it would have written over. -/
theorem execute_atomic_in_place :
    let text := "> [S] a = 1\nno prompt".toList
    let files := FileTree.put {} ["work".toList, "in".toList] (.file (Text.toBytes text))
    let s : Session := { defaults := ⟨true, "mindes"⟩, settings := ⟨true, "mindes"⟩ }
    let after := s.handle files (.execute Command.fullInput [.string "in", .string "in"])
    let failed := s.handle files (.execute Command.fullInput [.string "absent", .string "in"])
    after.reply = .path ⟨"in"⟩ ∧ after.files.readText ⟨"in"⟩ = .ok "a = 1".toList ∧
      failed.reply = .failure (.extract (.load (.missing ⟨"absent"⟩))) ∧
      failed.files.readText ⟨"in"⟩ = .ok text := by
  intro text files s after failed
  let request : ExtractRequest := ⟨.full, ⟨"in"⟩, some ⟨"in"⟩⟩
  have hload : files.loadReport ⟨"in"⟩ = .ok text := by
    have hwrite : FileTree.write {} ⟨"in"⟩ (Text.toBytes text) = .ok files := rfl
    exact FileTree.loadReport_write hwrite
  have hafter : after.reply = .path ⟨"in"⟩ ∧
      after.files.readText ⟨"in"⟩ = .ok "a = 1".toList := by
    have hrequest : Command.request Command.fullInput [.string "in", .string "in"] = .ok request :=
      rfl
    have htarget : files.target ⟨"in"⟩ = .ok ["work".toList, "in".toList] := rfl
    obtain ⟨-, -, -, hsucceeds, hok⟩ :=
      execute_atomic s files Command.fullInput [.string "in", .string "in"]
    obtain ⟨outcome, written, hresult⟩ :=
      hsucceeds.2 ⟨request, hrequest, ⟨text, hload⟩, _, htarget⟩
    obtain ⟨hreply, hfiles, kind, input, text', hkind, hinput, hload', houtput, -, -, -, hwrote⟩ :=
      hok outcome written hresult
    cases hinput
    cases hkind
    cases hload.symm.trans hload'
    have hin : outcome.output = ⟨"in"⟩ := houtput "in" (by decide) rfl
    rw [hreply, hfiles]
    rw [hin] at hwrote ⊢
    refine ⟨rfl, hwrote.reads.trans ?_⟩
    decide +kernel
  have hresult : Command.run Command.fullInput [.string "absent", .string "in"] "mindes" files
      = .error (.extract (.load (.missing ⟨"absent"⟩))) files := rfl
  obtain ⟨-, -, hfails, -, -⟩ :=
    execute_atomic s files Command.fullInput [.string "absent", .string "in"]
  obtain ⟨-, hreply, hfiles⟩ := hfails _ _ hresult
  refine ⟨hafter.1, hafter.2, hreply, ?_⟩
  rw [hfiles]
  exact FileTree.loadReport_eq_ok_iff.1 hload

end Session

end Editor

end SolverInput
