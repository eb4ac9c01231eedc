import SolverInput.Proofs.Files.Program
import SolverInput.Proofs.Files.Tree
import SolverInput.Report.Extract

/-!
# What a request does

A request reads a report, extracts it and writes the result, and it can end in two faults: the
report cannot be read (`run_of_loadReport_error`), or it is read and the output cannot be written
(`run_of_loadReport`). So it is finished if neither happens (`run_eq_ok_iff`), and what it leaves
behind is the text of its extraction at the output path (`readText_of_run`). Since it reads before
it writes, a request that fails leaves the files as they were (`run_atomic`).
-/

namespace SolverInput

/-- A report is loaded if its text can be read. -/
lemma FileTree.loadReport_eq_ok_iff {files : FileTree} {path : Path} {t : Text} :
    files.loadReport path = .ok t ↔ files.readText path = .ok t := by
  unfold loadReport
  split <;> simp_all

/-- A text that was written is the report that is loaded. -/
lemma FileTree.loadReport_write {files written : FileTree} {path : Path} {t : Text}
    (h : files.write path (Text.toBytes t) = .ok written) : written.loadReport path = .ok t :=
  loadReport_eq_ok_iff.2 (readText_write h)

namespace ExtractRequest

/-- Where a request writes. -/
def outputPath (request : ExtractRequest) (extension : String) : Path :=
  request.output.getD (request.input.defaultOutput extension)

/-- What a request extracts from the text of a report. -/
def extraction (request : ExtractRequest) (text : Text) : Extraction Text :=
  (Report.ofText text).extract request.kind

/-- What a request reports back about the text of a report. -/
def outcome (request : ExtractRequest) (extension : String) (text : Text) : ExtractOutcome where
  output := request.outputPath extension
  lines := (request.extraction text).items.length
  malformed := (request.extraction text).malformed

variable {request : ExtractRequest} {extension : String} {files : FileTree}

/-- A request writes once, behind everything else that can fail. -/
lemma run_atomic (request : ExtractRequest) (extension : String) :
    (request.run extension).Atomic := by
  unfold run
  apply FileM.atomic_reading_bind
  intro text
  exact ((FileM.atomic_write _ _).adaptExcept _).bind_pure _

/-- A report that cannot be read ends a request. -/
lemma run_of_loadReport_error {error : LoadError}
    (h : files.loadReport request.input = .error error) :
    request.run extension files = .error (.load error) files := by
  unfold run
  rw [FileM.reading_bind_of_error (by rw [h]; rfl)]

/-- A report that can be read leaves one thing that can fail, which is writing the output. -/
lemma run_of_loadReport {text : Text} (h : files.loadReport request.input = .ok text) :
    request.run extension files
      = match files.write (request.outputPath extension)
          (Text.toBytes (request.extraction text).render) with
        | .ok written => .ok (request.outcome extension text) written
        | .error cause => .error (.write (request.outputPath extension) cause) files := by
  have hrun : request.run extension files
      = ((FileM.write (request.outputPath extension)
            (Text.toBytes (request.extraction text).render)).adaptExcept
          (.write (request.outputPath extension)) >>= fun _ =>
        pure (request.outcome extension text)) files := by
    unfold run
    rw [FileM.reading_bind_of_ok (by rw [h]; rfl)]
    rfl
  rw [hrun]
  simp only [bind, EStateM.bind, EStateM.adaptExcept, FileM.write]
  cases files.write (request.outputPath extension)
      (Text.toBytes (request.extraction text).render) with
  | ok written => rfl
  | error cause => rfl

/-- A finished request leaves the text of its extraction at the output path. -/
lemma readText_of_run {text : Text} {outcome : ExtractOutcome} {written : FileTree}
    (hload : files.loadReport request.input = .ok text)
    (h : request.run extension files = .ok outcome written) :
    outcome = request.outcome extension text ∧
      written.readText outcome.output = .ok (request.extraction text).render := by
  rw [run_of_loadReport hload] at h
  split at h
  · rename_i tree hwrite
    cases h
    exact ⟨rfl, FileTree.readText_write hwrite⟩
  · cases h

/-- A request is finished if its report could be loaded and its extraction written. -/
lemma run_eq_ok_iff {outcome : ExtractOutcome} {written : FileTree} :
    request.run extension files = .ok outcome written ↔
      ∃ text, files.loadReport request.input = .ok text ∧
        outcome = request.outcome extension text ∧
        files.write outcome.output (Text.toBytes (request.extraction text).render)
          = .ok written := by
  cases hload : files.loadReport request.input with
  | error error =>
    rw [run_of_loadReport_error hload]
    simp
  | ok text =>
    rw [run_of_loadReport hload]
    simp only [Except.ok.injEq, exists_eq_left']
    constructor
    · intro h
      split at h
      · rename_i tree hwrite
        cases h
        exact ⟨rfl, hwrite⟩
      · cases h
    · rintro ⟨rfl, hwrite⟩
      rw [show files.write (request.outputPath extension) _ = .ok written from hwrite]

/-- A request can be finished exactly if its report can be loaded and its output can be written
to. -/
lemma exists_run_eq_ok_iff :
    (∃ outcome written, request.run extension files = .ok outcome written) ↔
      (∃ text, files.loadReport request.input = .ok text) ∧
        ∃ place, files.target (request.outputPath extension) = .ok place := by
  constructor
  · rintro ⟨outcome, written, h⟩
    obtain ⟨text, hload, rfl, hwrite⟩ := run_eq_ok_iff.1 h
    obtain ⟨place, htarget, -⟩ := FileTree.exists_of_write hwrite
    exact ⟨⟨text, hload⟩, place, htarget⟩
  · rintro ⟨⟨text, hload⟩, place, htarget⟩
    have hwrite : files.write (request.outputPath extension)
        (Text.toBytes (request.extraction text).render)
        = .ok (files.put place (.file (Text.toBytes (request.extraction text).render))) := by
      unfold FileTree.write
      rw [htarget]
      rfl
    exact ⟨_, _, run_eq_ok_iff.2 ⟨text, hload, rfl, hwrite⟩⟩

end ExtractRequest

end SolverInput
