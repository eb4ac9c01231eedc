import SolverInput.Proofs.Report.Reader
import Mathlib.Data.List.Basic

/-!
# Lines without influence

Some lines make no difference to a report, whatever stands before and after them: the line under a
table header, even if it looks like a marker, and the plain lines that a section drops.

Two runs of lines are alike for a reader (`Reader.Alike`) if it files the same for both and both
leave it at the same place, with the same line to pass over. Lines that are alike can be exchanged
in every document (`Report.ofLines_eq_of_alike`). So what is left is one step of the reader: right
after a header (`Reader.alike_under_header`), and at a line that its section drops
(`Reader.alike_nil_of_dropped`).
-/

namespace SolverInput

namespace Reader

/-- Two runs of lines are alike for a reader: it files the same for both, and both leave it at the
same place. -/
structure Alike (r : Reader) (u v : List Text) : Prop where
  file : r.file u = r.file v
  after : r.after u = r.after v

/-- Right after a header between two tables one line is passed over, so all lines are alike. -/
lemma alike_under_header {header : Text} {kind : TableKind}
    (hheader : Line.classify header = .tableHeader kind) (x y : Text) :
    Alike ⟨.debug, false⟩ [header, x] [header, y] := by
  have hskip : (Reader.next ⟨.debug, false⟩ header).skipping = true := by
    rw [next_skipping_iff]
    exact ⟨rfl, rfl, kind, hheader⟩
  constructor
  · rw [file_cons, file_cons, file_cons, file_cons, filings_of_skipping hskip,
      filings_of_skipping hskip, next_of_skipping hskip, next_of_skipping hskip]
  · rw [after_cons, after_cons, after_cons, after_cons, next_of_skipping hskip,
      next_of_skipping hskip]

/-- A line that is no prompt, and that a section drops and stays open after it, is like no line at
all. -/
lemma alike_nil_of_dropped {r : Reader} {line : Text} (hskip : r.skipping = false)
    (hprompt : Line.prompt? line = none)
    (hstep : r.place.step (Line.classify line) = ⟨r.place, .discard⟩) : r.Alike [line] [] := by
  have hfilings : r.filings line = [] := by
    unfold filings step
    rw [hskip, hprompt, hstep]
    rfl
  have hnext : r.next line = r := by
    unfold next step
    rw [hskip, hstep]
    exact (eq_mk rfl hskip).symm
  constructor
  · rw [file_cons, hfilings, hnext]
    rfl
  · rw [after_cons, hnext]

end Reader

/-- Outside the sections all but markers are dropped, and between two tables all but markers and
headers. -/
lemma Section.step_eq_discard {s : Section} {c : LineClass} (hmarker : c.isMarker = false)
    (hplace : s = .none ∨ s = .debug ∧ c.isHeader = false) : s.step c = ⟨s, .discard⟩ := by
  rcases hplace with rfl | ⟨rfl, hheader⟩
  · exact Section.step_none hmarker
  · apply Section.step_debug hmarker
    intro kind hkind
    rw [hkind] at hheader
    exact absurd hheader (by simp [LineClass.isHeader])

namespace Report

/-- Lines that are alike where they are read can be exchanged, whatever follows. -/
lemma ofLines_eq_of_alike {a u v : List Text} (h : (Reader.after {} a).Alike u v)
    (b : List Text) : ofLines (a ++ u ++ b) = ofLines (a ++ v ++ b) := by
  unfold ofLines
  rw [Reader.file_append, Reader.file_append, Reader.file_append, Reader.file_append,
    Reader.after_append, Reader.after_append, h.file, h.after]

/-- **Dropped lines have no influence on a report.** The line under a table header that is read
between two tables can be any line, also a marker, a prompt or a row. And a line that is no prompt
and no marker, and that is read outside the sections, or between two tables without being a header,
can be left out. -/
theorem ofLines_eq_of_dropped (a b : List Text) :
    (∀ header kind, Reader.after {} a = ⟨.debug, false⟩ →
      Line.classify header = .tableHeader kind →
      ∀ x y, ofLines (a ++ [header, x] ++ b) = ofLines (a ++ [header, y] ++ b)) ∧
    (∀ line, (Reader.after {} a).skipping = false → Line.prompt? line = none →
      (Line.classify line).isMarker = false →
      ((Reader.after {} a).place = .none ∨
        (Reader.after {} a).place = .debug ∧ (Line.classify line).isHeader = false) →
      ofLines (a ++ [line] ++ b) = ofLines (a ++ b)) := by
  constructor
  · intro header kind hafter hheader x y
    apply ofLines_eq_of_alike
    rw [hafter]
    exact Reader.alike_under_header hheader x y
  · intro line hskip hprompt hmarker hplace
    have hstep := Section.step_eq_discard hmarker hplace
    have halike := Reader.alike_nil_of_dropped hskip hprompt hstep
    have hdrop := ofLines_eq_of_alike halike b
    rwa [List.append_nil] at hdrop

/-- A marker under a header does not end the debug section, and a rule between two tables is like no
line. -/
theorem ofLines_eq_of_dropped_marker :
    let a : List Text := ["=D E B U G=".toList]
    let header := "NO. VARIABLE |VALUE".toList
    let b : List Text := ["# x".toList, "-".toList]
    Reader.after {} a = ⟨.debug, false⟩ ∧ Line.classify header = .tableHeader .vars ∧
    ofLines (a ++ [header, "=M A C R O=".toList] ++ b) = ofLines (a ++ [header, "-".toList] ++ b) ∧
    Line.prompt? "-".toList = none ∧ (Line.classify "-".toList).isMarker = false ∧
    (Line.classify "-".toList).isHeader = false ∧
    ofLines (a ++ ["-".toList] ++ b) = ofLines (a ++ b) := by
  intro a header b
  have hafter : Reader.after {} a = ⟨.debug, false⟩ := by decide
  have hheader : Line.classify header = .tableHeader .vars := by decide
  have hprompt : Line.prompt? "-".toList = none := by decide
  have hmarker : (Line.classify "-".toList).isMarker = false := by decide
  have hrule : (Line.classify "-".toList).isHeader = false := by decide
  obtain ⟨hunder, hdrop⟩ := ofLines_eq_of_dropped a b
  refine ⟨hafter, hheader, hunder _ _ hafter hheader _ _, hprompt, hmarker, hrule, ?_⟩
  exact hdrop _ (by rw [hafter]) hprompt hmarker (.inr ⟨by rw [hafter], hrule⟩)

end Report

end SolverInput
