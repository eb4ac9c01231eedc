import SolverInput.Proofs.Report.Reader
import Mathlib.Data.List.Basic

/-!
# Reports of documents in parts

What the report of a document has to do with the reports of its parts. A run can be cut anywhere
(`Reader.file_append`), so the first part keeps its buckets. The second part is read as a document
of its own if it starts with a section marker: a marker forgets the section and every open table
(`Reader.file_cons_of_isMarker`). The one thing that can still leak across the cut is the line
that a header passes over (`Reader.after_skipping_iff`).
-/

namespace SolverInput

namespace Reader

/-- The last of these lines is read as a table header between the tables of a debug block, so the
line that follows is passed over. -/
def EndsInHeader (lines : List Text) : Prop :=
  ∃ init header kind, lines = init ++ [header] ∧ Reader.after {} init = ⟨.debug, false⟩ ∧
    Line.classify header = .tableHeader kind

/-- A document leaves a line to be passed over exactly if it ends in a header. -/
lemma after_skipping_iff (lines : List Text) :
    (Reader.after {} lines).skipping = true ↔ EndsInHeader lines := by
  unfold EndsInHeader
  rcases List.eq_nil_or_concat lines with rfl | ⟨init, header, rfl⟩
  · simp
  · -- whether the line after `header` is passed over depends on the step at `header` alone
    rw [List.concat_eq_append, after_append, after_cons, after_nil, next_skipping_iff]
    constructor
    · rintro ⟨hskip, hplace, kind, hkind⟩
      exact ⟨init, header, kind, rfl, eq_mk hplace hskip, hkind⟩
    · rintro ⟨init', header', kind, heq, hafter, hkind⟩
      obtain ⟨rfl, hheader⟩ := List.append_inj' heq rfl
      obtain rfl : header = header' := by simpa using hheader
      rw [hafter]
      exact ⟨rfl, rfl, kind, hkind⟩

/-- Two readers that do not pass over a marker read it, and all that follows it, alike. -/
lemma file_cons_of_isMarker {r r' : Reader} (hr : r.skipping = false) (hr' : r'.skipping = false)
    {line : Text} (hline : (Line.classify line).isMarker = true) (rest : List Text) :
    r.file (line :: rest) = r'.file (line :: rest) := by
  have hstep : r.step line = r'.step line := Section.step_of_isMarker hline _ _
  have hfilings : r.filings line = r'.filings line := by
    unfold filings
    rw [hr, hr', hstep]
  have hnext : r.next line = r'.next line := by
    unfold next
    rw [hr, hr', hstep]
    rfl
  rw [file_cons, file_cons, hfilings, hnext]

end Reader

namespace Report

/-- The buckets of a document in two parts: those of the first part, followed by what the reader
that comes out of it files for the second. -/
lemma get_ofLines_append (a b : List Text) (bucket : Bucket) :
    (ofLines (a ++ b)).get bucket
      = (ofLines a).get bucket ++ linesIn ((Reader.after {} a).file b) bucket := by
  rw [get_ofLines, get_ofLines, Reader.file_append, linesIn_append]

/-- **Reports are compositional.** Lines that are added at the end leave what is in each bucket
and add to it; and if the added lines start with a section marker that is not passed over, they
add exactly their own report, whatever section and table the lines before them left open. -/
theorem ofLines_append_of_marker (a b : List Text) :
    (∀ bucket, (ofLines a).get bucket <+: (ofLines (a ++ b)).get bucket) ∧
    (∀ line rest, b = line :: rest → (Line.classify line).isMarker = true →
      ¬ Reader.EndsInHeader a →
      ∀ bucket,
        (ofLines (a ++ b)).get bucket = (ofLines a).get bucket ++ (ofLines b).get bucket) := by
  constructor
  · intro bucket
    rw [get_ofLines_append]
    exact List.prefix_append _ _
  · rintro line rest rfl hline hheader bucket
    -- the marker is read, so it makes no difference where the first part left the reader
    have hskip : (Reader.after {} a).skipping = false := by
      rw [Bool.eq_false_iff, Ne, Reader.after_skipping_iff]
      exact hheader
    have hfile : (Reader.after {} a).file (line :: rest) = Reader.file {} (line :: rest) :=
      Reader.file_cons_of_isMarker hskip rfl hline rest
    rw [get_ofLines_append, hfile, get_ofLines (line :: rest)]

/-- An open table of variables is forgotten at the marker of the next section. -/
theorem ofLines_append_of_marker_open_table :
    let a : List Text :=
      ["=D E B U G=".toList, "NO. VARIABLE |VALUE".toList, "-".toList, "1 |x".toList]
    let b : List Text := ["=M A C R O=".toList, "# y".toList]
    (Line.classify "=M A C R O=".toList).isMarker = true ∧ ¬ Reader.EndsInHeader a ∧
      ∀ bucket,
        (ofLines (a ++ b)).get bucket = (ofLines a).get bucket ++ (ofLines b).get bucket := by
  intro a b
  have hmarker : (Line.classify "=M A C R O=".toList).isMarker = true := by decide
  have hheader : ¬ Reader.EndsInHeader a := by
    rw [← Reader.after_skipping_iff]
    decide
  exact ⟨hmarker, hheader, (ofLines_append_of_marker a b).2 _ _ rfl hmarker hheader⟩

end Report

end SolverInput
