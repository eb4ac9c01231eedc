import SolverInput.Report.Extraction
import SolverInput.Proofs.Text.Lines
import SolverInput.Proofs.Text.Quoted

/-!
# What the report of malformed rows tells

The message of a malformed row names the bucket, the position and the line. Each of the three parts
ends where it can be seen to end: the name of the bucket at a space, the position at a colon, and
the line in quotes at its closing quote. So the message gives back the row (`message_inj`). It is
one line, whatever characters the line of the row holds, so the report of all rows has one line for
each of them under its heading (`lines_malformedMessage`), and gives back all rows.
-/

namespace SolverInput

lemma Bucket.name_injective {b b' : Bucket} (h : b.name = b'.name) : b = b' := by
  cases b <;> cases b' <;> simp_all [Bucket.name]

lemma Bucket.space_not_mem_name (b : Bucket) : ' ' ∉ b.name.toList := by
  cases b <;> decide

lemma Bucket.feed_not_mem_name (b : Bucket) : '\n' ∉ b.name.toList := by
  cases b <;> decide

/-- A character that is no digit does not occur in a written number. -/
lemma not_mem_toDigits_ten {c : Char} (hc : c.isDigit = false) (n : Nat) :
    c ∉ Nat.toDigits 10 n := by
  intro h
  rw [Nat.isDigit_of_mem_toDigits (by decide) (by decide) h] at hc
  cases hc

/-- A number is written in one way. -/
lemma toDigits_ten_inj {m n : Nat} (h : Nat.toDigits 10 m = Nat.toDigits 10 n) : m = n := by
  have hvalue := congrArg (Nat.ofDigitChars 10 · 0) h
  simpa only [Nat.ofDigitChars_ten_toDigits] using hvalue

namespace MalformedRow

/-- The parts of a message, with the characters at which they end. -/
lemma toList_message (row : MalformedRow) :
    row.message.toList = "malformed ".toList ++ (row.bucket.name.toList ++ ' ' ::
      ("row ".toList ++ (Nat.toDigits 10 row.index ++ ':' :: ' ' :: Text.quoted row.line))) := by
  have hmessage : row.message = "malformed " ++ row.bucket.name ++ " row " ++ Nat.repr row.index ++
      ": " ++ String.ofList (Text.quoted row.line) := rfl
  have hline : (String.ofList (Text.quoted row.line)).toList = Text.quoted row.line :=
    String.toList_ofList
  simp only [hmessage, String.toList_append, Nat.toList_repr, hline, List.append_assoc]
  rfl

lemma feed_not_mem_message (row : MalformedRow) : '\n' ∉ row.message.toList := by
  have hname := row.bucket.feed_not_mem_name
  have hindex : '\n' ∉ Nat.toDigits 10 row.index := not_mem_toDigits_ten (by decide) _
  have hline := Text.feed_not_mem_quoted row.line
  rw [toList_message]
  simp [hname, hindex, hline]

/-- The message of a malformed row gives back the row. -/
lemma message_inj {row row' : MalformedRow} : row.message = row'.message ↔ row = row' := by
  refine ⟨fun h => ?_, fun h => h ▸ rfl⟩
  have hcolon : ∀ n, ':' ∉ Nat.toDigits 10 n := not_mem_toDigits_ten (by decide)
  rw [← String.toList_inj, toList_message, toList_message, List.append_cancel_left_eq] at h
  obtain ⟨hname, h⟩ := Text.append_cons_inj row.bucket.space_not_mem_name
    row'.bucket.space_not_mem_name h
  rw [List.append_cancel_left_eq] at h
  obtain ⟨hindex, h⟩ := Text.append_cons_inj (hcolon _) (hcolon _) h
  have hquoted : Text.quoted row.line ++ [] = Text.quoted row'.line ++ [] := by
    rw [List.append_nil, List.append_nil, (List.cons.inj h).2]
  cases row
  cases row'
  rw [mk.injEq]
  exact ⟨Bucket.name_injective (String.toList_inj.1 hname), toDigits_ten_inj hindex,
    (Text.quoted_append_inj hquoted).1⟩

/-- The line of a row in the report of all malformed rows. -/
def reportLine (row : MalformedRow) : Text :=
  ' ' :: ' ' :: row.message.toList

lemma reportLine_inj {row row' : MalformedRow} :
    row.reportLine = row'.reportLine ↔ row = row' := by
  simp only [reportLine, List.cons.injEq, true_and, String.toList_inj, message_inj]

lemma feed_not_mem_reportLine (row : MalformedRow) : '\n' ∉ row.reportLine := by
  simp [reportLine, row.feed_not_mem_message]

/-- A line of the report ends in a quote. -/
lemma getLast?_reportLine (row : MalformedRow) : row.reportLine.getLast? = some '"' := by
  have hquote : row.reportLine = (' ' :: ' ' :: ("malformed ".toList ++ row.bucket.name.toList ++
      " row ".toList ++ Nat.toDigits 10 row.index ++ ": \"".toList ++
      row.line.flatMap Text.quotedChar)) ++ ['"'] := by
    simp [reportLine, toList_message, Text.quoted]
  rw [hquote, List.getLast?_concat]

end MalformedRow

/-! ## The report of all rows -/

/-- The heading of the report of malformed rows. -/
def malformedHeading (count : Nat) : Text :=
  Nat.toDigits 10 count ++ " malformed row(s)".toList

lemma toList_malformedMessage (rows : List MalformedRow) :
    (malformedMessage rows).toList
      = Text.joinLines (malformedHeading rows.length :: rows.map MalformedRow.reportLine) := by
  rw [Text.joinLines_cons, List.flatMap_map]
  simp [malformedMessage, malformedHeading, MalformedRow.reportLine, List.flatMap_map]

lemma feed_not_mem_malformedHeading (count : Nat) : '\n' ∉ malformedHeading count := by
  have hcount : '\n' ∉ Nat.toDigits 10 count := not_mem_toDigits_ten (by decide) count
  simp [malformedHeading, hcount]

lemma getLast?_malformedHeading (count : Nat) : (malformedHeading count).getLast? = some ')' := by
  simp [malformedHeading]

/-- The report has a heading, and one line for each row. -/
lemma lines_malformedMessage (rows : List MalformedRow) :
    Text.lines (malformedMessage rows).toList
      = malformedHeading rows.length :: rows.map MalformedRow.reportLine := by
  have hlines : ∀ line ∈ malformedHeading rows.length :: rows.map MalformedRow.reportLine,
      '\n' ∉ line ∧ line.getLast? ≠ some '\r' := by
    intro line hline
    rcases List.mem_cons.1 hline with rfl | hline
    · exact ⟨feed_not_mem_malformedHeading _, by simp [getLast?_malformedHeading]⟩
    · obtain ⟨row, -, rfl⟩ := List.mem_map.1 hline
      exact ⟨row.feed_not_mem_reportLine, by simp [row.getLast?_reportLine]⟩
  rw [toList_malformedMessage]
  exact (Text.lines_joinLines_eq_iff fun line hline => (hlines line hline).1).2
    ⟨by simp, fun line hline => (hlines line (List.dropLast_subset _ hline)).2⟩

/-- **The report of malformed rows loses nothing.** The message of a row is one line and gives back
the row, so the report of any rows is a heading with their number and one indented line for each of
them, in order, and gives back all rows. -/
theorem malformedMessage_gives_back_rows :
    (∀ row : MalformedRow, '\n' ∉ row.message.toList) ∧
    (∀ row row' : MalformedRow, row.message = row'.message ↔ row = row') ∧
    (∀ rows, Text.lines (malformedMessage rows).toList
      = (Nat.repr rows.length ++ " malformed row(s)").toList ::
        rows.map fun row => ("  " ++ row.message).toList) ∧
    (∀ rows, (Text.lines (malformedMessage rows).toList).length = rows.length + 1) ∧
    (∀ rows rows', malformedMessage rows = malformedMessage rows' ↔ rows = rows') := by
  refine ⟨MalformedRow.feed_not_mem_message, fun _ _ => MalformedRow.message_inj, fun rows => ?_,
    fun rows => ?_, fun rows rows' => ⟨fun h => ?_, fun h => h ▸ rfl⟩⟩
  · rw [lines_malformedMessage]
    simp [malformedHeading, MalformedRow.reportLine]
  · rw [lines_malformedMessage, List.length_cons, List.length_map]
  · have hlines := lines_malformedMessage rows
    rw [h, lines_malformedMessage, List.cons.injEq] at hlines
    have hinj : Function.Injective MalformedRow.reportLine := fun _ _ => MalformedRow.reportLine_inj.1
    exact (List.map_injective_iff.2 hinj hlines.2).symm

-- a line with a quote, a line feed and a combining accent
example : (malformedMessage [⟨.tokens, 12, ['"', '\n', 'e', '\u0301']⟩]).toList
    = "1 malformed row(s)\n  malformed tokens row 12: \"\\\"\\ne\\u\x7b301\x7d\"".toList := by
  decide +kernel

end SolverInput
