import SolverInput.Editor.Position
import SolverInput.Editor.Semantic
import SolverInput.Proofs.Text.Lines
import SolverInput.Report.Extraction

/-!
# Line endings

A text is its lines and their endings. Cutting it apart keeps the lines (`Text.lines`) and forgets
the endings; `Text.endings` reads them off the characters of the text. Joining the lines by these
endings gives the text back (`joinEnds_endingAt`), and joining them by any others changes nothing
that is computed from the text: its report and the extractions from it, its key tokens, and the
text before a position.
-/

namespace SolverInput

/-- The ending that a line feed makes behind a piece of text. -/
def LineEnd.behind (piece : Text) : LineEnd :=
  if piece.getLast? = some '\r' then .returnFeed else .feed

namespace Text

/-! ## The endings of a text -/

/-- The endings of the lines of a text, from the first line on: a line feed, or a carriage return
with a line feed right behind it. -/
def endings : Text → List LineEnd
  | [] => []
  | '\r' :: '\n' :: rest => .returnFeed :: endings rest
  | c :: rest => if c = '\n' then .feed :: endings rest else endings rest

/-- How line `i` of a text is ended. The last line has no ending; here it counts as ended by a line
feed. -/
def endingAt (t : Text) (i : Nat) : LineEnd :=
  (endings t).getD i .feed

/-- A character that is no line feed, and that has none right behind it, ends no line. -/
lemma endings_cons {c : Char} {rest : Text} (hc : c ≠ '\n') (hrest : rest.head? ≠ some '\n') :
    endings (c :: rest) = endings rest := by
  rw [endings]
  · rw [if_neg hc]
  · rintro tail - rfl
    exact hrest rfl

lemma endings_of_not_mem {t : Text} (h : '\n' ∉ t) : endings t = [] := by
  induction t with
  | nil => rfl
  | cons c rest ih =>
    rw [List.mem_cons, not_or] at h
    have hrest : rest.head? ≠ some '\n' := fun hhead => h.2 (List.mem_of_head? hhead)
    rw [endings_cons (Ne.symm h.1) hrest, ih h.2]

/-- The first line feed of a text ends its first line, with the carriage return before it. -/
lemma endings_append_cons {p : Text} (h : '\n' ∉ p) (t : Text) :
    endings (p ++ '\n' :: t) = .behind p :: endings t := by
  induction p with
  | nil => rfl
  | cons c rest ih =>
    rw [List.mem_cons, not_or] at h
    cases rest with
    | nil =>
      -- a carriage return right before the line feed is part of the ending
      by_cases hc : c = '\r'
      · subst hc
        rfl
      · have hbehind : LineEnd.behind [c] = .feed := by simp [LineEnd.behind, hc]
        rw [hbehind, List.cons_append, List.nil_append, endings, if_neg (Ne.symm h.1)]
        · rfl
        · exact fun tail hreturn => absurd hreturn hc
    | cons d rest =>
      have hd : (d :: rest ++ '\n' :: t).head? ≠ some '\n' := by
        have hne : d ≠ '\n' := fun heq => h.2 (heq ▸ List.mem_cons_self)
        simpa using hne
      have hbehind : LineEnd.behind (c :: d :: rest) = .behind (d :: rest) := by
        simp [LineEnd.behind]
      rw [List.cons_append, endings_cons (Ne.symm h.1) hd, ih h.2, hbehind]

/-- There is one ending for each line feed. -/
lemma length_endings (t : Text) : (endings t).length = t.count '\n' := by
  induction t using byPieces '\n' with
  | last t h =>
    rw [endings_of_not_mem h, List.count_eq_zero_of_not_mem h]
    rfl
  | piece p t hp ih =>
    rw [endings_append_cons hp, List.length_cons, ih, List.count_append,
      List.count_eq_zero_of_not_mem hp, List.count_cons_self]
    omega

/-! ## Lines and endings -/

/-- A piece and its line feed are the line that is cut off and its ending. -/
lemma dropReturn_append_behind (p : Text) :
    dropReturn p ++ (LineEnd.behind p).text = p ++ ['\n'] := by
  unfold dropReturn LineEnd.behind
  split
  · rename_i hlast
    obtain ⟨init, rfl⟩ := List.getLast?_eq_some_iff.1 hlast
    simp [LineEnd.text]
  · rfl

/-- A text is its lines, joined by its own endings. -/
lemma joinEnds_endingAt (t : Text) : joinEnds (endingAt t) (lines t) = t := by
  induction t using byPieces '\n' with
  | last t h =>
    rw [lines_of_not_mem h]
    rfl
  | piece p t hp ih =>
    have hfirst : endingAt (p ++ '\n' :: t) 0 = .behind p := by
      simp [endingAt, endings_append_cons hp]
    have hrest : (fun i => endingAt (p ++ '\n' :: t) (i + 1)) = endingAt t := by
      funext i
      simp [endingAt, endings_append_cons hp]
    rw [lines_append_cons hp, joinEnds_cons (lines_ne_nil t), hfirst, hrest, ih,
      dropReturn_append_behind, List.append_assoc, List.singleton_append]

/-- **Line endings are invisible.** Lines without line feeds, none of which but the last ends in a
carriage return, are the lines of the text that joins them by any endings, and texts that join them
by different endings have the same report, extractions, key tokens, highlighting and text before
each position. Conversely, every text has one line more than it has line feeds, no line holds a line
feed, and the lines joined by the endings of the text are the text again. -/
theorem line_endings_invisible :
    (∀ ls : List Text, ls ≠ [] → (∀ line ∈ ls, '\n' ∉ line) →
      (∀ line ∈ ls.dropLast, line.getLast? ≠ some '\r') →
      ∀ ends ends' : Nat → LineEnd,
        let t := joinEnds ends ls
        let t' := joinEnds ends' ls
        lines t = ls ∧
        Report.ofText t = Report.ofText t' ∧
        (Report.ofText t).rawInput = (Report.ofText t').rawInput ∧
        (Report.ofText t).fullInput = (Report.ofText t').fullInput ∧
        (Report.ofText t).tokenRows = (Report.ofText t').tokenRows ∧
        Key.tokens t = Key.tokens t' ∧
        Editor.SemanticToken.encode (Editor.SemanticToken.ofText t)
          = Editor.SemanticToken.encode (Editor.SemanticToken.ofText t') ∧
        ∀ position, Editor.textBefore t position = Editor.textBefore t' position) ∧
    ∀ t : Text,
      (lines t).length = t.count '\n' + 1 ∧ (∀ line ∈ lines t, '\n' ∉ line) ∧
      (endings t).length = t.count '\n' ∧ joinEnds (endingAt t) (lines t) = t := by
  constructor
  · intro ls hne hfeed hreturn ends ends' t t'
    have hlines : lines t = ls := lines_joinEnds hne hfeed hreturn ends
    have hsame : lines t = lines t' := hlines.trans (lines_joinEnds hne hfeed hreturn ends').symm
    have hreport : Report.ofText t = Report.ofText t' := by
      unfold Report.ofText
      rw [hsame]
    have htokens : Key.tokens t = Key.tokens t' := by
      unfold Key.tokens
      rw [hsame]
    refine ⟨hlines, hreport, by rw [hreport], by rw [hreport], by rw [hreport], htokens, ?_, ?_⟩
    · unfold Editor.SemanticToken.ofText
      rw [htokens]
    · intro position
      unfold Editor.textBefore
      rw [hsame]
  · intro t
    exact ⟨length_lines t, fun line => not_mem_of_mem_lines, length_endings t, joinEnds_endingAt t⟩

/-- Lines that are ended in different ways, with carriage returns inside a line and at the end of
the last one. -/
theorem line_endings_invisible_mixed :
    let ls : List Text := ["a.b = 1".toList, "\rx\ry".toList, [], "# c\r".toList]
    let ends : Nat → LineEnd := fun i => if i = 1 then .feed else .returnFeed
    let t := "a.b = 1\r\n\rx\ry\n\r\n# c\r".toList
    let t' := "a.b = 1\n\rx\ry\n\n# c\r".toList
    (ls ≠ [] ∧ (∀ line ∈ ls, '\n' ∉ line) ∧ ∀ line ∈ ls.dropLast, line.getLast? ≠ some '\r') ∧
      joinEnds ends ls = t ∧ joinEnds (fun _ => .feed) ls = t' ∧
      lines t = ls ∧ Report.ofText t = Report.ofText t' ∧ Key.tokens t = Key.tokens t' := by
  intro ls ends t t'
  have hne : ls ≠ [] := by decide
  have hfeed : ∀ line ∈ ls, '\n' ∉ line := by decide
  have hreturn : ∀ line ∈ ls.dropLast, line.getLast? ≠ some '\r' := by decide
  have ht : joinEnds ends ls = t := by decide
  have ht' : joinEnds (fun _ => .feed) ls = t' := by decide
  obtain ⟨hlines, hreport, -, -, -, htokens, -⟩ :=
    line_endings_invisible.1 ls hne hfeed hreturn ends fun _ => .feed
  rw [ht] at hlines
  rw [ht, ht'] at hreport htokens
  exact ⟨⟨hne, hfeed, hreturn⟩, ht, ht', hlines, hreport, htokens⟩

end Text

end SolverInput
