import SolverInput.Proofs.Report.Row
import Mathlib.Data.Prod.Lex
import Mathlib.Data.Set.Finite.Lemmas
import Mathlib.Order.Interval.Finset.Nat

/-!
# Readings of a row of the inputs table

Any two bars of a numbered line can be the ones that end its columns, and any of its first digits
can be the last one of its number, so a line with `n` bars has a number of readings that grows with
the square of `n`. They are the type `RowReading`, and three rules choose one content among them:

* the greedy rule, which prefers the longest number, then the longest first column, then the longest
  second one (`RowReading.IsGreedy`);
* the shortest content;
* the content without a bar.

The three rules agree, since a reading with a bar in its content has another reading beside it that
is preferred by the first two rules: its columns go one bar further (`RowReading.exists_further`).
The reader of rows gives the content that they choose.
-/

namespace SolverInput.Line

/-- A way to read a line as a row: a number, two columns with a bar behind each, and a content, all
without line feeds. -/
structure RowReading (line : Text) where
  number : Text
  first : Text
  second : Text
  content : Text
  number_ne : number ≠ []
  number_digits : ∀ c ∈ number, c.isDigit = true
  first_feed : '\n' ∉ first
  second_feed : '\n' ∉ second
  content_feed : '\n' ∉ content
  line_eq : line = number ++ first ++ '|' :: (second ++ '|' :: content)

variable {line content : Text}

lemma exists_cons_of_startsWithDigit (h : startsWithDigit line = true) :
    ∃ digit rest, line = digit :: rest ∧ digit.isDigit = true := by
  cases line with
  | nil => cases h
  | cons digit rest => exact ⟨digit, rest, rfl, h⟩

namespace RowReading

/-- The lengths of the parts before the content, in lexicographic order. -/
def spans (r : RowReading line) : Nat ×ₗ Nat ×ₗ Nat :=
  toLex (r.number.length, toLex (r.first.length, r.second.length))

/-- The greedy reading: no other one has a longer number, or the same number and a longer first
column, or the same number and first column and a longer second one. -/
def IsGreedy (r : RowReading line) : Prop :=
  ∀ r' : RowReading line, r'.spans ≤ r.spans

/-- The reading with the shortest content. -/
def IsShortest (r : RowReading line) : Prop :=
  ∀ r' : RowReading line, r.content.length ≤ r'.content.length

/-! ## The line of a reading -/

lemma length_eq (r : RowReading line) :
    line.length = r.number.length + r.first.length + r.second.length + r.content.length + 2 := by
  have h := congrArg List.length r.line_eq
  simp only [List.length_append, List.length_cons] at h
  omega

/-- The line of a reading, cut at the bar before its content. -/
lemma line_eq_append (r : RowReading line) :
    line = (r.number ++ r.first ++ '|' :: r.second) ++ '|' :: r.content :=
  r.line_eq.trans (by simp)

lemma cons_content_suffix (r : RowReading line) : '|' :: r.content <:+ line :=
  ⟨_, r.line_eq_append.symm⟩

/-- A content without a bar is what follows the last one. -/
lemma afterLast_line {r : RowReading line} (h : '|' ∉ r.content) :
    Text.afterLast '|' line = r.content := by
  rw [congrArg (Text.afterLast '|') r.line_eq_append]
  exact Text.afterLast_append _ h

lemma startsWithDigit_line (r : RowReading line) : startsWithDigit line = true := by
  have hline : line = r.number ++ (r.first ++ '|' :: (r.second ++ '|' :: r.content)) :=
    r.line_eq.trans (List.append_assoc ..)
  rw [hline]
  exact startsWithDigit_append r.number_ne r.number_digits _

lemma line_feed (r : RowReading line) : '\n' ∉ line := by
  have hnumber : '\n' ∉ r.number := fun h => absurd (r.number_digits _ h) (by decide)
  intro hline
  have hparts : '\n' ∈ r.number ++ r.first ++ '|' :: (r.second ++ '|' :: r.content) :=
    r.line_eq ▸ hline
  simp [hnumber, r.first_feed, r.second_feed, r.content_feed] at hparts

lemma two_le_count_line (r : RowReading line) : 2 ≤ line.count '|' := by
  have hcount := congrArg (List.count '|') r.line_eq
  simp only [List.count_append, List.count_cons_self] at hcount
  omega

/-- Where there are two bars behind a digit, there is a reading. -/
lemma exists_of_two_le_count (hdigit : startsWithDigit line = true) (hfeed : '\n' ∉ line)
    (hbars : 2 ≤ line.count '|') : Nonempty (RowReading line) := by
  obtain ⟨digit, rest, rfl, hnumber⟩ := exists_cons_of_startsWithDigit hdigit
  have hne : digit ≠ '|' := by
    rintro rfl
    exact absurd hnumber (by decide)
  rw [List.count_cons_of_ne hne] at hbars
  obtain ⟨first, rest, rfl, hfirst⟩ :=
    List.eq_append_cons_of_mem (List.count_pos_iff.1 (by omega : 0 < rest.count '|'))
  rw [List.count_append, List.count_eq_zero_of_not_mem hfirst, List.count_cons_self] at hbars
  obtain ⟨second, content, rfl⟩ :=
    List.append_of_mem (List.count_pos_iff.1 (by omega : 0 < rest.count '|'))
  simp only [List.mem_cons, List.mem_append, not_or] at hfeed
  obtain ⟨-, hfirstFeed, -, hsecondFeed, -, hcontentFeed⟩ := hfeed
  exact ⟨{ number := [digit], first, second, content, number_ne := by simp
           number_digits := by simpa using hnumber, first_feed := hfirstFeed
           second_feed := hsecondFeed, content_feed := hcontentFeed, line_eq := rfl }⟩

/-! ## Contents without a bar -/

/-- A bar in the content can end the second column, and the bar before it the first one. -/
lemma exists_further (r : RowReading line) (hbar : '|' ∈ r.content) :
    ∃ r' : RowReading line, r.spans < r'.spans ∧ r'.content.length < r.content.length := by
  obtain ⟨before, after, hcontent⟩ := List.append_of_mem hbar
  have hfeed := r.content_feed
  rw [hcontent] at hfeed
  simp only [List.mem_append, List.mem_cons, not_or] at hfeed
  have hline : line
      = r.number ++ (r.first ++ '|' :: r.second) ++ '|' :: (before ++ '|' :: after) :=
    r.line_eq.trans (by simp [hcontent])
  let r' : RowReading line :=
    { r with
      first := r.first ++ '|' :: r.second, second := before, content := after
      first_feed := by simp [r.first_feed, r.second_feed], second_feed := hfeed.1
      content_feed := hfeed.2.2, line_eq := hline }
  refine ⟨r', ?_, ?_⟩
  -- the number is the same, so the first column decides the order
  · have hfirst : r.first.length < r'.first.length := by simp [r']
    exact Prod.Lex.toLex_lt_toLex.2 (.inr ⟨rfl, Prod.Lex.toLex_lt_toLex.2 (.inl hfirst)⟩)
  · have hlength := congrArg List.length hcontent
    rw [List.length_append, List.length_cons] at hlength
    have hafter : r'.content.length = after.length := rfl
    omega

lemma IsGreedy.not_mem_content {r : RowReading line} (h : r.IsGreedy) : '|' ∉ r.content := by
  intro hbar
  obtain ⟨r', hspans, -⟩ := r.exists_further hbar
  exact absurd (h r') (not_le_of_gt hspans)

lemma IsShortest.not_mem_content {r : RowReading line} (h : r.IsShortest) : '|' ∉ r.content := by
  intro hbar
  obtain ⟨r', -, hlength⟩ := r.exists_further hbar
  exact absurd (h r') (Nat.not_le.2 hlength)

/-- A content without a bar is the shortest: a shorter one would have its bar inside of it. -/
lemma isShortest_of_not_mem {r : RowReading line} (h : '|' ∉ r.content) : r.IsShortest := by
  intro r'
  by_contra hlt
  have hsuffix : r.content <:+ line := (List.suffix_cons _ _).trans r.cons_content_suffix
  have hinside : '|' :: r'.content <:+ r.content :=
    List.suffix_of_suffix_length_le r'.cons_content_suffix hsuffix (by rw [List.length_cons]; omega)
  exact h (hinside.subset List.mem_cons_self)

/-- The parts of a reading are no longer than its line. -/
lemma finite_range_spans : (Set.range (@spans line)).Finite := by
  let lengths := Finset.Iic (line.length, line.length, line.length)
  let inOrder : Nat × Nat × Nat → Nat ×ₗ Nat ×ₗ Nat := fun n => toLex (n.1, toLex n.2)
  refine (lengths.finite_toSet.image inOrder).subset ?_
  rintro _ ⟨r, rfl⟩
  have hlength := r.length_eq
  refine ⟨(r.number.length, r.first.length, r.second.length), ?_, rfl⟩
  simp only [lengths, Finset.coe_Iic, Set.mem_Iic, Prod.mk_le_mk]
  omega

/-- Of the readings of a line one is greedy, if there are any. -/
lemma exists_isGreedy (r : RowReading line) : ∃ g : RowReading line, g.IsGreedy := by
  obtain ⟨-, ⟨g, rfl⟩, hg⟩ :=
    Set.exists_max_image (Set.range (@spans line)) id finite_range_spans ⟨_, r, rfl⟩
  exact ⟨g, fun r' => hg _ ⟨r', rfl⟩⟩

end RowReading

/-! ## What is read -/

/-- A line with a reading has a content, which is the one without a bar. -/
lemma rowContent?_of_reading (r : RowReading line) :
    rowContent? line = some (Text.afterLast '|' line) := by
  have hcut := r.line_eq_append
  have hdigit := r.startsWithDigit_line
  have hfeed := r.line_feed
  rw [hcut] at hdigit hfeed
  rw [congrArg rowContent? hcut, congrArg (Text.afterLast '|') hcut]
  exact rowContent?_of_bars hdigit hfeed (by simp)

/-- A line with a content starts with a digit, and it has two bars and no line feed. -/
lemma of_rowContent?_eq_some (h : rowContent? line = some content) :
    startsWithDigit line = true ∧ '\n' ∉ line ∧ 2 ≤ line.count '|' := by
  unfold rowContent? at h
  split_ifs at h with hstart
  split at h
  · rename_i before content' hsplit
    split_ifs at h with hbar
    have hcount := congrArg (List.count '|') (Text.eq_of_splitAtLast? hsplit)
    have hbefore : 0 < before.count '|' := List.count_pos_iff.2 hbar
    simp only [List.count_append, List.count_singleton_self] at hcount
    exact ⟨hstart.1, hstart.2, by omega⟩
  · cases h

lemma isSome_rowContent?_iff : (rowContent? line).isSome = true ↔ Nonempty (RowReading line) := by
  constructor
  · intro h
    obtain ⟨content, hcontent⟩ := Option.isSome_iff_exists.1 h
    obtain ⟨hdigit, hfeed, hbars⟩ := of_rowContent?_eq_some hcontent
    exact RowReading.exists_of_two_le_count hdigit hfeed hbars
  · rintro ⟨r⟩
    rw [rowContent?_of_reading r]
    rfl

/-- The content that is read is the one without a bar. -/
lemma rowContent?_eq_some_iff :
    rowContent? line = some content ↔
      ∃ r : RowReading line, r.content = content ∧ '|' ∉ content := by
  constructor
  · intro h
    -- there is a reading, and the greedy one has no bar in its content
    obtain ⟨r⟩ := isSome_rowContent?_iff.1 (Option.isSome_iff_exists.2 ⟨content, h⟩)
    obtain ⟨g, hg⟩ := r.exists_isGreedy
    have hread := rowContent?_of_reading g
    rw [RowReading.afterLast_line hg.not_mem_content, h] at hread
    obtain rfl : content = g.content := Option.some.inj hread
    exact ⟨g, rfl, hg.not_mem_content⟩
  · rintro ⟨r, rfl, hbar⟩
    rw [rowContent?_of_reading r, RowReading.afterLast_line hbar]

/-- **A row is read by its pattern.** A line has a content exactly if it starts with a digit, has no
line feed and has at least two bars, and the content is what follows its last bar. Of all readings
of the line it is the content of the greedy one, and of the one with the shortest content; and a
line without a content has no reading. -/
theorem rowContent?_agrees_with_readings (line : Text) :
    ((rowContent? line).isSome = true ↔
      (∃ digit rest, line = digit :: rest ∧ digit.isDigit = true) ∧ '\n' ∉ line ∧
        2 ≤ line.count '|') ∧
    (∀ content, rowContent? line = some content →
      '|' ∉ content ∧ ∃ before, line = before ++ '|' :: content) ∧
    (∀ content, rowContent? line = some content ↔
      ∃ r : RowReading line, r.content = content ∧ r.IsGreedy) ∧
    (∀ content, rowContent? line = some content ↔
      ∃ r : RowReading line, r.content = content ∧ r.IsShortest) ∧
    (rowContent? line = none ↔ IsEmpty (RowReading line)) := by
  refine ⟨⟨fun h => ?_, ?_⟩, fun content h => ?_, fun content => ?_, fun content => ?_, ?_⟩
  · obtain ⟨r⟩ := isSome_rowContent?_iff.1 h
    exact ⟨exists_cons_of_startsWithDigit r.startsWithDigit_line, r.line_feed, r.two_le_count_line⟩
  · rintro ⟨⟨digit, rest, rfl, hdigit⟩, hfeed, hbars⟩
    exact isSome_rowContent?_iff.2 (RowReading.exists_of_two_le_count hdigit hfeed hbars)
  · obtain ⟨r, rfl, hbar⟩ := rowContent?_eq_some_iff.1 h
    exact ⟨hbar, _, r.line_eq_append⟩
  · rw [rowContent?_eq_some_iff]
    constructor
    · rintro ⟨r, rfl, hbar⟩
      obtain ⟨g, hg⟩ := r.exists_isGreedy
      have hcontent : g.content = r.content := by
        rw [← RowReading.afterLast_line hg.not_mem_content, RowReading.afterLast_line hbar]
      exact ⟨g, hcontent, hg⟩
    · rintro ⟨r, rfl, hr⟩
      exact ⟨r, rfl, hr.not_mem_content⟩
  · rw [rowContent?_eq_some_iff]
    constructor
    · rintro ⟨r, rfl, hbar⟩
      exact ⟨r, rfl, RowReading.isShortest_of_not_mem hbar⟩
    · rintro ⟨r, rfl, hr⟩
      exact ⟨r, rfl, hr.not_mem_content⟩
  · rw [← not_nonempty_iff, ← isSome_rowContent?_iff, Option.not_isSome_iff_eq_none]

/-- A row with two digits and four bars has a reading that splits its number and keeps two bars in
its content. It is not the greedy one, which has the text after the last bar. -/
theorem rowContent?_agrees_with_readings_four_bars :
    let line : Text := "12 |a| |b|x = 1".toList
    let content : Text := "x = 1".toList
    rowContent? line = some content ∧
    ('|' ∉ content ∧ ∃ before, line = before ++ '|' :: content) ∧
    (∃ r : RowReading line, r.content = content ∧ r.IsGreedy) ∧
    ∃ r : RowReading line, r.content = " |b|x = 1".toList ∧ ¬ r.IsGreedy := by
  intro line content
  let r : RowReading line :=
    { number := "1".toList, first := "2 ".toList, second := "a".toList
      content := " |b|x = 1".toList, number_ne := by decide
      number_digits := List.forall_mem_singleton.2 rfl, first_feed := by decide
      second_feed := by decide, content_feed := by decide, line_eq := by decide }
  obtain ⟨-, hlast, hgreedy, -, -⟩ := rowContent?_agrees_with_readings line
  have hread : rowContent? line = some content := by decide
  exact ⟨hread, hlast content hread, (hgreedy content).1 hread, r, rfl,
    fun hr => hr.not_mem_content (by decide)⟩

end SolverInput.Line
