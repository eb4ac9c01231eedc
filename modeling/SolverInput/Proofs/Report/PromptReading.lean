import SolverInput.Proofs.Report.Echo
import SolverInput.Proofs.Text.Trim

/-!
# Readings of a prompt

The shape of an echoed line leaves open where its tag ends, since a `]` and a blank can also stand
in the text. All the ways to read a line as an echo are the type `EchoReading`, and the reader of
prompts takes the one with the longest tag (`echoed?_eq_some_iff`). A comment has one reading
(`CommentReading`, `comment?_eq_some_iff`), and no line has readings of both kinds, since an echo
starts with `>`.

The longest tag is found in two steps. What stands behind the opening bracket is the same in every
reading (`IsEchoBody.unique`), so a reading is a place in it where the tag can end (`IsTagCut`); and of
these places the search from the right finds the last one (`afterTag?_eq_some_iff`).
-/

namespace SolverInput

namespace Line

/-! ## Where a tag can end -/

/-- A place where a tag can end: a `]` with a blank behind it, and no line feed before it. -/
structure IsTagCut (t tag : Text) (blank : Char) (after : Text) : Prop where
  tag_feed : '\n' ∉ tag
  blank_blank : Text.isBlank blank = true
  eq_append : t = tag ++ ']' :: blank :: after

variable {t tag after line text body : Text} {blank : Char}

lemma IsTagCut.length_eq (h : IsTagCut t tag blank after) :
    t.length = tag.length + after.length + 2 := by
  rw [h.eq_append, List.length_append, List.length_cons, List.length_cons]
  omega

/-- One more character before a place where a tag can end belongs to the tag. -/
lemma IsTagCut.cons (h : IsTagCut t tag blank after) {c : Char} (hc : c ≠ '\n') :
    IsTagCut (c :: t) (c :: tag) blank after where
  tag_feed := by simp [hc.symm, h.tag_feed]
  blank_blank := h.blank_blank
  eq_append := by rw [h.eq_append, List.cons_append]

/-- The search finds a place where the tag can end. -/
lemma exists_isTagCut_of_afterTag? (h : afterTag? t = some after) :
    ∃ tag blank, IsTagCut t tag blank after := by
  induction t with
  | nil => cases h
  | cons c rest ih =>
    rw [afterTag?.eq_def] at h
    dsimp only at h
    split_ifs at h with hc
    split at h
    · rename_i text hrest
      cases h
      obtain ⟨tag, blank, hcut⟩ := ih hrest
      exact ⟨c :: tag, blank, hcut.cons hc⟩
    · split at h
      · rename_i b text _
        split_ifs at h with hend
        cases h
        exact ⟨[], b, List.not_mem_nil, hend.2, by rw [hend.1]; rfl⟩
      · cases h

/-- The search succeeds wherever a tag can end, and it goes at least as far. -/
lemma exists_afterTag?_of_isTagCut (h : IsTagCut t tag blank after) :
    ∃ after', afterTag? t = some after' ∧ after'.length ≤ after.length := by
  induction tag generalizing t with
  | nil =>
    obtain ⟨-, hblank, rfl⟩ := h
    rw [List.nil_append, afterTag?.eq_def]
    dsimp only
    rw [if_neg (by decide)]
    cases hrest : afterTag? (blank :: after) with
    | some after' =>
      -- a later end leaves less behind it
      obtain ⟨tag', blank', hcut⟩ := exists_isTagCut_of_afterTag? hrest
      have hlength := hcut.length_eq
      rw [List.length_cons] at hlength
      exact ⟨after', rfl, by omega⟩
    | none => exact ⟨after, by simp [hblank], Nat.le_refl _⟩
  | cons c tag ih =>
    obtain ⟨hfeed, hblank, rfl⟩ := h
    rw [List.mem_cons, not_or] at hfeed
    obtain ⟨after', hrest, hle⟩ := ih ⟨hfeed.2, hblank, rfl⟩
    refine ⟨after', ?_, hle⟩
    rw [List.cons_append, afterTag?.eq_def]
    dsimp only
    rw [if_neg (Ne.symm hfeed.1), hrest]

/-- Of all places where a tag can end, the search finds the one with the longest tag. -/
lemma afterTag?_eq_some_iff :
    afterTag? t = some after ↔ ∃ tag blank, IsTagCut t tag blank after ∧
      ∀ tag' blank' after', IsTagCut t tag' blank' after' → tag'.length ≤ tag.length := by
  constructor
  · intro h
    obtain ⟨tag, blank, hcut⟩ := exists_isTagCut_of_afterTag? h
    refine ⟨tag, blank, hcut, fun tag' blank' after' hcut' => ?_⟩
    obtain ⟨found, hfound, hle⟩ := exists_afterTag?_of_isTagCut hcut'
    obtain rfl : after = found := Option.some.inj (h.symm.trans hfound)
    have hlength := hcut.length_eq
    have hlength' := hcut'.length_eq
    omega
  · rintro ⟨tag, blank, hcut, hlongest⟩
    obtain ⟨found, hfound, hle⟩ := exists_afterTag?_of_isTagCut hcut
    obtain ⟨tag', blank', hcut'⟩ := exists_isTagCut_of_afterTag? hfound
    have htag := hlongest tag' blank' found hcut'
    have hlength := hcut.length_eq
    have hlength' := hcut'.length_eq
    -- both leave an end of `t` of the same length
    have hsuffix : after <:+ t := ⟨tag ++ [']', blank], by simp [hcut.eq_append]⟩
    have hsuffix' : found <:+ t := ⟨tag' ++ [']', blank'], by simp [hcut'.eq_append]⟩
    have heq : found = after :=
      (List.suffix_of_suffix_length_le hsuffix' hsuffix hle).eq_of_length (by omega)
    rw [hfound, heq]

/-! ## Readings -/

/-- A way to read a line as an echo: `>`, blanks, a tag in square brackets, one blank, a text, and
what follows on later lines. The blank behind the tag can be a line feed. -/
structure EchoReading (line : Text) where
  gap : Text
  tag : Text
  blank : Char
  text : Text
  rest : Text
  gap_blanks : Text.IsBlanks gap
  tag_feed : '\n' ∉ tag
  blank_blank : Text.isBlank blank = true
  text_feed : '\n' ∉ text
  rest_feed : rest = [] ∨ rest.head? = some '\n'
  line_eq : line = '>' :: (gap ++ '[' :: (tag ++ ']' :: blank :: (text ++ rest)))

/-- A way to read a line as a comment: blanks, and a text from its `#` to the end of the line, which
is the end of all. -/
structure CommentReading (line : Text) where
  gap : Text
  text : Text
  gap_blanks : Text.IsBlanks gap
  text_head : text.head? = some '#'
  text_feed : '\n' ∉ text
  line_eq : line = gap ++ text

/-- What stands behind the opening bracket of an echo. -/
def IsEchoBody (line body : Text) : Prop :=
  ∃ gap, Text.IsBlanks gap ∧ line = '>' :: (gap ++ '[' :: body)

/-- Blanks are skipped up to the first character that is none. -/
lemma skipBlanks_append_cons {gap : Text} (hgap : Text.IsBlanks gap) {c : Char}
    (hc : Text.isBlank c = false) (rest : Text) :
    Text.skipBlanks (gap ++ c :: rest) = c :: rest := by
  unfold Text.skipBlanks
  rw [List.dropWhile_append_of_pos hgap, List.dropWhile_cons_of_neg (by simp [hc])]

/-- A text is its blanks and what is left when they are skipped. -/
lemma exists_eq_append_skipBlanks (t : Text) :
    ∃ gap, Text.IsBlanks gap ∧ t = gap ++ Text.skipBlanks t :=
  ⟨t.takeWhile Text.isBlank, fun _ hc => List.mem_takeWhile_imp hc,
    List.takeWhile_append_dropWhile.symm⟩

/-- What stands behind the opening bracket is searched for the end of the tag. -/
lemma echoed?_of_isEchoBody (h : IsEchoBody line body) :
    echoed? line = (afterTag? body).map fun after => after.takeWhile (· != '\n') := by
  obtain ⟨gap, hgap, rfl⟩ := h
  have hskip : Text.skipBlanks (gap ++ '[' :: body) = '[' :: body :=
    skipBlanks_append_cons hgap (by decide) body
  simp only [echoed?, hskip]

lemma exists_isEchoBody_of_echoed? (h : echoed? line = some text) :
    ∃ body, IsEchoBody line body := by
  unfold echoed? at h
  split at h
  · rename_i rest
    split at h
    · rename_i body hskip
      obtain ⟨gap, hgap, hrest⟩ := exists_eq_append_skipBlanks rest
      rw [hskip] at hrest
      exact ⟨body, gap, hgap, by rw [← hrest]⟩
    · cases h
  · cases h

/-- The blanks after the `>` end at the opening bracket, so this is one place. -/
lemma IsEchoBody.unique {body' : Text} (h : IsEchoBody line body) (h' : IsEchoBody line body') :
    body = body' := by
  obtain ⟨gap, hgap, hline⟩ := h
  obtain ⟨gap', hgap', hline'⟩ := h'
  have hrest := (List.cons.inj (hline.symm.trans hline')).2
  have hskip := congrArg Text.skipBlanks hrest
  rw [skipBlanks_append_cons hgap (by decide), skipBlanks_append_cons hgap' (by decide)] at hskip
  exact (List.cons.inj hskip).2

namespace EchoReading

lemma isEchoBody (r : EchoReading line) :
    IsEchoBody line (r.tag ++ ']' :: r.blank :: (r.text ++ r.rest)) :=
  ⟨r.gap, r.gap_blanks, r.line_eq⟩

/-- A reading ends the tag at a place where it can end. -/
lemma isTagCut (r : EchoReading line) (hbody : IsEchoBody line body) :
    IsTagCut body r.tag r.blank (r.text ++ r.rest) where
  tag_feed := r.tag_feed
  blank_blank := r.blank_blank
  eq_append := hbody.unique r.isEchoBody

/-- The text of a reading goes on to the end of its line. -/
lemma takeWhile_text_append_rest (r : EchoReading line) :
    (r.text ++ r.rest).takeWhile (· != '\n') = r.text := by
  have htext : ∀ c ∈ r.text, (c != '\n') = true := by
    intro c hc
    have hne : c ≠ '\n' := fun heq => r.text_feed (heq ▸ hc)
    simpa using hne
  have hrest : r.rest.takeWhile (· != '\n') = [] := by
    rcases r.rest_feed with hnil | hhead
    · rw [hnil]
      rfl
    · obtain ⟨more, hmore⟩ := List.head?_eq_some_iff.1 hhead
      rw [hmore]
      rfl
  rw [List.takeWhile_append_of_pos htext, hrest, List.append_nil]

lemma head?_line (r : EchoReading line) : line.head? = some '>' := by
  rw [r.line_eq]
  rfl

end EchoReading

/-- Where a tag can end, there is a reading that ends it. -/
lemma exists_echoReading_of_isTagCut (hbody : IsEchoBody line body)
    (hcut : IsTagCut body tag blank after) :
    ∃ r : EchoReading line, r.tag = tag ∧ r.text = after.takeWhile (· != '\n') := by
  obtain ⟨gap, hgap, hline⟩ := hbody
  refine ⟨{ gap, tag, blank, text := after.takeWhile (· != '\n')
            rest := after.dropWhile (· != '\n'), gap_blanks := hgap
            tag_feed := hcut.tag_feed, blank_blank := hcut.blank_blank
            text_feed := ?_, rest_feed := ?_, line_eq := ?_ }, rfl, rfl⟩
  · intro hfeed
    simpa using List.mem_takeWhile_imp hfeed
  · have hhead := List.head?_dropWhile_not (· != '\n') after
    cases hrest : after.dropWhile (· != '\n') with
    | nil => exact .inl rfl
    | cons c more =>
      rw [hrest] at hhead
      exact .inr (by simpa using hhead)
  · rw [hline, hcut.eq_append, List.takeWhile_append_dropWhile]

/-! ## What is read -/

/-- An echo is read with the longest tag. -/
lemma echoed?_eq_some_iff :
    echoed? line = some text ↔
      ∃ r : EchoReading line, r.text = text ∧
        ∀ r' : EchoReading line, r'.tag.length ≤ r.tag.length := by
  constructor
  · intro h
    obtain ⟨body, hbody⟩ := exists_isEchoBody_of_echoed? h
    rw [echoed?_of_isEchoBody hbody] at h
    obtain ⟨after, hafter, rfl⟩ := Option.map_eq_some_iff.1 h
    obtain ⟨tag, blank, hcut, hlongest⟩ := afterTag?_eq_some_iff.1 hafter
    obtain ⟨r, rfl, htext⟩ := exists_echoReading_of_isTagCut hbody hcut
    exact ⟨r, htext, fun r' => hlongest _ _ _ (r'.isTagCut hbody)⟩
  · rintro ⟨r, rfl, hlongest⟩
    have hafter : afterTag? (r.tag ++ ']' :: r.blank :: (r.text ++ r.rest))
        = some (r.text ++ r.rest) := by
      refine afterTag?_eq_some_iff.2 ⟨r.tag, r.blank, r.isTagCut r.isEchoBody, ?_⟩
      intro tag' blank' after' hcut'
      obtain ⟨r', rfl, -⟩ := exists_echoReading_of_isTagCut r.isEchoBody hcut'
      exact hlongest r'
    rw [echoed?_of_isEchoBody r.isEchoBody, hafter, Option.map_some,
      r.takeWhile_text_append_rest]

/-- A line with a reading as an echo is read as an echo. -/
lemma isSome_echoed?_iff : (echoed? line).isSome = true ↔ Nonempty (EchoReading line) := by
  constructor
  · intro h
    obtain ⟨text, htext⟩ := Option.isSome_iff_exists.1 h
    obtain ⟨r, -, -⟩ := echoed?_eq_some_iff.1 htext
    exact ⟨r⟩
  · rintro ⟨r⟩
    obtain ⟨after, hafter, -⟩ := exists_afterTag?_of_isTagCut (r.isTagCut r.isEchoBody)
    rw [echoed?_of_isEchoBody r.isEchoBody, hafter]
    rfl

lemma comment?_eq_some_iff :
    comment? line = some text ↔ ∃ r : CommentReading line, r.text = text := by
  constructor
  · intro h
    unfold comment? at h
    split at h
    · rename_i rest hskip
      split_ifs at h with hfeed
      cases h
      obtain ⟨gap, hgap, hline⟩ := exists_eq_append_skipBlanks line
      rw [hskip] at hline
      exact ⟨⟨gap, '#' :: rest, hgap, rfl, by simp [hfeed], hline⟩, rfl⟩
    · cases h
  · rintro ⟨r, rfl⟩
    obtain ⟨rest, hrest⟩ := List.head?_eq_some_iff.1 r.text_head
    have hfeed : '\n' ∉ rest := fun h => r.text_feed (by simp [hrest, h])
    have hskip : Text.skipBlanks line = '#' :: rest := by
      rw [r.line_eq, hrest, skipBlanks_append_cons r.gap_blanks (by decide)]
    unfold comment?
    rw [hskip]
    simp only [hfeed, if_false, hrest]

/-- A line with a reading as a comment starts with a blank or a `#`, so it has none as an echo. -/
lemma isEmpty_echoReading (r : CommentReading line) : IsEmpty (EchoReading line) := by
  refine ⟨fun e => ?_⟩
  have hhead := e.head?_line
  rw [r.line_eq] at hhead
  cases hgap : r.gap with
  | nil =>
    rw [hgap, List.nil_append, r.text_head] at hhead
    exact absurd hhead (by decide)
  | cons c more =>
    rw [hgap] at hhead
    have hblank : Text.isBlank c = true := r.gap_blanks c (by simp [hgap])
    rw [Option.some.inj hhead] at hblank
    exact absurd hblank (by decide)

lemma prompt?_eq_echoed_iff : prompt? line = some (.echoed text) ↔ echoed? line = some text := by
  unfold prompt?
  cases echoed? line with
  | some text' => simp
  | none => simp

lemma prompt?_eq_comment_iff :
    prompt? line = some (.comment text) ↔ echoed? line = none ∧ comment? line = some text := by
  unfold prompt?
  cases echoed? line with
  | some text' => simp
  | none => simp

lemma prompt?_eq_none_iff : prompt? line = none ↔ echoed? line = none ∧ comment? line = none := by
  unfold prompt?
  cases echoed? line with
  | some text' => simp
  | none => simp

end Line

/-! ## Lines without a line feed -/

/-- What stands before a text and holds no `]` has no part in its last tag end. -/
lemma Text.afterLastTagEnd?_append_of_not_mem {before : Text} (h : ']' ∉ before) (t : Text) :
    afterLastTagEnd? (before ++ t) = afterLastTagEnd? t := by
  induction before with
  | nil => rfl
  | cons c rest ih =>
    rw [List.mem_cons, not_or] at h
    have hstarts : startsWithTagEnd (c :: (rest ++ t)) = false := by
      cases rest ++ t with
      | nil => rfl
      | cons b more => simp [startsWithTagEnd, Ne.symm h.1]
    rw [List.cons_append, afterLastTagEnd?_cons, ih h.2, hstarts]
    simp

namespace Line

variable {line text : Text}

/-- On a line without a line feed, the text of an echo is what follows the last tag end of the
line. -/
lemma echoed?_eq_afterLastTagEnd? (r : EchoReading line) (hfeed : '\n' ∉ line) :
    echoed? line = Text.afterLastTagEnd? line := by
  obtain ⟨body, hbody⟩ : ∃ body, IsEchoBody line body := ⟨_, r.isEchoBody⟩
  have hechoed := echoed?_of_isEchoBody hbody
  obtain ⟨gap, hgap, hline⟩ := hbody
  have hbefore : ']' ∉ '>' :: (gap ++ ['[']) := by
    have hbracket : ']' ∉ gap := fun h => absurd (hgap _ h) (by decide)
    simp [hbracket]
  have hbodyFeed : '\n' ∉ body := fun h => hfeed (by simp [hline, h])
  have hcut : line = ('>' :: (gap ++ ['['])) ++ body := by simp [hline]
  have hlast : Text.afterLastTagEnd? line = Text.afterLastTagEnd? body := by
    rw [hcut]
    exact Text.afterLastTagEnd?_append_of_not_mem hbefore body
  rw [hechoed, hlast, ← afterTag?_eq hbodyFeed]
  -- the text ends where the line ends
  cases hafter : afterTag? body with
  | none => rfl
  | some after =>
    obtain ⟨tag, blank, htag⟩ := exists_isTagCut_of_afterTag? hafter
    have hall : ∀ c ∈ after, (c != '\n') = true := by
      intro c hc
      have hne : c ≠ '\n' := by
        rintro rfl
        exact hbodyFeed (by simp [htag.eq_append, hc])
      simpa using hne
    rw [Option.map_some, List.takeWhile_eq_self_iff.2 hall]

/-- **A prompt is read by its pattern, with the longest tag.** A line is an echo of a text exactly
if a reading of it as an echo has this text and no reading has a longer tag, and it is a comment
exactly if it has a reading as one. It never has readings of both kinds, and it is no prompt exactly
if it has none. On a line without a line feed, the text of an echo is what follows the last `]` that
stands directly before a blank. -/
theorem prompt?_agrees_with_readings (line : Text) :
    (∀ text, prompt? line = some (.echoed text) ↔
      ∃ r : EchoReading line, r.text = text ∧
        ∀ r' : EchoReading line, r'.tag.length ≤ r.tag.length) ∧
    (∀ text, prompt? line = some (.comment text) ↔ ∃ r : CommentReading line, r.text = text) ∧
    ¬ (Nonempty (EchoReading line) ∧ Nonempty (CommentReading line)) ∧
    (prompt? line = none ↔ IsEmpty (EchoReading line) ∧ IsEmpty (CommentReading line)) ∧
    ('\n' ∉ line → ∀ text, prompt? line = some (.echoed text) ↔
      Nonempty (EchoReading line) ∧ Text.afterLastTagEnd? line = some text) := by
  have hecho : echoed? line = none ↔ IsEmpty (EchoReading line) := by
    rw [← not_nonempty_iff, ← isSome_echoed?_iff, Option.not_isSome_iff_eq_none]
  have hcomment : comment? line = none ↔ IsEmpty (CommentReading line) := by
    rw [Option.eq_none_iff_forall_ne_some, ← not_nonempty_iff]
    constructor
    · rintro h ⟨r⟩
      exact h r.text (comment?_eq_some_iff.2 ⟨r, rfl⟩)
    · intro h text htext
      obtain ⟨r, -⟩ := comment?_eq_some_iff.1 htext
      exact h ⟨r⟩
  refine ⟨fun text => ?_, fun text => ?_, ?_, ?_, fun hfeed text => ?_⟩
  · rw [prompt?_eq_echoed_iff, echoed?_eq_some_iff]
  · rw [prompt?_eq_comment_iff, comment?_eq_some_iff, hecho]
    exact ⟨fun h => h.2, fun ⟨r, htext⟩ => ⟨isEmpty_echoReading r, r, htext⟩⟩
  · rintro ⟨⟨e⟩, ⟨r⟩⟩
    exact (isEmpty_echoReading r).false e
  · rw [prompt?_eq_none_iff, hecho, hcomment]
  · rw [prompt?_eq_echoed_iff]
    constructor
    · intro h
      obtain ⟨r, -, -⟩ := echoed?_eq_some_iff.1 h
      exact ⟨⟨r⟩, by rw [← echoed?_eq_afterLastTagEnd? r hfeed, h]⟩
    · rintro ⟨⟨r⟩, h⟩
      rw [echoed?_eq_afterLastTagEnd? r hfeed, h]

/-- An echo with an index in its text has two readings, and the text of the one with the longer tag
is read. -/
theorem prompt?_agrees_with_readings_index :
    let line : Text := ">[Solver]\ta[0] = 1".toList
    '\n' ∉ line ∧
    (∃ r r' : EchoReading line, r.text = "= 1".toList ∧ r'.text = "a[0] = 1".toList ∧
      r'.tag.length < r.tag.length) ∧
    prompt? line = some (.echoed "= 1".toList) := by
  intro line
  let r : EchoReading line :=
    { gap := [], tag := "Solver]\ta[0".toList, blank := ' ', text := "= 1".toList, rest := []
      gap_blanks := by decide, tag_feed := by decide, blank_blank := by decide
      text_feed := by decide, rest_feed := .inl rfl, line_eq := by decide }
  let r' : EchoReading line :=
    { gap := [], tag := "Solver".toList, blank := '\t', text := "a[0] = 1".toList, rest := []
      gap_blanks := by decide, tag_feed := by decide, blank_blank := by decide
      text_feed := by decide, rest_feed := .inl rfl, line_eq := by decide }
  have hfeed : '\n' ∉ line := by decide
  obtain ⟨-, -, -, -, hlast⟩ := prompt?_agrees_with_readings line
  exact ⟨hfeed, ⟨r, r', rfl, rfl, by decide⟩, (hlast hfeed _).2 ⟨⟨r⟩, by decide⟩⟩

end Line

end SolverInput
