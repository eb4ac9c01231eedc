import SolverInput.Report.Row
import Mathlib.Data.List.DropRight

/-!
# Rows of the inputs table

A row keeps what follows its last bar. `Text.afterLast` says what that is, without a search from
the left: the longest part at the end that holds no bar. The reader of rows gives exactly this
part, whatever stands before it (`rowContent?_of_bars`).

A text is cut at the last place where a separator stands. This is never further to the left than a
place where one is known to stand (`exists_splitAtLast?`), and it is this place if the last character
of the separator does not occur behind it (`splitAtLast?_append_sep`).
-/

namespace SolverInput

namespace Text

/-- What follows the last `x` of a text, or the whole text if there is none. -/
def afterLast (x : Char) (t : Text) : Text :=
  t.rtakeWhile (· != x)

lemma not_mem_afterLast (x : Char) (t : Text) : x ∉ afterLast x t := by
  intro h
  simpa using List.mem_rtakeWhile_imp h

/-- Exactly a text without `x` is kept as a whole. -/
lemma afterLast_eq_self_iff {x : Char} {t : Text} : afterLast x t = t ↔ x ∉ t := by
  unfold afterLast
  rw [List.rtakeWhile_eq_self_iff]
  constructor
  · intro h hx
    simpa using h x hx
  · intro h d hd
    simpa using fun heq : d = x => h (heq ▸ hd)

lemma afterLast_suffix (x : Char) (t : Text) : afterLast x t <:+ t :=
  List.rtakeWhile_suffix _ _

/-- Behind one more `x`, what follows the last `x` stands behind an `x`. -/
lemma exists_cons_eq_append_afterLast (x : Char) (t : Text) :
    ∃ before, x :: t = before ++ x :: afterLast x t := by
  have hcut : t.rdropWhile (· != x) ++ afterLast x t = t := List.rdropWhile_append_rtakeWhile
  rcases List.eq_nil_or_concat (t.rdropWhile (· != x)) with hnil | ⟨before, c, hconcat⟩
  · refine ⟨[], ?_⟩
    rw [hnil, List.nil_append] at hcut
    rw [hcut, List.nil_append]
  · -- what stands before it ends in `x`
    have hc : c = x := by
      have hlast := List.rdropWhile_last_not (· != x) t (by simp [hconcat])
      simpa [hconcat] using hlast
    refine ⟨x :: before, ?_⟩
    rw [hconcat, hc, List.concat_append] at hcut
    rw [List.cons_append, hcut]

/-- A text that is cut in two is what stands before the separator, the separator, and the rest. -/
lemma eq_of_splitAtLast? {sep t before after : Text}
    (h : splitAtLast? sep t = some (before, after)) : t = before ++ sep ++ after := by
  induction t generalizing before with
  | nil =>
    rw [splitAtLast?] at h
    split_ifs at h with hsep
    cases h
    rw [hsep]
    rfl
  | cons c rest ih =>
    rw [splitAtLast?] at h
    split at h
    · rename_i before' after' hrest
      cases h
      rw [ih hrest]
      rfl
    · obtain ⟨after', hbegins, hafter⟩ := Option.map_eq_some_iff.1 h
      cases hafter
      rw [List.isPrefixOf?_eq_some_iff_append_eq] at hbegins
      exact hbegins.symm

/-- A text is cut wherever it has the separator, or further to the right. -/
lemma exists_splitAtLast? (before sep after : Text) :
    ∃ before' after', splitAtLast? sep (before ++ sep ++ after) = some (before', after') ∧
      before <+: before' := by
  induction before with
  | nil =>
    cases ht : [] ++ sep ++ after with
    | nil =>
      have hsep : sep = [] := by simp_all
      exact ⟨[], [], by simp [splitAtLast?, hsep], List.nil_prefix⟩
    | cons c rest =>
      have hbegins : sep.isPrefixOf? (c :: rest) = some after := by
        rw [List.isPrefixOf?_eq_some_iff_append_eq, ← ht, List.nil_append]
      rw [splitAtLast?]
      cases splitAtLast? sep rest with
      | some cut => exact ⟨c :: cut.1, cut.2, rfl, List.nil_prefix⟩
      | none => exact ⟨[], after, by rw [hbegins]; rfl, List.nil_prefix⟩
  | cons c before ih =>
    obtain ⟨before', after', hsplit, hbegins⟩ := ih
    refine ⟨c :: before', after', ?_, List.cons_prefix_cons.2 ⟨rfl, hbegins⟩⟩
    rw [List.cons_append, List.cons_append, splitAtLast?, hsplit]

/-- A text is cut at a separator if the last character of the separator does not occur behind it:
a separator further to the right would end there. -/
lemma splitAtLast?_append_sep {sep after : Text} {x : Char} (hsep : sep.getLast? = some x)
    (before : Text) (h : x ∉ after) :
    splitAtLast? sep (before ++ sep ++ after) = some (before, after) := by
  obtain ⟨init, rfl⟩ := List.getLast?_eq_some_iff.1 hsep
  obtain ⟨before', after', hsplit, further, rfl⟩ := exists_splitAtLast? before (init ++ [x]) after
  have hcut := eq_of_splitAtLast? hsplit
  simp only [List.append_assoc, List.append_cancel_left_eq, List.singleton_append] at hcut
  cases further with
  | nil =>
    have hafter : after = after' := by simpa using hcut
    rw [hsplit, List.append_nil, hafter]
  | cons c further =>
    -- what stands behind the separator ends in the other separator
    have hbehind : after = ((c :: further) ++ init).drop (init.length + 1) ++ x :: after' := by
      calc after = (init ++ x :: after).drop (init.length + 1) := by simp [List.drop_append]
        _ = (((c :: further) ++ init) ++ x :: after').drop (init.length + 1) := by
          rw [hcut, List.append_assoc]
        _ = ((c :: further) ++ init).drop (init.length + 1) ++ x :: after' :=
          List.drop_append_of_le_length (by simp)
    exact absurd (by simp [hbehind]) h

lemma splitAtLast?_append {x : Char} (before : Text) {after : Text} (h : x ∉ after) :
    splitAtLast? [x] (before ++ x :: after) = some (before, after) := by
  simpa using splitAtLast?_append_sep (show [x].getLast? = some x from rfl) before h

/-- The last occurrence is the one that a text is cut at. -/
lemma not_mem_of_splitAtLast? {x : Char} {t before after : Text}
    (h : splitAtLast? [x] t = some (before, after)) : x ∉ after := by
  intro hmem
  obtain ⟨front, rest, hcut⟩ := List.append_of_mem hmem
  obtain ⟨before', after', hsplit, hbegins⟩ := exists_splitAtLast? (before ++ x :: front) [x] rest
  have ht : t = before ++ x :: front ++ [x] ++ rest := by
    rw [eq_of_splitAtLast? h, hcut]
    simp
  rw [← ht, h] at hsplit
  cases hsplit
  have hlength := hbegins.length_le
  rw [List.length_append, List.length_cons] at hlength
  omega

/-- A text that is not cut at `x` holds none. -/
lemma not_mem_of_splitAtLast?_eq_none {x : Char} {t : Text} (h : splitAtLast? [x] t = none) :
    x ∉ t := by
  intro hmem
  obtain ⟨front, rest, rfl⟩ := List.append_of_mem hmem
  obtain ⟨before', after', hsplit, -⟩ := exists_splitAtLast? front [x] rest
  rw [List.append_assoc, List.singleton_append, h] at hsplit
  cases hsplit

/-- What follows an `x` and holds none is what follows the last one. -/
lemma afterLast_append {x : Char} (before : Text) {after : Text} (h : x ∉ after) :
    afterLast x (before ++ x :: after) = after := by
  have hafter : ∀ c ∈ after.reverse, (c != x) = true := by
    intro c hc
    have hne : c ≠ x := fun heq => h (heq ▸ List.mem_reverse.1 hc)
    simpa using hne
  unfold afterLast List.rtakeWhile
  rw [List.reverse_append, List.reverse_cons, List.append_assoc, List.takeWhile_append_of_pos hafter]
  simp

end Text

namespace Line

/-- A number in front is a digit in front. -/
lemma startsWithDigit_append {number : Text} (hne : number ≠ [])
    (hdigits : ∀ c ∈ number, c.isDigit = true) (rest : Text) :
    startsWithDigit (number ++ rest) = true := by
  obtain ⟨digit, digits, rfl⟩ := List.exists_cons_of_ne_nil hne
  exact hdigits digit List.mem_cons_self

/-- A row that starts with a digit and has a bar before its last one keeps what follows the last
one. -/
lemma rowContent?_append {before content : Text}
    (hdigit : startsWithDigit (before ++ '|' :: content) = true)
    (hfeed : '\n' ∉ before ++ '|' :: content) (hbar : '|' ∈ before) (hlast : '|' ∉ content) :
    rowContent? (before ++ '|' :: content) = some content := by
  unfold rowContent?
  rw [if_pos ⟨hdigit, hfeed⟩, Text.splitAtLast?_append before hlast]
  simp only [hbar, if_true]

/-- A row with two bars keeps what follows its last one, wherever the two bars stand. -/
lemma rowContent?_of_bars {before rest : Text}
    (hdigit : startsWithDigit (before ++ '|' :: rest) = true) (hfeed : '\n' ∉ before ++ '|' :: rest)
    (hbar : '|' ∈ before) :
    rowContent? (before ++ '|' :: rest) = some (Text.afterLast '|' (before ++ '|' :: rest)) := by
  obtain ⟨more, hmore⟩ := Text.exists_cons_eq_append_afterLast '|' rest
  have hlast := Text.not_mem_afterLast '|' rest
  rw [hmore, ← List.append_assoc] at hdigit hfeed ⊢
  rw [rowContent?_append hdigit hfeed (by simp [hbar]) hlast, Text.afterLast_append _ hlast]

/-- The content of a row is the end of the row. -/
lemma suffix_of_rowContent? {line content : Text} (h : rowContent? line = some content) :
    content <:+ line := by
  unfold rowContent? at h
  split_ifs at h
  split at h
  · rename_i before content' hsplit
    split_ifs at h
    cases h
    rw [Text.eq_of_splitAtLast? hsplit]
    exact List.suffix_append _ _
  · cases h

end Line

end SolverInput
