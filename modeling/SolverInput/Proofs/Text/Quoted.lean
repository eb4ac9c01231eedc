import SolverInput.Text.Digit
import SolverInput.Text.Quoted
import Mathlib.Data.List.Basic

/-!
# Quoted text is read in one way

A text in quotes can be told from whatever follows it: two texts that start with quoted texts and
are equal start with the same quoted text (`quoted_append_inj`). The argument goes from the
characters to the text.

* A character is written in one of three forms, a short name, its code point or itself
  (`IsQuotedForm`), and each form says where it ends (`IsQuotedForm.append_inj`). Which characters
  are hidden does not matter for this.
* None of these forms starts with a quote, so the quote that follows the last of them is found.

No form holds a line feed, so a quoted text stays on one line (`feed_not_mem_quoted`).
-/

namespace SolverInput.Text

/-- Two equal texts have the same part before the first separator. -/
lemma append_cons_inj {sep : Char} {p q s t : Text} (hp : sep ∉ p) (hq : sep ∉ q)
    (h : p ++ sep :: s = q ++ sep :: t) : p = q ∧ s = t := by
  have hsplit := congrArg (List.splitOn sep) h
  rw [List.splitOn_append_cons_self_of_not_mem hp, List.splitOn_append_cons_self_of_not_mem hq,
    List.cons.injEq] at hsplit
  obtain ⟨rfl, -⟩ := hsplit
  exact ⟨rfl, (List.cons.inj (List.append_cancel_left h)).2⟩

/-! ## Code points -/

lemma hexDigit?_digitChar {d : Nat} (h : d < 16) : hexDigit? (Nat.digitChar d) = some d := by
  have hall : ∀ d : Fin 16, hexDigit? (Nat.digitChar d) = some d.val := by decide
  exact hall ⟨d, h⟩

lemma digitsValue_concat (base : Nat) (digits : Text) (c : Char) :
    digitsValue base (digits ++ [c]) = digitsValue base digits * base + (hexDigit? c).getD 0 := by
  simp [digitsValue]

/-- A number is the value of its hexadecimal digits. -/
lemma digitsValue_toDigits (n : Nat) : digitsValue 16 (Nat.toDigits 16 n) = n := by
  induction n using Nat.strongRecOn with
  | _ n ih =>
    rw [Nat.toDigits_eq_if (by decide)]
    split_ifs with h
    · simp [digitsValue, hexDigit?_digitChar h]
    · have hlast : n % 16 < 16 := Nat.mod_lt n (by decide)
      rw [digitsValue_concat, ih (n / 16) (by omega), hexDigit?_digitChar hlast, Option.getD_some]
      omega

lemma isSome_hexDigit?_of_mem_toDigits {n : Nat} {c : Char} (h : c ∈ Nat.toDigits 16 n) :
    (hexDigit? c).isSome = true := by
  induction n using Nat.strongRecOn with
  | _ n ih =>
    rw [Nat.toDigits_eq_if (by decide)] at h
    split_ifs at h with hn
    · rw [List.mem_singleton.1 h, hexDigit?_digitChar hn]
      rfl
    · rcases List.mem_append.1 h with hinit | hlast
      · exact ih (n / 16) (by omega) hinit
      · rw [List.mem_singleton.1 hlast, hexDigit?_digitChar (Nat.mod_lt n (by decide))]
        rfl

/-- A character that is no hexadecimal digit does not occur among hexadecimal digits. -/
lemma not_mem_toDigits {c : Char} (h : hexDigit? c = none) (n : Nat) : c ∉ Nat.toDigits 16 n := by
  intro hc
  have hsome := isSome_hexDigit?_of_mem_toDigits hc
  rw [h] at hsome
  cases hsome

/-! ## Forms of a character -/

/-- The characters that are written by a backslash and a short name, with their names. -/
def shortNames : List (Char × Char) :=
  [('\x00', '0'), ('\t', 't'), ('\r', 'r'), ('\n', 'n'), ('"', '"'), ('\\', '\\')]

/-- The forms in which a character can be written between quotes. -/
inductive IsQuotedForm : Char → Text → Prop
  /-- A backslash and the short name. -/
  | short {c name : Char} (h : (c, name) ∈ shortNames) : IsQuotedForm c ['\\', name]
  /-- The code point, for any character. -/
  | code (c : Char) : IsQuotedForm c (codePoint c)
  /-- The character itself, if it has no short name. -/
  | plain {c : Char} (h : c ∉ shortNames.map Prod.fst) : IsQuotedForm c [c]

lemma isQuotedForm_quotedChar (c : Char) : IsQuotedForm c (quotedChar c) := by
  unfold quotedChar
  split_ifs with hnull htab hreturn hfeed hquote hbackslash hhidden
  · exact .short (by simp [hnull, shortNames])
  · exact .short (by simp [htab, shortNames])
  · exact .short (by simp [hreturn, shortNames])
  · exact .short (by simp [hfeed, shortNames])
  · exact .short (by simp [hquote, shortNames])
  · exact .short (by simp [hbackslash, shortNames])
  · exact .code c
  · exact .plain (by simp [shortNames, hnull, htab, hreturn, hfeed, hquote, hbackslash])

/-- A short name belongs to one character. -/
lemma eq_of_shortNames {c d name : Char} (hc : (c, name) ∈ shortNames)
    (hd : (d, name) ∈ shortNames) : c = d := by
  have hinj : ∀ p ∈ shortNames, ∀ q ∈ shortNames, p.2 = q.2 → p.1 = q.1 := by decide
  exact hinj _ hc _ hd rfl

/-- No short name is the letter that introduces a code point. -/
lemma ne_u_of_shortNames {c name : Char} (h : (c, name) ∈ shortNames) : name ≠ 'u' := by
  have hall : ∀ p ∈ shortNames, p.2 ≠ 'u' := by decide
  exact hall _ h

/-- Code points end at their closing brace. -/
lemma codePoint_append_inj {c d : Char} {s t : Text} (h : codePoint c ++ s = codePoint d ++ t) :
    c = d ∧ s = t := by
  have hbrace : ∀ n, '}' ∉ Nat.toDigits 16 n := not_mem_toDigits rfl
  simp only [codePoint, List.append_assoc, List.singleton_append, List.append_cancel_left_eq] at h
  obtain ⟨hdigits, hrest⟩ := append_cons_inj (hbrace _) (hbrace _) h
  have hvalue := congrArg (digitsValue 16) hdigits
  rw [digitsValue_toDigits, digitsValue_toDigits] at hvalue
  exact ⟨Char.toNat_inj.1 hvalue, hrest⟩

namespace IsQuotedForm

variable {c d : Char} {v w s t : Text}

lemma ne_backslash_of_plain (h : c ∉ shortNames.map Prod.fst) : c ≠ '\\' := by
  rintro rfl
  exact h (by decide)

/-- The form of a character says where it ends: what starts with a form starts with no other. -/
lemma append_inj (hv : IsQuotedForm c v) (hw : IsQuotedForm d w) (h : v ++ s = w ++ t) :
    c = d ∧ s = t := by
  cases hv with
  | short hc =>
    cases hw with
    | short hd =>
      simp only [List.cons_append, List.nil_append, List.cons.injEq, true_and] at h
      obtain ⟨rfl, hrest⟩ := h
      exact ⟨eq_of_shortNames hc hd, hrest⟩
    | code =>
      simp only [codePoint, List.cons_append, List.cons.injEq, true_and] at h
      exact absurd h.1 (ne_u_of_shortNames hc)
    | plain hd =>
      simp only [List.cons_append, List.cons.injEq] at h
      exact absurd h.1.symm (ne_backslash_of_plain hd)
  | code =>
    cases hw with
    | short hd =>
      simp only [codePoint, List.cons_append, List.cons.injEq, true_and] at h
      exact absurd h.1.symm (ne_u_of_shortNames hd)
    | code => exact codePoint_append_inj h
    | plain hd =>
      simp only [codePoint, List.cons_append, List.cons.injEq] at h
      exact absurd h.1.symm (ne_backslash_of_plain hd)
  | plain hc =>
    cases hw with
    | short hd =>
      simp only [List.cons_append, List.cons.injEq] at h
      exact absurd h.1 (ne_backslash_of_plain hc)
    | code =>
      simp only [codePoint, List.cons_append, List.cons.injEq] at h
      exact absurd h.1 (ne_backslash_of_plain hc)
    | plain hd =>
      simp only [List.cons_append, List.nil_append, List.cons.injEq] at h
      exact h

/-- No form starts with a quote. -/
lemma ne_quote_cons (hv : IsQuotedForm c v) : v ++ s ≠ '"' :: t := by
  intro h
  cases hv with
  | short hc => cases h
  | code => cases h
  | plain hc =>
    obtain rfl : c = '"' := (List.cons.inj h).1
    exact hc (by decide)

/-- No form holds a line feed. -/
lemma feed_not_mem (hv : IsQuotedForm c v) : '\n' ∉ v := by
  cases hv with
  | short hc =>
    have hall : ∀ p ∈ shortNames, '\n' ∉ ['\\', p.2] := by decide
    exact hall _ hc
  | code =>
    have hdigits : '\n' ∉ Nat.toDigits 16 c.toNat := not_mem_toDigits rfl _
    simp [codePoint, hdigits]
  | plain hc =>
    rw [List.mem_singleton]
    rintro rfl
    exact hc (by decide)

end IsQuotedForm

/-! ## Quoted texts -/

/-- Characters up to a quote are read in one way. -/
lemma flatMap_quotedChar_append_inj {t u s s' : Text}
    (h : t.flatMap quotedChar ++ '"' :: s = u.flatMap quotedChar ++ '"' :: s') : t = u ∧ s = s' := by
  induction t generalizing u with
  | nil =>
    cases u with
    | nil => exact ⟨rfl, (List.cons.inj h).2⟩
    | cons d u =>
      rw [List.flatMap_cons, List.append_assoc] at h
      exact absurd h.symm (isQuotedForm_quotedChar d).ne_quote_cons
  | cons c t ih =>
    rw [List.flatMap_cons, List.append_assoc] at h
    cases u with
    | nil => exact absurd h (isQuotedForm_quotedChar c).ne_quote_cons
    | cons d u =>
      rw [List.flatMap_cons, List.append_assoc] at h
      obtain ⟨rfl, hrest⟩ := (isQuotedForm_quotedChar c).append_inj (isQuotedForm_quotedChar d) h
      obtain ⟨rfl, hs⟩ := ih hrest
      exact ⟨rfl, hs⟩

/-- A quoted text can be told from what follows it. -/
lemma quoted_append_inj {t u s s' : Text} (h : quoted t ++ s = quoted u ++ s') :
    t = u ∧ s = s' := by
  simp only [quoted, List.cons_append, List.append_assoc, List.nil_append, List.cons.injEq,
    true_and] at h
  exact flatMap_quotedChar_append_inj h

lemma feed_not_mem_quoted (t : Text) : '\n' ∉ quoted t := by
  have hchars : '\n' ∉ t.flatMap quotedChar := by
    intro h
    obtain ⟨c, -, hc⟩ := List.mem_flatMap.1 h
    exact (isQuotedForm_quotedChar c).feed_not_mem hc
  simp [quoted, hchars]

end SolverInput.Text
