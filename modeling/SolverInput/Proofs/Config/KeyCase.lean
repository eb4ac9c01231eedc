import SolverInput.Config.KeyPath
import SolverInput.Proofs.Text.LetterCase
import Mathlib.Data.List.TakeWhile

/-!
# Keys in small letters

Merging puts names in small letters, and a key that is no path could become one by that. All
characters of a path are ASCII (`toNat_lt_of_parse?`), and letter case does not matter to whether
a text in ASCII reads as a path (`isSome_parse?_of_toLower`). So it takes a character from outside
of ASCII with a small letter in ASCII, and there is only one, the KELVIN SIGN
(`parse?_lower_eq_none`).
-/

namespace SolverInput.Config.KeyPath

/-! ## Letter case of single characters -/

lemma isNameChar_toLower (c : Char) : isNameChar c.toLower = isNameChar c :=
  beq_iff_eq.1 (Text.of_toLower (p := fun c d => isNameChar d == isNameChar c)
    (fun _ => beq_self_eq_true _) (by decide +kernel) c)

lemma isDigit_toLower (c : Char) : c.toLower.isDigit = c.isDigit :=
  beq_iff_eq.1 (Text.of_toLower (p := fun c d => d.isDigit == c.isDigit)
    (fun _ => beq_self_eq_true _) (by decide +kernel) c)

/-- Nothing but itself is lower-cased to a character that is no letter. -/
lemma toLower_eq_iff {c d : Char} (hd : d.isAlpha = false) : c.toLower = d ↔ c = d := by
  have hcases : c.toLower = c ∨ c.isAlpha = true ∧ c.toLower.isAlpha = true := by
    have hascii := Text.of_toLower (p := fun c d => d == c || (c.isAlpha && d.isAlpha))
      (by simp) (by decide +kernel) c
    simpa using hascii
  rcases hcases with hsame | ⟨hletter, hsmall⟩
  · rw [hsame]
  · constructor
    · rintro rfl
      rw [hd] at hsmall
      cases hsmall
    · rintro rfl
      rw [hd] at hletter
      cases hletter

lemma toLower_ne {c d : Char} (hd : d.isAlpha = false) (h : c ≠ d) : c.toLower ≠ d :=
  fun hlower => h ((toLower_eq_iff hd).1 hlower)

lemma isAlpha_of_isDigit {c : Char} (hc : c.isDigit = true) : c.isAlpha = false := by
  have halphanum : c.isAlphanum = true := by
    rw [Char.isAlphanum, hc, Bool.or_true]
  have hascii := Text.of_ascii (p := fun c => !c.isDigit || !c.isAlpha) (by decide +kernel)
    (Text.toNat_of_isAlphanum halphanum).2
  simpa [hc] using hascii

/-! ## Reading in small letters -/

lemma name?_map_toLower (cs : List Char) :
    (name? (cs.map Char.toLower)).map Prod.snd
      = (name? cs).map fun read => read.2.map Char.toLower := by
  have hname : isNameChar ∘ Char.toLower = isNameChar := funext isNameChar_toLower
  unfold name?
  rw [List.takeWhile_map, List.dropWhile_map, hname]
  simp only [List.isEmpty_map]
  split_ifs <;> rfl

lemma skipSpace_map_toLower (cs : List Char) :
    skipSpace (cs.map Char.toLower) = (skipSpace cs).map Char.toLower := by
  have hspace : (fun c => c == ' ' || c == '\t') ∘ Char.toLower
      = fun c => c == ' ' || c == '\t' := by
    funext c
    have hblank := toLower_eq_iff (c := c) (d := ' ') (by decide)
    have htab := toLower_eq_iff (c := c) (d := '\t') (by decide)
    rw [Bool.eq_iff_iff]
    simp [hblank, htab]
  unfold skipSpace
  rw [List.dropWhile_map, hspace]

/-- The sign of an index, and what follows it. -/
def sign : List Char → Bool × List Char
  | '-' :: rest => (true, rest)
  | cs => (false, cs)

/-- Reads an index and its closing bracket, behind the sign. -/
def unsigned? (negative : Bool) (cs : List Char) : Option (Int × List Char) :=
  let digits := cs.takeWhile Char.isDigit
  let n := Text.digitsValue 10 digits
  let inRange := n < 9223372036854775808 ∨ (negative ∧ n = 9223372036854775808)
  match skipSpace (cs.dropWhile Char.isDigit) with
  | ']' :: rest =>
    if digits.isEmpty ∨ ¬ inRange then none else some (if negative then -n else n, rest)
  | _ => none

lemma index?_eq (cs : List Char) :
    index? cs = unsigned? (sign (skipSpace cs)).1 (sign (skipSpace cs)).2 := rfl

lemma sign_map_toLower (cs : List Char) :
    sign (cs.map Char.toLower) = ((sign cs).1, (sign cs).2.map Char.toLower) := by
  cases cs with
  | nil => rfl
  | cons c rest =>
    by_cases hc : c = '-'
    · subst hc
      rfl
    · have hlower : c.toLower ≠ '-' := toLower_ne (by decide) hc
      rw [List.map_cons, sign.eq_2 _ (by simpa using hlower), sign.eq_2 _ (by simpa using hc)]
      rfl

lemma map_toLower_digits (cs : List Char) :
    (cs.takeWhile Char.isDigit).map Char.toLower = cs.takeWhile Char.isDigit := by
  have hsame : ∀ c ∈ cs.takeWhile Char.isDigit, c.toLower = id c := by
    intro c hc
    exact (toLower_eq_iff (isAlpha_of_isDigit (List.mem_takeWhile_imp hc))).2 rfl
  rw [List.map_congr_left hsame, List.map_id]

lemma unsigned?_map_toLower (negative : Bool) (cs : List Char) :
    (unsigned? negative (cs.map Char.toLower)).map Prod.snd
      = (unsigned? negative cs).map fun read => read.2.map Char.toLower := by
  have hdigit : Char.isDigit ∘ Char.toLower = Char.isDigit := funext isDigit_toLower
  unfold unsigned?
  rw [List.takeWhile_map, List.dropWhile_map, hdigit, map_toLower_digits, skipSpace_map_toLower]
  cases skipSpace (cs.dropWhile Char.isDigit) with
  | nil => rfl
  | cons c rest =>
    by_cases hc : c = ']'
    · subst hc
      show Option.map Prod.snd (ite _ none (some _)) = Option.map _ (ite _ none (some _))
      split_ifs <;> rfl
    · have hlower : c.toLower ≠ ']' := toLower_ne (by decide) hc
      simp [hc, hlower]

lemma index?_map_toLower (cs : List Char) :
    (index? (cs.map Char.toLower)).map Prod.snd
      = (index? cs).map fun read => read.2.map Char.toLower := by
  rw [index?_eq, index?_eq, skipSpace_map_toLower, sign_map_toLower]
  exact unsigned?_map_toLower _ _

/-- After a dot there is a name and further steps. -/
lemma isSome_steps?_dot (n : Nat) (cs : List Char) :
    (steps? (n + 1) ('.' :: cs)).isSome
      = ((name? cs).map Prod.snd).any fun rest => (steps? n rest).isSome := by
  rw [steps?]
  cases name? cs with
  | none => rfl
  | some read => cases hrest : steps? n read.2 <;> simp [hrest]

/-- After a bracket there is an index and further steps. -/
lemma isSome_steps?_bracket (n : Nat) (cs : List Char) :
    (steps? (n + 1) ('[' :: cs)).isSome
      = ((index? cs).map Prod.snd).any fun rest => (steps? n rest).isSome := by
  rw [steps?]
  cases index? cs with
  | none => rfl
  | some read => cases hrest : steps? n read.2 <;> simp [hrest]

lemma steps?_of_ne {c : Char} (hdot : c ≠ '.') (hbracket : c ≠ '[') (n : Nat) (cs : List Char) :
    steps? (n + 1) (c :: cs) = none := by
  rw [steps?]
  · exact fun h => hdot h
  · exact fun h => hbracket h

lemma isSome_steps?_map_toLower (n : Nat) (cs : List Char) :
    (steps? n (cs.map Char.toLower)).isSome = (steps? n cs).isSome := by
  induction n generalizing cs with
  | zero => cases cs <;> rfl
  | succ n ih =>
    cases cs with
    | nil => rfl
    | cons c cs =>
      by_cases hdot : c = '.'
      · subst hdot
        show (steps? (n + 1) ('.' :: cs.map Char.toLower)).isSome = _
        rw [isSome_steps?_dot, isSome_steps?_dot, name?_map_toLower]
        simp [Option.any_map, ih]
      · by_cases hbracket : c = '['
        · subst hbracket
          show (steps? (n + 1) ('[' :: cs.map Char.toLower)).isSome = _
          rw [isSome_steps?_bracket, isSome_steps?_bracket, index?_map_toLower]
          simp [Option.any_map, ih]
        · have hdot' : c.toLower ≠ '.' := toLower_ne (by decide) hdot
          have hbracket' : c.toLower ≠ '[' := toLower_ne (by decide) hbracket
          rw [List.map_cons, steps?_of_ne hdot' hbracket', steps?_of_ne hdot hbracket]

/-- Letter case does not matter to whether a text in ASCII reads as a path. -/
lemma isSome_parse?_of_toLower {key other : String}
    (h : other.toList = key.toList.map Char.toLower) :
    (parse? other).isSome = (parse? key).isSome := by
  have hparse (key : String) : (parse? key).isSome
      = ((name? key.toList).map Prod.snd).any fun rest => (steps? rest.length rest).isSome := by
    unfold parse?
    cases name? key.toList with
    | none => rfl
    | some read => cases hrest : steps? read.2.length read.2 <;> simp [hrest]
  rw [hparse, hparse, h, name?_map_toLower]
  simp [Option.any_map, isSome_steps?_map_toLower]

/-! ## Paths are ASCII -/

section

variable {cs rest : List Char}

/-- What is skipped in ASCII leaves no other characters but those that remain. -/
lemma ascii_of_dropWhile {p : Char → Bool} (hp : ∀ c, p c = true → c.toNat < 128)
    (h : ∀ c ∈ cs.dropWhile p, c.toNat < 128) : ∀ c ∈ cs, c.toNat < 128 := by
  intro c hc
  rw [← List.takeWhile_append_dropWhile (p := p) (l := cs)] at hc
  rcases List.mem_append.1 hc with hc | hc
  · exact hp c (List.mem_takeWhile_imp hc)
  · exact h c hc

lemma toNat_of_isNameChar {c : Char} (h : isNameChar c = true) : c.toNat < 128 := by
  simp only [isNameChar, Bool.or_eq_true, beq_iff_eq] at h
  rcases h with ((h | rfl) | rfl) | rfl
  · exact (Text.toNat_of_isAlphanum h).2
  · decide
  · decide
  · decide

lemma ascii_of_name? {name : String} (h : name? cs = some (name, rest))
    (hrest : ∀ c ∈ rest, c.toNat < 128) : ∀ c ∈ cs, c.toNat < 128 := by
  unfold name? at h
  dsimp only at h
  split_ifs at h
  cases h
  exact ascii_of_dropWhile (fun _ => toNat_of_isNameChar) hrest

lemma ascii_of_skipSpace (h : ∀ c ∈ skipSpace cs, c.toNat < 128) : ∀ c ∈ cs, c.toNat < 128 := by
  apply ascii_of_dropWhile _ h
  intro c hc
  simp only [Bool.or_eq_true, beq_iff_eq] at hc
  rcases hc with rfl | rfl
  · decide
  · decide

lemma ascii_of_unsigned? {negative : Bool} {index : Int}
    (h : unsigned? negative cs = some (index, rest)) (hrest : ∀ c ∈ rest, c.toNat < 128) :
    ∀ c ∈ cs, c.toNat < 128 := by
  unfold unsigned? at h
  dsimp only at h
  split at h
  · rename_i after hafter
    rw [Option.ite_none_left_eq_some] at h
    cases h.2
    apply ascii_of_dropWhile (p := Char.isDigit)
    · intro c hc
      exact (Text.toNat_of_isAlphanum (by rw [Char.isAlphanum, hc, Bool.or_true])).2
    · apply ascii_of_skipSpace
      rw [hafter]
      intro c hc
      rcases List.mem_cons.1 hc with rfl | hc
      · decide
      · exact hrest c hc
  · cases h

lemma ascii_of_sign (h : ∀ c ∈ (sign cs).2, c.toNat < 128) : ∀ c ∈ cs, c.toNat < 128 := by
  unfold sign at h
  split at h
  · intro c hc
    rcases List.mem_cons.1 hc with rfl | hc
    · decide
    · exact h c hc
  · exact h

lemma ascii_of_index? {index : Int} (h : index? cs = some (index, rest))
    (hrest : ∀ c ∈ rest, c.toNat < 128) : ∀ c ∈ cs, c.toNat < 128 := by
  rw [index?_eq] at h
  exact ascii_of_skipSpace (ascii_of_sign (ascii_of_unsigned? h hrest))

lemma ascii_of_steps? {n : Nat} {steps : List KeyStep} (h : steps? n cs = some steps) :
    ∀ c ∈ cs, c.toNat < 128 := by
  induction n generalizing cs steps with
  | zero =>
    cases cs with
    | nil => simp
    | cons c cs => cases h
  | succ n ih =>
    cases cs with
    | nil => simp
    | cons c cs =>
      by_cases hdot : c = '.'
      · subst hdot
        rw [steps?] at h
        obtain ⟨⟨name, rest⟩, hname, h⟩ := Option.bind_eq_some_iff.1 h
        obtain ⟨more, hmore, -⟩ := Option.bind_eq_some_iff.1 h
        simpa using ascii_of_name? hname (ih hmore)
      · by_cases hbracket : c = '['
        · subst hbracket
          rw [steps?] at h
          obtain ⟨⟨index, rest⟩, hindex, h⟩ := Option.bind_eq_some_iff.1 h
          obtain ⟨more, hmore, -⟩ := Option.bind_eq_some_iff.1 h
          simpa using ascii_of_index? hindex (ih hmore)
        · rw [steps?_of_ne hdot hbracket] at h
          cases h

/-- All characters of a path are ASCII. -/
lemma toNat_lt_of_parse? {key : String} {path : KeyPath} (h : parse? key = some path) :
    ∀ c ∈ key.toList, c.toNat < 128 := by
  obtain ⟨⟨first, rest⟩, hname, h⟩ := Option.bind_eq_some_iff.1 h
  obtain ⟨steps, hsteps, -⟩ := Option.bind_eq_some_iff.1 h
  exact ascii_of_name? hname (ascii_of_steps? hsteps)

end

/-! ## Keys that become paths -/

/-- A key that is no path becomes one in small letters only by a KELVIN SIGN. -/
lemma parse?_lower_eq_none {key : String} (hkelvin : Text.kelvinSign ∉ key.toList)
    (h : parse? key = none) : parse? (Text.lower key) = none := by
  by_contra hsome
  obtain ⟨path, hpath⟩ := Option.ne_none_iff_exists'.1 hsome
  have hascii := Text.ascii_of_lower hkelvin (toNat_lt_of_parse? hpath)
  have hsame := isSome_parse?_of_toLower (Text.toList_lower_of_ascii hascii)
  rw [hpath, h] at hsame
  cases hsame

/-! ## Names in small letters -/

lemma parse?_of_isNameChar {name : String} (hne : name.toList ≠ [])
    (hall : ∀ c ∈ name.toList, isNameChar c = true) : parse? name = some ⟨name, []⟩ := by
  have hname : name? name.toList = some (name, []) := by
    unfold name?
    rw [List.takeWhile_eq_self_iff.2 hall, List.dropWhile_eq_nil_iff.2 hall]
    simp [hne]
  unfold parse?
  rw [hname]
  rfl

lemma isNameChar_of_name? {cs rest : List Char} {name : String}
    (h : name? cs = some (name, rest)) :
    name.toList ≠ [] ∧ ∀ c ∈ name.toList, isNameChar c = true := by
  unfold name? at h
  dsimp only at h
  split_ifs at h with hempty
  cases h
  rw [String.toList_ofList]
  refine ⟨by simpa using hempty, ?_⟩
  intro c hc
  exact List.all_eq_true.1 List.all_takeWhile c hc

/-- A path starts with a name, which is a path of its own in small letters. -/
lemma parse?_lower_first {key : String} {path : KeyPath} (h : parse? key = some path) :
    parse? (Text.lower path.first) = some ⟨Text.lower path.first, []⟩ := by
  obtain ⟨⟨first, rest⟩, hname, h⟩ := Option.bind_eq_some_iff.1 h
  obtain ⟨steps, -, hpath⟩ := Option.bind_eq_some_iff.1 h
  cases hpath
  obtain ⟨hne, hall⟩ := isNameChar_of_name? hname
  have hlower : (Text.lower first).toList = first.toList.map Char.toLower :=
    Text.toList_lower_of_ascii fun c hc => toNat_of_isNameChar (hall c hc)
  apply parse?_of_isNameChar
  · simpa [hlower] using hne
  · intro c hc
    rw [hlower] at hc
    obtain ⟨d, hd, rfl⟩ := List.mem_map.1 hc
    rw [isNameChar_toLower]
    exact hall d hd

end SolverInput.Config.KeyPath
