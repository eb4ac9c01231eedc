import SolverInput.Text.LetterCase
import Mathlib.Data.List.Basic

/-!
# Small letters stay small

A character is settled if no shift moves it. Lower-casing leaves settled characters as they are
(`lowerFrom_of_isSettled`) and gives settled characters only (`isSettled_of_mem_lowerFrom`), so it
changes nothing the second time (`lower_lower`). The one fact about the table of shifts behind this
is that no shift moves a character to where another shift moves it on (`caseShifts_apart`).

ASCII is lower-cased letter by letter (`toList_lower_of_ascii`), and a text that is ASCII in small
letters was ASCII before, unless a KELVIN SIGN was in it (`ascii_of_lower`).
-/

namespace SolverInput.Text

/-- A character that is its own small letter. -/
structure IsSettled (c : Char) : Prop where
  not_dotted : c.toNat ≠ 0x130
  not_covered : ∀ s ∈ caseShifts, s.covers c.toNat = false

/-! ## Settled characters stay -/

lemma lowerChar_of_isSettled {c : Char} (hc : IsSettled c) : lowerChar c = [c] := by
  have hnone : caseShifts.find? (·.covers c.toNat) = none := by
    rw [List.find?_eq_none]
    intro s hs
    simp [hc.not_covered s hs]
  unfold lowerChar
  rw [if_neg hc.not_dotted, hnone]

/-- The capital sigma is moved like its neighbours in the table. -/
lemma ne_sigma_of_isSettled {c : Char} (hc : IsSettled c) : c.toNat ≠ 0x3A3 := by
  have hsigma : ∃ s ∈ caseShifts, s.covers 0x3A3 = true := by decide +kernel
  obtain ⟨s, hs, hcovers⟩ := hsigma
  intro heq
  have hnot := hc.not_covered s hs
  rw [heq, hcovers] at hnot
  cases hnot

lemma lowerFrom_of_isSettled (before : Text) {t : Text} (ht : ∀ c ∈ t, IsSettled c) :
    lowerFrom before t = t := by
  induction t generalizing before with
  | nil => rfl
  | cons c rest ih =>
    have hc : IsSettled c := ht c List.mem_cons_self
    have hrest : ∀ d ∈ rest, IsSettled d := fun d hd => ht d (List.mem_cons_of_mem c hd)
    rw [lowerFrom, if_neg (ne_sigma_of_isSettled hc), lowerChar_of_isSettled hc, ih _ hrest,
      List.singleton_append]

lemma lower_of_isSettled {s : String} (hs : ∀ c ∈ s.toList, IsSettled c) : lower s = s := by
  unfold lower
  rw [lowerFrom_of_isSettled [] hs, String.ofList_toList]

/-! ## ASCII -/

/-- Letters and digits are ASCII and stand behind the space there. -/
lemma toNat_of_isAlphanum {c : Char} (h : c.isAlphanum = true) :
    32 < c.toNat ∧ c.toNat < 128 := by
  have hranges : (decide (65 ≤ c.val ∧ c.val ≤ 90) ||
      (decide (97 ≤ c.val) && decide (c.val ≤ 122)) ||
      (decide (48 ≤ c.val) && decide (c.val ≤ 57))) = true := h
  simp only [Bool.or_eq_true, Bool.and_eq_true, decide_eq_true_eq, UInt32.le_iff_toNat_le]
    at hranges
  change ((65 ≤ c.toNat ∧ c.toNat ≤ 90) ∨ (97 ≤ c.toNat ∧ c.toNat ≤ 122)) ∨
    (48 ≤ c.toNat ∧ c.toNat ≤ 57) at hranges
  -- capital letters, small letters and digits
  rcases hranges with (hrange | hrange) | hrange
  · omega
  · omega
  · omega

/-- An ASCII character that is not a capital. -/
def isSmall (c : Char) : Bool :=
  decide (c.toNat < 0x80) && !(decide (0x41 ≤ c.toNat) && decide (c.toNat ≤ 0x5A))

lemma isSmall_iff {c : Char} :
    isSmall c = true ↔ c.toNat < 0x80 ∧ ¬ (0x41 ≤ c.toNat ∧ c.toNat ≤ 0x5A) := by
  simp only [isSmall, Bool.and_eq_true, Bool.not_eq_true', decide_eq_true_eq,
    Bool.and_eq_false_iff, decide_eq_false_iff_not]
  omega

/-- The only capitals in ASCII are the letters of the first shift. -/
lemma isSettled_of_isSmall {c : Char} (hc : isSmall c = true) : IsSettled c := by
  have hshifts : ∀ s ∈ caseShifts, s.first = 0x41 ∧ s.last = 0x5A ∨ 0x80 ≤ s.first := by
    decide +kernel
  obtain ⟨hascii, hcapital⟩ := isSmall_iff.1 hc
  refine ⟨by omega, ?_⟩
  intro s hs
  rw [Bool.eq_false_iff]
  intro hcovers
  simp only [CaseShift.covers, Bool.and_eq_true, decide_eq_true_eq] at hcovers
  rcases hshifts s hs with ⟨hfirst, hlast⟩ | hfirst
  · omega
  · omega

/-- A text without capitals and without characters outside ASCII stays as it is. -/
lemma lower_of_isSmall {s : String} (hs : s.toList.all isSmall = true) : lower s = s :=
  lower_of_isSettled fun c hc => isSettled_of_isSmall (List.all_eq_true.1 hs c hc)

/-- A property of characters that is true of ASCII by inspection. -/
lemma of_ascii {p : Char → Bool} (h : ∀ n < 128, p (Char.ofNat n) = true) {c : Char}
    (hc : c.toNat < 128) : p c = true := by
  have hn := h c.toNat hc
  rwa [Char.ofNat_toNat] at hn

lemma toLower_of_not_capital {c : Char} (hc : ¬ (0x41 ≤ c.toNat ∧ c.toNat ≤ 0x5A)) :
    c.toLower = c := by
  unfold Char.toLower
  rw [dif_neg]
  rintro ⟨hfirst, hlast⟩
  exact hc ⟨hfirst, hlast⟩

/-- `Char.toLower` moves letters of ASCII only, where a property can be checked by inspection. -/
lemma of_toLower {p : Char → Char → Bool} (hsame : ∀ c, p c c = true)
    (h : ∀ n < 128, p (Char.ofNat n) (Char.ofNat n).toLower = true) (c : Char) :
    p c c.toLower = true := by
  by_cases hc : c.toNat < 128
  · exact of_ascii (p := fun c => p c c.toLower) h hc
  · rw [toLower_of_not_capital (by omega)]
    exact hsame c

lemma lowerChar_of_ascii {c : Char} (hc : c.toNat < 128) : lowerChar c = [c.toLower] := by
  by_cases hcapital : 0x41 ≤ c.toNat ∧ c.toNat ≤ 0x5A
  · have hshift : ∀ n < 0x5B, 0x41 ≤ n →
        lowerChar (Char.ofNat n) = [(Char.ofNat n).toLower] := by
      decide +kernel
    have hn := hshift c.toNat (by omega) hcapital.1
    rwa [Char.ofNat_toNat] at hn
  · have hsmall : isSmall c = true := isSmall_iff.2 ⟨hc, hcapital⟩
    rw [lowerChar_of_isSettled (isSettled_of_isSmall hsmall), toLower_of_not_capital hcapital]

/-- ASCII is lower-cased letter by letter. -/
lemma lowerFrom_of_ascii (before : Text) {t : Text} (ht : ∀ c ∈ t, c.toNat < 128) :
    lowerFrom before t = t.map Char.toLower := by
  induction t generalizing before with
  | nil => rfl
  | cons c rest ih =>
    have hc : c.toNat < 128 := ht c List.mem_cons_self
    have hrest : ∀ d ∈ rest, d.toNat < 128 := fun d hd => ht d (List.mem_cons_of_mem c hd)
    rw [lowerFrom, if_neg (by omega), lowerChar_of_ascii hc, ih _ hrest, List.map_cons,
      List.singleton_append]

lemma toList_lower_of_ascii {s : String} (hs : ∀ c ∈ s.toList, c.toNat < 128) :
    (lower s).toList = s.toList.map Char.toLower := by
  rw [lower, String.toList_ofList, lowerFrom_of_ascii [] hs]

/-! ## Small letters are settled -/

/-- The least code point that a shift leads to. -/
def CaseShift.lowest (s : CaseShift) : Nat := (s.first + s.shift).toNat

/-- The greatest code point that a shift leads to. -/
def CaseShift.highest (s : CaseShift) : Nat := (s.last + s.shift).toNat

/-- One shift leads to no code point that another one covers: the ranges are apart, or the other one
takes every second code point and the first one only those between. -/
def CaseShift.isApart (s t : CaseShift) : Bool :=
  Nat.blt s.highest t.first || (Nat.blt t.last s.lowest ||
    ((Nat.beq s.step 2 || Nat.beq s.first s.last) &&
      (Nat.beq t.step 2 && Nat.beq ((s.lowest + t.first) % 2) 1)))

lemma caseShifts_apart : caseShifts.all (fun s => caseShifts.all s.isApart) = true := by
  decide +kernel

lemma CaseShift.isApart_iff {s t : CaseShift} : s.isApart t = true ↔
    s.highest < t.first ∨ t.last < s.lowest ∨
      (s.step = 2 ∨ s.first = s.last) ∧ t.step = 2 ∧ (s.lowest + t.first) % 2 = 1 := by
  simp [isApart]

/-- A shift leads to characters, and not to the capital I with a dot. -/
lemma caseShifts_valid : ∀ s ∈ caseShifts, 0 ≤ s.first + s.shift ∧
    (s.highest < 0x130 ∨ 0x130 < s.lowest) ∧
    (s.highest < 0xD800 ∨ 0xDFFF < s.lowest ∧ s.highest < 0x110000) := by
  decide +kernel

lemma toNat_shift {s : CaseShift} (hs : s ∈ caseShifts) {n : Nat} (hn : s.covers n = true) :
    (Char.ofNat (n + s.shift).toNat).toNat = (n + s.shift).toNat := by
  obtain ⟨hpositive, -, hvalid⟩ := caseShifts_valid s hs
  simp only [CaseShift.covers, Bool.and_eq_true, decide_eq_true_eq] at hn
  unfold CaseShift.lowest CaseShift.highest at hvalid
  have hchar : (n + s.shift).toNat.isValidChar := by
    unfold Nat.isValidChar
    omega
  unfold Char.ofNat
  rw [dif_pos hchar]
  rfl

/-- What a shift leads to is moved no further. -/
lemma isSettled_shift {s : CaseShift} (hs : s ∈ caseShifts) {n : Nat} (hn : s.covers n = true) :
    IsSettled (Char.ofNat (n + s.shift).toNat) := by
  obtain ⟨hpositive, hdotted, -⟩ := caseShifts_valid s hs
  have hchar := toNat_shift hs hn
  simp only [CaseShift.covers, Bool.and_eq_true, decide_eq_true_eq, beq_iff_eq] at hn
  obtain ⟨⟨hfirst, hlast⟩, hstep⟩ := hn
  unfold CaseShift.lowest CaseShift.highest at hdotted
  refine ⟨by rw [hchar]; omega, ?_⟩
  intro t ht
  have hapart := List.all_eq_true.1 (List.all_eq_true.1 caseShifts_apart s hs) t ht
  rw [CaseShift.isApart_iff] at hapart
  unfold CaseShift.lowest CaseShift.highest at hapart
  rw [hchar, Bool.eq_false_iff]
  intro hcovers
  simp only [CaseShift.covers, Bool.and_eq_true, decide_eq_true_eq, beq_iff_eq] at hcovers
  obtain ⟨⟨hfirst', hlast'⟩, hstep'⟩ := hcovers
  rcases hapart with habove | hbelow | ⟨htwo | hone, htwo', hodd⟩
  · omega
  · omega
  · -- both take every second code point, and not the same ones
    rw [htwo] at hstep
    rw [htwo'] at hstep'
    omega
  · rw [htwo'] at hstep'
    omega

/-- The combining dot and the two small sigmas, which come from the capitals that need more than a
shift. -/
lemma not_covers_of_mem :
    ∀ n ∈ [0x307, 0x3C2, 0x3C3], ∀ s ∈ caseShifts, s.covers n = false := by
  decide +kernel

lemma isSettled_of_mem_lowerChar {c d : Char} (h : d ∈ lowerChar c) : IsSettled d := by
  unfold lowerChar at h
  split_ifs at h with hdotted
  · -- the capital I with a dot becomes a small one and the dot
    rcases List.mem_cons.1 h with rfl | h
    · exact isSettled_of_isSmall (by decide)
    · rw [List.mem_singleton] at h
      subst h
      exact ⟨by decide, not_covers_of_mem 0x307 (by decide)⟩
  · split at h
    · rename_i s hs
      have hcovers : s.covers c.toNat = true := by simpa using List.find?_some hs
      rw [List.mem_singleton] at h
      subst h
      exact isSettled_shift (List.mem_of_find?_eq_some hs) hcovers
    · rename_i hnone
      rw [List.mem_singleton] at h
      subst h
      refine ⟨hdotted, ?_⟩
      intro s hs
      simpa using List.find?_eq_none.1 hnone s hs

lemma isSettled_of_mem_lowerFrom {before t : Text} {c : Char} (h : c ∈ lowerFrom before t) :
    IsSettled c := by
  induction t generalizing before with
  | nil => cases h
  | cons d rest ih =>
    rw [lowerFrom] at h
    rcases List.mem_append.1 h with h | h
    · split_ifs at h
      · rw [List.mem_singleton] at h
        subst h
        exact ⟨by decide, not_covers_of_mem 0x3C2 (by decide)⟩
      · rw [List.mem_singleton] at h
        subst h
        exact ⟨by decide, not_covers_of_mem 0x3C3 (by decide)⟩
      · exact isSettled_of_mem_lowerChar h
    · exact ih h

/-- **Lower-casing twice is lower-casing once.** -/
lemma lower_lower (s : String) : lower (lower s) = lower s := by
  apply lower_of_isSettled
  intro c hc
  unfold lower at hc
  rw [String.toList_ofList] at hc
  exact isSettled_of_mem_lowerFrom hc

/-! ## The KELVIN SIGN -/

/-- The sign of the unit of temperature. -/
def kelvinSign : Char := Char.ofNat 0x212A

/-- No shift but that of the KELVIN SIGN leads into ASCII from outside of it. -/
lemma caseShifts_ascii : ∀ s ∈ caseShifts,
    s.last < 128 ∨ 128 ≤ s.first + s.shift ∨ s.first = 0x212A ∧ s.last = 0x212A := by
  decide +kernel

lemma exists_mem_lowerChar {c : Char} (hc : 128 ≤ c.toNat) (hkelvin : c ≠ kelvinSign) :
    ∃ d ∈ lowerChar c, 128 ≤ d.toNat := by
  unfold lowerChar
  split_ifs with hdotted
  · exact ⟨Char.ofNat 0x307, by simp, by decide⟩
  · split
    · rename_i s hfind
      have hs := List.mem_of_find?_eq_some hfind
      have hcovers : s.covers c.toNat = true := by simpa using List.find?_some hfind
      refine ⟨_, List.mem_singleton_self _, ?_⟩
      rw [toNat_shift hs hcovers]
      simp only [CaseShift.covers, Bool.and_eq_true, decide_eq_true_eq] at hcovers
      rcases caseShifts_ascii s hs with hbelow | habove | ⟨hfirst, hlast⟩
      · omega
      · omega
      · have hsign : c.toNat = 0x212A := by omega
        exact absurd (Char.ofNat_toNat c ▸ congrArg Char.ofNat hsign) hkelvin
    · exact ⟨c, List.mem_singleton_self c, hc⟩

/-- Outside of ASCII only the KELVIN SIGN is lower-cased to ASCII, namely to the letter `k`. -/
lemma exists_mem_lowerFrom (before : Text) {t : Text} {c : Char} (h : c ∈ t)
    (hc : 128 ≤ c.toNat) (hkelvin : c ≠ kelvinSign) :
    ∃ d ∈ lowerFrom before t, 128 ≤ d.toNat := by
  induction t generalizing before with
  | nil => cases h
  | cons first rest ih =>
    rw [lowerFrom]
    rcases List.mem_cons.1 h with rfl | h
    · split_ifs
      · exact ⟨Char.ofNat 0x3C2, by simp, by decide⟩
      · exact ⟨Char.ofNat 0x3C3, by simp, by decide⟩
      · obtain ⟨d, hd, hbig⟩ := exists_mem_lowerChar hc hkelvin
        exact ⟨d, List.mem_append_left _ hd, hbig⟩
    · obtain ⟨d, hd, hbig⟩ := ih _ h
      exact ⟨d, List.mem_append_right _ hd, hbig⟩

lemma ascii_of_lower {s : String} (hkelvin : kelvinSign ∉ s.toList)
    (h : ∀ c ∈ (lower s).toList, c.toNat < 128) : ∀ c ∈ s.toList, c.toNat < 128 := by
  intro c hc
  by_contra hbig
  have hne : c ≠ kelvinSign := by
    rintro rfl
    exact hkelvin hc
  obtain ⟨d, hd, hdbig⟩ := exists_mem_lowerFrom [] hc (by omega) hne
  rw [lower, String.toList_ofList] at h
  have hdsmall := h d hd
  omega

end SolverInput.Text
