import SolverInput.Proofs.Key.Lookup
import Mathlib

/-!
# The tokens of a line

Which lines have tokens, and how the tokens spell the key. A line has a key if it starts with key
characters and an `=` follows them, with only blanks in between (`key?_eq_some_iff`). Each of the
first eight segments of the key then has its token, which stands on that segment, before a dot or
at the end of the key (`slice_of_segment`). Segments joined by dots have a dot less than there are
segments (`count_dot_intercalate`), so the tokens of a deeper key spell what stands before its
eighth dot.
-/

namespace SolverInput.Key

/-! ## Lines with a key -/

/-- What follows the key in an assignment: blanks, an `=` and anything. -/
def IsAssignment (rest : Text) : Prop :=
  ∃ blanks value, rest = blanks ++ '=' :: value ∧ ∀ c ∈ blanks, Text.isBlank c = true

lemma isAssignment_iff {rest : Text} :
    IsAssignment rest ↔ ∃ value, Text.skipBlanks rest = '=' :: value := by
  unfold Text.skipBlanks
  constructor
  · rintro ⟨blanks, value, rfl, hblanks⟩
    exact ⟨value, by rw [List.dropWhile_append_of_pos hblanks]; rfl⟩
  · rintro ⟨value, hvalue⟩
    refine ⟨rest.takeWhile Text.isBlank, value, ?_, fun c hc => ?_⟩
    · rw [← hvalue, List.takeWhile_append_dropWhile]
    · exact List.all_eq_true.1 List.all_takeWhile c hc

/-- A line has a key if it starts with key characters and assigns something to them. -/
lemma key?_eq_some_iff {line key : Text} :
    key? line = some key ↔
      key = line.takeWhile isKeyChar ∧ key ≠ [] ∧ IsAssignment (line.dropWhile isKeyChar) := by
  rw [isAssignment_iff]
  unfold key?
  simp only
  split
  · rename_i value hvalue
    by_cases hempty : (line.takeWhile isKeyChar).isEmpty = true
    · rw [if_pos hempty]
      rw [List.isEmpty_iff] at hempty
      simp only [hempty, reduceCtorEq, false_iff]
      rintro ⟨rfl, hne, -⟩
      exact hne rfl
    · rw [if_neg hempty, Option.some.injEq]
      rw [List.isEmpty_iff] at hempty
      constructor
      · rintro rfl
        exact ⟨rfl, hempty, value, hvalue⟩
      · rintro ⟨rfl, -, -⟩
        rfl
  · rename_i hvalue
    simp only [reduceCtorEq, false_iff]
    rintro ⟨-, -, value, hassign⟩
    exact hvalue value hassign

/-- Every key has a first segment, so a line has tokens exactly if it has a key. -/
lemma lineTokens_ne_nil_iff (index : Nat) (line : Text) :
    lineTokens index line ≠ [] ↔ ∃ key, key? line = some key := by
  cases hkey : key? line with
  | none => simp [lineTokens, hkey]
  | some key =>
    have hsegments : segments key ≠ [] := List.splitOn_ne_nil '.' key
    simp [lineTokens_eq_mapIdx index hkey, hsegments, maxRanks]

/-! ## What the tokens spell -/

/-- The segments up to one of them, and then the others, each behind its dot. -/
lemma intercalate_take {segs : List Text} {k : Nat} (hk : k < segs.length) :
    List.intercalate ['.'] segs
      = List.intercalate ['.'] (segs.take (k + 1))
        ++ (segs.drop (k + 1)).flatMap ('.' :: ·) := by
  have hseg := List.getElem?_eq_getElem hk
  rw [intercalate_eq_of_getElem? hseg, List.take_add_one, hseg, Option.toList_some,
    intercalate_concat]

/-- Joined segments have a dot less than there are segments. -/
lemma count_dot_intercalate {segs : List Text} (hne : segs ≠ []) (hdot : ∀ seg ∈ segs, '.' ∉ seg) :
    (List.intercalate ['.'] segs).count '.' + 1 = segs.length := by
  induction segs with
  | nil => exact absurd rfl hne
  | cons first rest ih =>
    have hfirst : first.count '.' = 0 := List.count_eq_zero_of_not_mem (hdot first (by simp))
    cases rest with
    | nil => simp [hfirst]
    | cons next rest =>
      have hrest := ih (by simp) fun seg hseg => hdot seg (List.mem_cons_of_mem _ hseg)
      rw [List.intercalate_cons_cons, List.count_append, List.count_append, hfirst,
        List.count_singleton_self, List.length_cons, ← hrest]
      omega

/-- **The tokens of a line spell its key.** A line has tokens exactly if the longest run of key
characters at its start is not empty and an `=` follows it, with only blanks in between. There is
one token for each of the first eight segments of that key: it has the index of the line, the rank
and length of the segment, and the width of the segments before it, each with its dot, as its
column. It covers the segment, and behind it stands a dot or the key ends. All tokens joined by
dots are the key, or, if the key has more segments, what stands before its eighth dot. Keys are
ASCII, so columns count bytes as well as characters. -/
theorem lineTokens_spell_key (index : Nat) (line : Text) :
    let key := line.takeWhile isKeyChar
    let rest := line.dropWhile isKeyChar
    let segs := key.splitOn '.'
    let tokens := lineTokens index line
    let joined := List.intercalate ['.'] (tokens.map (·.slice line))
    (∀ c ∈ key, c.utf8Size = 1) ∧
    (tokens ≠ [] ↔ key ≠ [] ∧
      ∃ blanks value, rest = blanks ++ '=' :: value ∧ ∀ c ∈ blanks, Text.isBlank c = true) ∧
    (tokens ≠ [] →
      tokens.length = min segs.length 8 ∧
      (∀ k token, tokens[k]? = some token → ∃ seg, segs[k]? = some seg ∧
        token = ⟨index, ((segs.take k).map fun s => s.length + 1).sum, seg.length, k⟩ ∧
        token.slice line = seg ∧
        (k + 1 < segs.length → (line.drop (token.column + token.length)).head? = some '.') ∧
        (k + 1 = segs.length → token.column + token.length = key.length)) ∧
      (segs.length ≤ 8 → joined = key) ∧
      (8 < segs.length → ∃ deeper, key = joined ++ '.' :: deeper ∧ joined.count '.' = 7)) := by
  intro key rest segs tokens joined
  have htokens : tokens ≠ [] ↔ key ≠ [] ∧ IsAssignment rest := by
    rw [lineTokens_ne_nil_iff]
    simp only [key?_eq_some_iff, exists_eq_left]
    rfl
  refine ⟨fun c hc => ?_, htokens, fun hne => ?_⟩
  · have hchar : isKeyChar c = true := List.all_eq_true.1 List.all_takeWhile c hc
    have hascii := toNat_lt_of_isKeyChar hchar
    rw [Char.utf8Size_eq_one_iff, UInt32.le_iff_toNat_le]
    exact Nat.le_of_lt_succ hascii
  have hkey : key? line = some key := key?_eq_some_iff.2 ⟨rfl, htokens.1 hne⟩
  have hclosed : tokens = _ := lineTokens_eq_mapIdx index hkey
  have hjoined : joined = List.intercalate ['.'] (segs.take 8) :=
    congrArg (List.intercalate ['.']) (map_slice_lineTokens index hkey)
  have hspelled : List.intercalate ['.'] segs = key := intercalate_segments key
  refine ⟨?_, ?_, ?_, ?_⟩
  · rw [hclosed, List.length_mapIdx, List.length_take, Nat.min_comm]
    rfl
  · intro k token htoken
    rw [hclosed, List.getElem?_mapIdx, Option.map_eq_some_iff] at htoken
    obtain ⟨seg, hseg, rfl⟩ := htoken
    obtain ⟨hk, hseg⟩ : k < 8 ∧ segs[k]? = some seg := by
      rw [List.getElem?_take] at hseg
      split_ifs at hseg with hk
      exact ⟨hk, hseg⟩
    exact ⟨seg, hseg, rfl, slice_of_segment index hkey hseg⟩
  · intro hshort
    rw [hjoined, List.take_of_length_le hshort, hspelled]
  · intro hdeep
    rw [hjoined]
    have hseven : 7 < segs.length := by omega
    have hcut := intercalate_take hseven
    rw [hspelled, List.drop_eq_getElem_cons hdeep] at hcut
    refine ⟨_, hcut, ?_⟩
    have hdot : ∀ seg ∈ segs.take 8, '.' ∉ seg := fun seg hseg =>
      Text.not_mem_of_mem_splitOn (List.mem_of_mem_take hseg)
    have hlength : (segs.take 8).length = 8 := List.length_take_of_le (Nat.le_of_lt hdeep)
    have hcount := count_dot_intercalate (List.ne_nil_of_length_eq_add_one hlength) hdot
    omega

/-- A key of ten segments, one of them empty, with a wide space and a tab before its `=`. -/
theorem lineTokens_spell_key_deep :
    let line : Text := "a..b.c.d.e.f.g.h.i\u3000\t= 1".toList
    let tokens := lineTokens 3 line
    let joined := List.intercalate ['.'] (tokens.map (·.slice line))
    tokens ≠ [] ∧ tokens.length = 8 ∧
      (∃ deeper, line.takeWhile isKeyChar = joined ++ '.' :: deeper ∧ joined.count '.' = 7) ∧
      joined = "a..b.c.d.e.f.g".toList := by
  intro line tokens joined
  obtain ⟨-, hiff, hspell⟩ := lineTokens_spell_key 3 line
  have hne : tokens ≠ [] :=
    hiff.2 ⟨by decide, ['\u3000', '\t'], [' ', '1'], by decide, by simp [Text.isBlank]⟩
  obtain ⟨hlength, -, -, hdeep⟩ := hspell hne
  exact ⟨hne, hlength, hdeep (by decide), by decide⟩

end SolverInput.Key
