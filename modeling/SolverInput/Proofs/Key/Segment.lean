import SolverInput.Key.Token
import SolverInput.Proofs.Text.LetterCase
import SolverInput.Proofs.Text.Lines
import Mathlib

/-!
# Key segments and their tokens

The tokens of a line in closed form: token `k` stands for segment `k` of the key, its column is the
width of the segments before it, each with its dot (`offset`), and only the first eight ranks
have one (`getElem?_segmentTokens`, `lineTokens_eq_mapIdx`). From there:

* a token's column and length cut its segment out of the line (`mem_lineTokens`);
* the tokens of a document are in document order and keep apart (`pairwise_tokens`);
* lines and columns are bounded by the length of the text (`line_le_of_mem_tokens`,
  `column_add_length_le_of_mem_tokens`).
-/

namespace SolverInput.Key

/-! ## Keys -/

/-- A key stands at the start of its line, is not empty and is spelled with key characters. -/
lemma key?_eq_some {line key : Text} (h : key? line = some key) :
    key ≠ [] ∧ (∀ c ∈ key, isKeyChar c = true) ∧ ∃ rest, line = key ++ rest := by
  unfold key? at h
  simp only at h
  split at h
  · split_ifs at h with hempty
    cases h
    refine ⟨by simpa using hempty, fun c hc => ?_, line.dropWhile isKeyChar, ?_⟩
    · exact List.all_eq_true.1 List.all_takeWhile c hc
    · exact (List.takeWhile_append_dropWhile).symm
  · cases h

/-- Segments are spelled with ASCII letters, digits and underscores. -/
def isWordChar (c : Char) : Bool :=
  c.isAlphanum || c == '_'

lemma isKeyChar_eq (c : Char) : isKeyChar c = (isWordChar c || c == '.') := rfl

/-- Key characters are ASCII and stand behind the space there. -/
lemma toNat_of_isKeyChar {c : Char} (h : isKeyChar c = true) : 32 < c.toNat ∧ c.toNat < 128 := by
  simp only [isKeyChar, Bool.or_eq_true, beq_iff_eq] at h
  rcases h with (h | rfl) | rfl
  · exact Text.toNat_of_isAlphanum h
  · decide
  · decide

/-- Key characters are ASCII. -/
lemma toNat_lt_of_isKeyChar {c : Char} (h : isKeyChar c = true) : c.toNat < 128 :=
  (toNat_of_isKeyChar h).2

/-! ## Segments -/

/-- The width of the first `k` segments, each with the dot after it. -/
def offset (segs : List Text) (k : Nat) : Nat :=
  ((segs.take k).map fun seg => seg.length + 1).sum

lemma offset_zero (segs : List Text) : offset segs 0 = 0 := rfl

lemma offset_cons_succ (seg : Text) (segs : List Text) (k : Nat) :
    offset (seg :: segs) (k + 1) = seg.length + 1 + offset segs k := by
  simp [offset]

lemma offset_succ {segs : List Text} {k : Nat} {seg : Text} (h : segs[k]? = some seg) :
    offset segs (k + 1) = offset segs k + seg.length + 1 := by
  unfold offset
  rw [List.take_add_one, h]
  simp [Nat.add_assoc]

/-- A segment starts behind every earlier one and its dot. -/
lemma offset_add_le {segs : List Text} {j k : Nat} {seg : Text} (hj : segs[j]? = some seg)
    (hjk : j < k) : offset segs j + seg.length + 1 ≤ offset segs k := by
  induction segs generalizing j k with
  | nil => simp at hj
  | cons first rest ih =>
    obtain ⟨k, rfl⟩ : ∃ k', k = k' + 1 := ⟨k - 1, by omega⟩
    rw [offset_cons_succ]
    cases j with
    | zero =>
      obtain rfl : first = seg := by simpa using hj
      rw [offset_zero]
      omega
    | succ j =>
      have := ih (j := j) (k := k) (by simpa using hj) (by omega)
      rw [offset_cons_succ]
      omega

lemma intercalate_cons_eq (seg : Text) (segs : List Text) :
    List.intercalate ['.'] (seg :: segs) = seg ++ segs.flatMap ('.' :: ·) := by
  induction segs generalizing seg with
  | nil => simp
  | cons next rest ih =>
    rw [List.intercalate_cons_cons, ih, List.flatMap_cons]
    simp

/-- The `k`-th of the segments that dots join stands behind the first `k` of them, each with its
dot, and before the others. -/
lemma intercalate_eq_of_getElem? {segs : List Text} {k : Nat} {seg : Text}
    (h : segs[k]? = some seg) :
    List.intercalate ['.'] segs
      = (segs.take k).flatMap (· ++ ['.']) ++ seg ++ (segs.drop (k + 1)).flatMap ('.' :: ·) := by
  induction segs generalizing k with
  | nil => simp at h
  | cons first rest ih =>
    cases k with
    | zero =>
      obtain rfl : first = seg := by simpa using h
      rw [intercalate_cons_eq]
      simp
    | succ k =>
      have hne : rest ≠ [] := by
        rintro rfl
        simp at h
      have hrest := ih (k := k) (by simpa using h)
      rw [List.intercalate_cons_of_ne_nil hne, hrest]
      simp

lemma length_flatMap_dot (segs : List Text) (k : Nat) :
    ((segs.take k).flatMap (· ++ ['.'])).length = offset segs k := by
  rw [List.length_flatMap, offset]
  simp

/-- Segments are the pieces of a key between its dots. -/
lemma intercalate_segments (key : Text) : List.intercalate ['.'] (segments key) = key :=
  List.intercalate_splitOn '.'

/-- A segment of a key, as a cut of the line: what stands before it is spelled with key characters
and has the width of the segments before it, and the segment itself holds no dot. -/
lemma cut_of_segment {line key seg : Text} {k : Nat} (hkey : key? line = some key)
    (hseg : (segments key)[k]? = some seg) :
    ∃ before after, line = before ++ seg ++ after ∧ before.length = offset (segments key) k ∧
      (∀ c ∈ before, isKeyChar c = true) ∧ ∀ c ∈ seg, isWordChar c = true := by
  obtain ⟨-, hchars, rest, hline⟩ := key?_eq_some hkey
  -- cut the key around the segment, and the rest of the line comes last
  have hcut := intercalate_eq_of_getElem? hseg
  rw [intercalate_segments] at hcut
  set before := ((segments key).take k).flatMap (· ++ ['.'])
  set after := ((segments key).drop (k + 1)).flatMap ('.' :: ·)
  refine ⟨before, after ++ rest, ?_, length_flatMap_dot _ _, fun c hc => ?_, fun c hc => ?_⟩
  · rw [hline, hcut, List.append_assoc]
  · exact hchars c (by simp [hcut, hc])
  · have hkeychar := hchars c (by simp [hcut, hc])
    have hdot : '.' ∉ seg := Text.not_mem_of_mem_splitOn (List.mem_of_getElem? hseg)
    have hne : c ≠ '.' := fun h => hdot (h ▸ hc)
    simpa [isKeyChar_eq, hne] using hkeychar

/-! ## Tokens of a line -/

/-- **The tokens of a line in closed form.** -/
lemma getElem?_segmentTokens (line column rank k : Nat) (segs : List Text) :
    (segmentTokens line column rank segs)[k]?
      = if rank + k < maxRanks then
          segs[k]?.map fun seg => ⟨line, column + offset segs k, seg.length, rank + k⟩
        else none := by
  induction segs generalizing column rank k with
  | nil => simp [segmentTokens]
  | cons seg rest ih =>
    unfold segmentTokens
    by_cases hrank : rank < maxRanks
    · rw [if_pos hrank]
      cases k with
      | zero => simp [hrank, offset_zero]
      | succ k =>
        rw [List.getElem?_cons_succ, ih, List.getElem?_cons_succ, offset_cons_succ,
          show rank + 1 + k = rank + (k + 1) by omega,
          show column + seg.length + 1 + offset rest k
            = column + (seg.length + 1 + offset rest k) by omega]
    · -- ranks only grow, so no later segment has a token either
      rw [if_neg hrank, ih, if_neg (by omega), if_neg (by omega)]

/-- Each of the first eight segments has a token, in order. -/
lemma lineTokens_eq_mapIdx {line key : Text} (index : Nat) (hkey : key? line = some key) :
    lineTokens index line = ((segments key).take maxRanks).mapIdx fun k seg =>
      ⟨index, offset (segments key) k, seg.length, k⟩ := by
  unfold lineTokens
  rw [hkey]
  apply List.ext_getElem?
  intro k
  rw [getElem?_segmentTokens, List.getElem?_mapIdx, Nat.zero_add, Nat.zero_add]
  by_cases hk : k < maxRanks
  · rw [if_pos hk, List.getElem?_take_of_lt hk]
  · rw [if_neg hk, List.getElem?_eq_none (by simp; omega)]
    rfl

/-- A token of a line stands for the segment of its rank. -/
lemma mem_lineTokens {index : Nat} {line : Text} {t : KeyToken} (h : t ∈ lineTokens index line) :
    ∃ key seg, key? line = some key ∧ (segments key)[t.rank]? = some seg ∧
      t = ⟨index, offset (segments key) t.rank, seg.length, t.rank⟩ ∧ t.rank < maxRanks := by
  unfold lineTokens at h
  cases hkey : key? line with
  | none => simp [hkey] at h
  | some key =>
    simp only [hkey] at h
    obtain ⟨k, hk⟩ := List.mem_iff_getElem?.1 h
    rw [getElem?_segmentTokens] at hk
    split_ifs at hk with hrank
    obtain ⟨seg, hseg, rfl⟩ := Option.map_eq_some_iff.1 hk
    refine ⟨key, seg, rfl, ?_, ?_, hrank⟩
    · simpa using hseg
    · simp

lemma line_of_mem_lineTokens {index : Nat} {line : Text} {t : KeyToken}
    (h : t ∈ lineTokens index line) : t.line = index := by
  obtain ⟨_, _, _, _, htok, _⟩ := mem_lineTokens h
  exact congrArg KeyToken.line htok

/-- One token ends before another one starts, on the same line or on an earlier one. -/
def Precedes (a b : KeyToken) : Prop :=
  a.line < b.line ∨ a.line = b.line ∧ a.column + a.length < b.column

/-- The tokens of a line keep apart, from left to right. -/
lemma pairwise_lineTokens (index : Nat) (line : Text) :
    (lineTokens index line).Pairwise Precedes := by
  unfold lineTokens
  split
  · rename_i key hkey
    rw [List.pairwise_iff_getElem]
    intro j k hj hk hjk
    -- both tokens in closed form
    have hjtok := List.getElem?_eq_getElem hj
    have hktok := List.getElem?_eq_getElem hk
    rw [getElem?_segmentTokens] at hjtok hktok
    split_ifs at hjtok with hj8
    split_ifs at hktok with hk8
    obtain ⟨segj, hsegj, htokj⟩ := Option.map_eq_some_iff.1 hjtok
    obtain ⟨segk, -, htokk⟩ := Option.map_eq_some_iff.1 hktok
    rw [← htokj, ← htokk]
    have := offset_add_le hsegj hjk
    exact Or.inr ⟨rfl, by simp only; omega⟩
  · exact List.Pairwise.nil

/-! ## Tokens of a document -/

lemma mem_tokensFrom {index : Nat} {lines : List Text} {t : KeyToken}
    (h : t ∈ tokensFrom index lines) :
    ∃ j line, lines[j]? = some line ∧ t ∈ lineTokens (index + j) line := by
  induction lines generalizing index with
  | nil => simp [tokensFrom] at h
  | cons line rest ih =>
    rw [tokensFrom, List.mem_append] at h
    rcases h with h | h
    · exact ⟨0, line, rfl, h⟩
    · obtain ⟨j, line', hline, ht⟩ := ih h
      refine ⟨j + 1, line', hline, ?_⟩
      rwa [show index + (j + 1) = index + 1 + j by omega]

/-- A token of a document stands for the segment of its rank, in the key of its line. -/
lemma mem_tokens {text : Text} {t : KeyToken} (h : t ∈ tokens text) :
    ∃ line key seg, (Text.lines text)[t.line]? = some line ∧ key? line = some key ∧
      (segments key)[t.rank]? = some seg ∧ t.column = offset (segments key) t.rank ∧
      t.length = seg.length ∧ t.rank < maxRanks := by
  obtain ⟨j, line, hline, ht⟩ := mem_tokensFrom h
  obtain ⟨key, seg, hkey, hseg, htok, hrank⟩ := mem_lineTokens ht
  have hj : t.line = j := by
    rw [line_of_mem_lineTokens ht, Nat.zero_add]
  exact ⟨line, key, seg, hj ▸ hline, hkey, hseg, congrArg KeyToken.column htok,
    congrArg KeyToken.length htok, hrank⟩

lemma pairwise_tokensFrom (index : Nat) (lines : List Text) :
    (tokensFrom index lines).Pairwise Precedes := by
  induction lines generalizing index with
  | nil => exact List.Pairwise.nil
  | cons line rest ih =>
    rw [tokensFrom, List.pairwise_append]
    refine ⟨pairwise_lineTokens index line, ih (index + 1), fun a ha b hb => ?_⟩
    -- the tokens of the rest stand on later lines
    obtain ⟨j, line', -, hb'⟩ := mem_tokensFrom hb
    have haline : a.line = index := line_of_mem_lineTokens ha
    have hbline : b.line = index + 1 + j := line_of_mem_lineTokens hb'
    exact Or.inl (by omega)

/-- The tokens of a document keep apart, in document order. -/
lemma pairwise_tokens (text : Text) : (tokens text).Pairwise Precedes :=
  pairwise_tokensFrom 0 _

/-- A token's line is counted by the characters of the text. -/
lemma line_le_of_mem_tokens {text : Text} {t : KeyToken} (h : t ∈ tokens text) :
    t.line ≤ text.length := by
  obtain ⟨line, -, -, hline, -⟩ := mem_tokens h
  have hlt : t.line < (Text.lines text).length := (List.getElem?_eq_some_iff.1 hline).1
  rw [Text.length_lines] at hlt
  have hcount : text.count '\n' ≤ text.length := List.count_le_length
  omega

/-- A token ends inside the text. -/
lemma column_add_length_le_of_mem_tokens {text : Text} {t : KeyToken} (h : t ∈ tokens text) :
    t.column + t.length ≤ text.length := by
  obtain ⟨line, key, seg, hline, hkey, hseg, hcolumn, hlength, -⟩ := mem_tokens h
  obtain ⟨before, after, hcut, hbefore, -⟩ := cut_of_segment hkey hseg
  -- the cut lies inside its line, and the line inside the text
  have hle := Text.length_le_of_mem_lines (List.mem_of_getElem? hline)
  rw [hcut, List.length_append, List.length_append, hbefore] at hle
  omega

end SolverInput.Key
