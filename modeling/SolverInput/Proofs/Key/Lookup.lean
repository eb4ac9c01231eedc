import SolverInput.Key.Lookup
import SolverInput.Proofs.Key.Segment
import Mathlib

/-!
# The key at a cursor

Highlighting cuts a key at its dots and counts columns; completion cuts the line before the cursor
at its dots and trims the pieces. At a cursor inside a segment, or at either end of it, both see
the same segments before it:

* the line up to such a cursor is the segments before it and a part of its own segment, joined by
  dots (`take_line_of_segment`), so its lookup key is the segments before it
  (`lookupKey_take_of_segment`);
* these are the line up to the dot before the segment (`take_line_before_segment`);
* and they are the texts under the tokens of lower rank on that line (`map_slice_lower_tokens`),
  because a token stands on its segment (`slice_of_segment`, `map_slice_lineTokens`).
-/

namespace SolverInput

/-- The part of a line that a token stands on. -/
def KeyToken.slice (t : KeyToken) (line : Text) : Text :=
  (line.drop t.column).take t.length

namespace Text

/-- A text without blanks has nothing to trim. -/
lemma trim_of_not_blank {t : Text} (h : ∀ c ∈ t, isBlank c = false) : trim t = t := by
  have hskip : ∀ s : Text, (∀ c ∈ s, isBlank c = false) → s.dropWhile isBlank = s := by
    intro s hs
    rw [List.dropWhile_eq_self_iff]
    intro hlength
    simp [hs _ (List.getElem_mem hlength)]
  unfold trim skipBlanks dropEndWhile
  rw [hskip t h, hskip t.reverse fun c hc => h c (List.mem_reverse.1 hc), List.reverse_reverse]

end Text

namespace Key

/-- Key characters are not blank. -/
lemma isBlank_of_isKeyChar {c : Char} (h : isKeyChar c = true) : Text.isBlank c = false := by
  have hrange := toNat_of_isKeyChar h
  simp only [Text.isBlank, Bool.or_eq_false_iff, Bool.and_eq_false_iff, decide_eq_false_iff_not,
    beq_eq_false_iff_ne]
  omega

/-! ## Joined segments -/

/-- Segments joined by dots, with one more at the end. -/
lemma intercalate_concat (segs : List Text) (last : Text) :
    List.intercalate ['.'] (segs ++ [last]) = segs.flatMap (· ++ ['.']) ++ last := by
  have hlast : (segs ++ [last])[segs.length]? = some last := by simp
  rw [intercalate_eq_of_getElem? hlast]
  simp

/-- The key that joined segments look up are the segments before the last one. -/
lemma lookupKey_intercalate {segs : List Text} {last : Text} (hsegs : ∀ seg ∈ segs, '.' ∉ seg)
    (hlast : '.' ∉ last) (hblank : ∀ seg ∈ segs, ∀ c ∈ seg, Text.isBlank c = false) :
    lookupKey (List.intercalate ['.'] (segs ++ [last])) = List.intercalate ['.'] segs := by
  have hdots : ∀ seg ∈ segs ++ [last], '.' ∉ seg := by
    intro seg hseg
    rcases List.mem_append.1 hseg with hseg | hseg
    · exact hsegs seg hseg
    · exact List.mem_singleton.1 hseg ▸ hlast
  have htrim : segs.map Text.trim = segs := by
    conv_rhs => rw [← List.map_id segs]
    exact List.map_congr_left fun seg hseg => Text.trim_of_not_blank (hblank seg hseg)
  unfold lookupKey
  rw [List.splitOn_intercalate '.' hdots (by simp), List.map_append, List.map_singleton,
    List.dropLast_concat, htrim]

/-! ## The line before a cursor -/

section Cursor

variable {line key seg : Text} {k c : Nat}

/-- The line up to a cursor in a segment: the segments before it, and what stands of the segment
before the cursor. -/
lemma take_line_of_segment (hkey : key? line = some key) (hseg : (segments key)[k]? = some seg)
    (hc : offset (segments key) k ≤ c) (hc' : c ≤ offset (segments key) k + seg.length) :
    line.take c = List.intercalate ['.']
      ((segments key).take k ++ [seg.take (c - offset (segments key) k)]) := by
  obtain ⟨-, -, rest, hline⟩ := key?_eq_some hkey
  have hcut := intercalate_eq_of_getElem? hseg
  rw [intercalate_segments] at hcut
  have hlength := length_flatMap_dot (segments key) k
  conv_lhs => rw [hline, hcut, List.append_assoc, List.append_assoc]
  rw [intercalate_concat, List.take_append, List.take_of_length_le (by omega), hlength,
    List.take_append_of_le_length (by omega)]

/-- What stands before a cursor in a segment is spelled with key characters. -/
lemma isKeyChar_of_mem_take (hkey : key? line = some key) (hseg : (segments key)[k]? = some seg)
    (hc' : c ≤ offset (segments key) k + seg.length) : ∀ d ∈ line.take c, isKeyChar d = true := by
  obtain ⟨before, after, hcut, hbefore, hchars, hword⟩ := cut_of_segment hkey hseg
  intro d hd
  rw [hcut, List.take_append_of_le_length (by rw [List.length_append]; omega)] at hd
  rcases List.mem_append.1 (List.mem_of_mem_take hd) with hd | hd
  · exact hchars d hd
  · simp [isKeyChar_eq, hword d hd]

/-- What stands before a cursor in a segment looks up the segments before that one. -/
lemma lookupKey_take_of_segment (hkey : key? line = some key)
    (hseg : (segments key)[k]? = some seg) (hc : offset (segments key) k ≤ c)
    (hc' : c ≤ offset (segments key) k + seg.length) :
    lookupKey (line.take c) = List.intercalate ['.'] ((segments key).take k) := by
  have hdot : ∀ s ∈ segments key, '.' ∉ s := fun s hs => Text.not_mem_of_mem_splitOn hs
  -- key characters are not blank, so there is nothing to trim
  have hblank : ∀ s ∈ segments key, ∀ d ∈ s, Text.isBlank d = false := by
    intro s hs d hd
    obtain ⟨j, hj⟩ := List.mem_iff_getElem?.1 hs
    obtain ⟨-, -, -, -, -, hword⟩ := cut_of_segment hkey hj
    exact isBlank_of_isKeyChar (by simp [isKeyChar_eq, hword d hd])
  rw [take_line_of_segment hkey hseg hc hc']
  apply lookupKey_intercalate
  · exact fun s hs => hdot s (List.mem_of_mem_take hs)
  · exact fun hmem => hdot seg (List.mem_of_getElem? hseg) (List.mem_of_mem_take hmem)
  · exact fun s hs => hblank s (List.mem_of_mem_take hs)

/-- The line up to the dot before a segment: the segments before that one. -/
lemma take_line_before_segment (hkey : key? line = some key)
    (hseg : (segments key)[k + 1]? = some seg) :
    line.take (offset (segments key) (k + 1) - 1)
      = List.intercalate ['.'] ((segments key).take (k + 1)) := by
  -- the dot ends the segment before this one, and a cursor at its end stands before the dot
  have hk : k + 1 < (segments key).length := (List.getElem?_eq_some_iff.1 hseg).1
  obtain ⟨prev, hprev⟩ : ∃ prev, (segments key)[k]? = some prev :=
    ⟨_, List.getElem?_eq_getElem (by omega)⟩
  have htake := take_line_of_segment hkey hprev (Nat.le_add_right _ _) (Nat.le_refl _)
  rw [Nat.add_sub_cancel_left, List.take_length] at htake
  rw [offset_succ hprev, Nat.add_sub_cancel, htake, List.take_add_one, hprev]
  rfl

end Cursor

/-! ## Tokens on their segments -/

/-- A token stands on its segment, and behind it stands the dot before the next segment, or the key
ends. -/
lemma slice_of_segment {line key seg : Text} {k : Nat} (index : Nat) (hkey : key? line = some key)
    (hseg : (segments key)[k]? = some seg) :
    let token : KeyToken := ⟨index, offset (segments key) k, seg.length, k⟩
    token.slice line = seg ∧
    (k + 1 < (segments key).length →
      (line.drop (token.column + token.length)).head? = some '.') ∧
    (k + 1 = (segments key).length → token.column + token.length = key.length) := by
  intro token
  obtain ⟨-, -, rest, hline⟩ := key?_eq_some hkey
  -- the key, cut before and behind the segment
  have hcut := intercalate_eq_of_getElem? hseg
  rw [intercalate_segments] at hcut
  set before := ((segments key).take k).flatMap (· ++ ['.'])
  set after := ((segments key).drop (k + 1)).flatMap ('.' :: ·) with hafter
  have hcolumn : token.column = before.length := (length_flatMap_dot (segments key) k).symm
  have hend : token.column + token.length = (before ++ seg).length := by
    rw [hcolumn, List.length_append]
  have hcutLine : line = before ++ seg ++ (after ++ rest) := by
    rw [hline, hcut, List.append_assoc]
  refine ⟨?_, fun hlt => ?_, fun hlast => ?_⟩
  · unfold KeyToken.slice
    rw [hcolumn, hcutLine, List.append_assoc, List.drop_left, List.take_left]
  · rw [hend, hcutLine, List.drop_left, hafter, List.drop_eq_getElem_cons hlt]
    rfl
  · have hnone : after = [] := by
      rw [hafter, List.drop_eq_nil_of_le (Nat.le_of_eq hlast.symm)]
      rfl
    rw [hend, hcut, hnone, List.append_nil]

/-- The tokens of a line stand on the first eight segments of its key. -/
lemma map_slice_lineTokens {line key : Text} (index : Nat) (hkey : key? line = some key) :
    (lineTokens index line).map (·.slice line) = (segments key).take maxRanks := by
  rw [lineTokens_eq_mapIdx index hkey]
  apply List.ext_getElem?
  intro k
  rw [List.getElem?_map, List.getElem?_mapIdx, Option.map_map]
  by_cases hk : k < maxRanks
  · rw [List.getElem?_take_of_lt hk]
    cases hseg : (segments key)[k]? with
    | none => rfl
    | some seg => exact congrArg some (slice_of_segment index hkey hseg).1
  · rw [List.getElem?_eq_none (by simp; omega)]
    rfl

/-! ## Tokens of lower rank -/

/-- The tokens of one line of a document. -/
lemma filter_line_tokensFrom (index : Nat) {j : Nat} {lines : List Text} {line : Text}
    (h : lines[j]? = some line) :
    (tokensFrom index lines).filter (fun t => t.line = index + j)
      = lineTokens (index + j) line := by
  induction lines generalizing index j with
  | nil => simp at h
  | cons first rest ih =>
    rw [tokensFrom, List.filter_append]
    cases j with
    | zero =>
      obtain rfl : first = line := by simpa using h
      -- the tokens of the rest stand on later lines
      have hrest : (tokensFrom (index + 1) rest).filter (fun t => t.line = index + 0) = [] := by
        rw [List.filter_eq_nil_iff]
        intro t ht
        obtain ⟨i, l, -, hmem⟩ := mem_tokensFrom ht
        have := line_of_mem_lineTokens hmem
        simp only [decide_eq_true_eq]
        omega
      have hfirst : (lineTokens index first).filter (fun t => t.line = index + 0)
          = lineTokens index first := by
        rw [List.filter_eq_self]
        intro t ht
        simp [line_of_mem_lineTokens ht]
      rw [hrest, hfirst, List.append_nil, Nat.add_zero]
    | succ j =>
      have hfirst : (lineTokens index first).filter (fun t => t.line = index + (j + 1)) = [] := by
        rw [List.filter_eq_nil_iff]
        intro t ht
        have := line_of_mem_lineTokens ht
        simp only [decide_eq_true_eq]
        omega
      have hrest := ih (index + 1) (by simpa using h : rest[j]? = some line)
      rw [show index + 1 + j = index + (j + 1) by omega] at hrest
      rw [hfirst, hrest, List.nil_append]

/-- A list whose members satisfy `p` exactly up to an index. -/
lemma filter_eq_take {α : Type} {l : List α} {p : α → Bool} {k : Nat}
    (h : ∀ i a, l[i]? = some a → (p a = true ↔ i < k)) : l.filter p = l.take k := by
  induction l generalizing k with
  | nil => simp
  | cons a l ih =>
    have ha := h 0 a rfl
    cases k with
    | zero =>
      have hl := ih (k := 0) fun i b hb => by simpa using h (i + 1) b hb
      rw [List.filter_cons_of_neg (by simp [ha]), hl]
      simp
    | succ k =>
      have hl := ih (k := k) fun i b hb => by simpa using h (i + 1) b hb
      rw [List.filter_cons_of_pos (ha.2 (by omega)), hl, List.take_succ_cons]

section LowerRanks

variable {text line key : Text} {i k : Nat}

/-- The tokens of a line below a rank are the first ones. -/
lemma filter_tokens_of_line (hline : (Text.lines text)[i]? = some line)
    (hkey : key? line = some key) :
    (tokens text).filter (fun t => t.line = i ∧ t.rank < k)
      = (segmentTokens i 0 0 (segments key)).take k := by
  have hrank : (segmentTokens i 0 0 (segments key)).filter (fun t => t.rank < k)
      = (segmentTokens i 0 0 (segments key)).take k := by
    apply filter_eq_take
    intro j t hj
    rw [getElem?_segmentTokens] at hj
    split_ifs at hj with hj8
    obtain ⟨seg, -, rfl⟩ := Option.map_eq_some_iff.1 hj
    simp
  have htokens := filter_line_tokensFrom 0 hline
  rw [Nat.zero_add] at htokens
  simp only [lineTokens, hkey] at htokens
  rw [← hrank, ← htokens, tokens, List.filter_filter]
  simp [Bool.and_comm]

/-- Below a rank that has a token, there is one token of every rank. -/
lemma map_rank_lower_tokens (hline : (Text.lines text)[i]? = some line)
    (hkey : key? line = some key) (hk : k < maxRanks) (hlength : k ≤ (segments key).length) :
    ((tokens text).filter fun t => t.line = i ∧ t.rank < k).map KeyToken.rank = List.range k := by
  rw [filter_tokens_of_line hline hkey]
  apply List.ext_getElem?
  intro j
  by_cases hj : j < k
  · obtain ⟨seg, hseg⟩ : ∃ seg, (segments key)[j]? = some seg :=
      ⟨_, List.getElem?_eq_getElem (by omega)⟩
    rw [List.getElem?_map, List.getElem?_take_of_lt hj, getElem?_segmentTokens, if_pos (by omega),
      hseg, List.getElem?_range hj]
    simp
  · simp [hj]

/-- Below a rank that has a token, the tokens of a line stand on the segments of its key. -/
lemma map_slice_lower_tokens (hline : (Text.lines text)[i]? = some line)
    (hkey : key? line = some key) (hk : k < maxRanks) :
    ((tokens text).filter fun t => t.line = i ∧ t.rank < k).map (·.slice line)
      = (segments key).take k := by
  have htokens : segmentTokens i 0 0 (segments key) = lineTokens i line := by
    unfold lineTokens
    rw [hkey]
  rw [filter_tokens_of_line hline hkey, List.map_take, htokens, map_slice_lineTokens i hkey,
    List.take_take, Nat.min_eq_left (Nat.le_of_lt hk)]

end LowerRanks

end Key

end SolverInput
