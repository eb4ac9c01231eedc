import SolverInput.Editor.Session
import SolverInput.Proofs.Editor.SemanticTokens
import SolverInput.Proofs.Key.Lookup
import Mathlib

/-!
# Completion at a highlighted segment

An editor that shows the tokens of a document and then asks for candidates with the cursor on one
of them, or at either end of it, gets the candidates for the segments before it. The tokens come
from the key of the line (`Key.tokens`), the candidates from the line up to the cursor
(`Key.lookupKey`); both cut the line into the same segments (`Key.lookupKey_take_of_segment`,
`Key.map_slice_lower_tokens`). The cursor counts UTF-16 units, which up to there are characters
(`textBefore_of_segment`).
-/

namespace SolverInput.Editor

/-- The tokens of lower rank on the line of a token. -/
def SemanticToken.lower (t : SemanticToken) (tokens : List SemanticToken) : List SemanticToken :=
  tokens.filter fun u => u.line = t.line ∧ u.kind < t.kind

/-- A token of a document stands for the segment of its rank, in the key of its line. -/
lemma segment_of_mem_ofText {text : Text} (h : text.length < 2 ^ 32) {t : SemanticToken}
    (ht : t ∈ SemanticToken.ofText text) :
    ∃ line key seg, (Text.lines text)[t.line.toNat]? = some line ∧ Key.key? line = some key ∧
      (Key.segments key)[t.kind.toNat]? = some seg ∧
      t.start.toNat = Key.offset (Key.segments key) t.kind.toNat ∧
      t.length.toNat = seg.length ∧ t.kind.toNat < Key.maxRanks := by
  have hplace : t.place ∈ Key.tokens text := by
    rw [← SemanticToken.map_place_ofText h]
    exact List.mem_map_of_mem ht
  exact Key.mem_tokens hplace

/-- The line before a cursor on a token, or at its end, is cut at a character. -/
lemma textBefore_of_segment {text line key seg : Text} {i k c : Nat}
    (hline : (Text.lines text)[i]? = some line) (hkey : Key.key? line = some key)
    (hseg : (Key.segments key)[k]? = some seg)
    (hc' : c ≤ Key.offset (Key.segments key) k + seg.length) :
    textBefore text ⟨i, c⟩ = line.take c := by
  have hbasic : ∀ d ∈ line.take c, d.toNat < 0x10000 := fun d hd =>
    Nat.lt_trans (Key.toNat_lt_of_isKeyChar (Key.isKeyChar_of_mem_take hkey hseg hc' d hd))
      (by decide)
  unfold textBefore
  rw [hline]
  exact Text.takeUnits_of_basic hbasic

/-- The tokens of lower rank on a line, by their places. -/
lemma map_place_lower {text : Text} (h : text.length < 2 ^ 32) (t : SemanticToken) :
    (t.lower (SemanticToken.ofText text)).map SemanticToken.place
      = (Key.tokens text).filter fun u => u.line = t.line.toNat ∧ u.rank < t.kind.toNat := by
  rw [← SemanticToken.map_place_ofText h, List.filter_map]
  unfold SemanticToken.lower
  congr 1
  apply List.filter_congr
  intro u _
  rw [Function.comp, decide_eq_decide, ← UInt32.toNat_inj, UInt32.lt_iff_toNat_lt]
  rfl

/-- A completion request is answered from the line before the cursor. -/
lemma reply_completion {s : Session} {uri : String} {text : Text}
    (h : s.documents.get? uri = some (String.ofList text)) (files : FileTree)
    (position : Position) :
    (s.handle files (.completion uri position)).reply
      = .candidates (s.dictionary.lookup (Key.lookupKey (textBefore text position))) := by
  simp [Session.handle, h, Session.candidatesAt, Dictionary.completions]

/-- **Highlighting and completion see the same segments.** With the cursor on a token of a text of
fewer than `2 ^ 32` units, or at either end of it, the lookup key is empty for a token of rank
zero and otherwise the line up to the dot before the token; it is the texts of the tokens of
lower rank on that line, one of each rank, joined by dots; and a server that holds the text offers
what its dictionary has for exactly that key. -/
theorem completion_at_token (text : Text) (h : Text.units text < 2 ^ 32) (t : SemanticToken)
    (ht : t ∈ SemanticToken.ofText text) (c : Nat) (hc : t.start.toNat ≤ c)
    (hc' : c ≤ t.start.toNat + t.length.toNat) :
    ∃ line, (Text.lines text)[t.line.toNat]? = some line ∧
      let key := Key.lookupKey (textBefore text ⟨t.line.toNat, c⟩)
      let lower := t.lower (SemanticToken.ofText text)
      (t.kind = 0 → key = []) ∧
      (t.kind ≠ 0 → 0 < t.start.toNat ∧ key = line.take (t.start.toNat - 1)) ∧
      lower.map (·.kind.toNat) = List.range t.kind.toNat ∧
      key = List.intercalate ['.'] (lower.map (·.place.slice line)) ∧
      ∀ (s : Session) (files : FileTree) (uri : String),
        s.documents.get? uri = some (String.ofList text) →
        (s.handle files (.completion uri ⟨t.line.toNat, c⟩)).reply
          = .candidates (s.dictionary.lookup key) := by
  have hlength : text.length < 2 ^ 32 := Nat.lt_of_le_of_lt (Text.length_le_units text) h
  obtain ⟨line, key, seg, hline, hkey, hseg, hstart, hlen, hrank⟩ :=
    segment_of_mem_ofText hlength ht
  rw [hstart] at hc
  rw [hstart, hlen] at hc'
  have hkeyAt : Key.lookupKey (textBefore text ⟨t.line.toNat, c⟩)
      = List.intercalate ['.'] ((Key.segments key).take t.kind.toNat) := by
    rw [textBefore_of_segment hline hkey hseg hc']
    exact Key.lookupKey_take_of_segment hkey hseg hc hc'
  have hplaces := map_place_lower hlength t
  refine ⟨line, hline, ?_, ?_, ?_, ?_, ?_⟩
  · intro hkind
    rw [hkeyAt, hkind]
    rfl
  · intro hkind
    -- a rank above zero has a segment and a dot before it
    rw [Ne, ← UInt32.toNat_inj, UInt32.toNat_zero] at hkind
    obtain ⟨k, hk⟩ := Nat.exists_eq_succ_of_ne_zero hkind
    rw [hk] at hseg hstart hkeyAt
    have hlong : k + 1 < (Key.segments key).length := (List.getElem?_eq_some_iff.1 hseg).1
    have hfirst := List.getElem?_eq_getElem (Nat.zero_lt_of_lt hlong)
    have hdot := Key.offset_add_le hfirst (Nat.succ_pos k)
    refine ⟨by omega, ?_⟩
    rw [hkeyAt, hstart, Key.take_line_before_segment hkey hseg]
  · have hranks := Key.map_rank_lower_tokens hline hkey hrank
      (Nat.le_of_lt (List.getElem?_eq_some_iff.1 hseg).1)
    rwa [← hplaces, List.map_map] at hranks
  · have hslices := Key.map_slice_lower_tokens hline hkey hrank
    rw [← hplaces, List.map_map] at hslices
    rw [hkeyAt, ← hslices]
    rfl
  · intro s files uri hdoc
    exact reply_completion hdoc files _

/-- The cursor at the end of `b` in `a..b = 1`, on the second line: the key is `a.`, with an empty
segment after its dot, and a server that holds the text offers what stands under `a.`. -/
theorem completion_at_token_empty_segment :
    let text : Text := "# x\na..b = 1".toList
    let t : SemanticToken := ⟨1, 3, 1, 2⟩
    let s : Session :=
      { Session.start ⟨true, "txt"⟩ ⟨[("a", ["b"]), ("a.", ["c"])]⟩ [] with
        documents := Documents.put {} "u" (String.ofList text) }
    Text.units text < 2 ^ 32 ∧ t ∈ SemanticToken.ofText text ∧
      t.start.toNat ≤ 4 ∧ 4 ≤ t.start.toNat + t.length.toNat ∧
      s.documents.get? "u" = some (String.ofList text) ∧
      Key.lookupKey (textBefore text ⟨1, 4⟩) = "a.".toList ∧
      (s.handle {} (.completion "u" ⟨1, 4⟩)).reply = .candidates ["c"] := by
  intro text t s
  have hunits : Text.units text < 2 ^ 32 := by decide
  have ht : t ∈ SemanticToken.ofText text := by decide
  have hstart : t.start.toNat ≤ 4 := by decide
  have hend : 4 ≤ t.start.toNat + t.length.toNat := by decide
  have hdoc : s.documents.get? "u" = some (String.ofList text) := by decide
  obtain ⟨line, hline, -, hkey, -, -, hreply⟩ :=
    completion_at_token text hunits t ht 4 hstart hend
  have hone : (Text.lines text)[1]? = some "a..b = 1".toList := by decide
  obtain rfl : "a..b = 1".toList = line := Option.some.inj (hone.symm.trans hline)
  have hlookup : Key.lookupKey (textBefore text ⟨1, 4⟩) = "a.".toList := (hkey (by decide)).2
  have hanswer := hreply s {} "u" hdoc
  have hentry : s.dictionary.lookup "a.".toList = ["c"] := by decide
  refine ⟨hunits, ht, hstart, hend, hdoc, hlookup, ?_⟩
  rw [← hentry, ← hlookup]
  exact hanswer

end SolverInput.Editor
