import SolverInput.Proofs.Editor.SemanticTokens

/-!
# Relative tokens there and back

`SemanticToken.encode` and `TokenDelta.decode` undo each other. One direction is known from the
encoding of tokens in document order (`encode?_eq`, `decode_encode`). For the other direction this
file starts from relative tokens as they come over the wire. Words wrap around without notice, so
the sums are bounded first: as long as the unbounded reading (`TokenDelta.places`) stays below
`2 ^ 32`, decoding adds up to it (`map_place_decodeFrom`), so what is decoded is in document order
(`inOrder_decodeFrom`) and no subtraction of the encoding wraps around.
-/

namespace SolverInput.Editor

/-- Places whose numbers are held by words of 32 bits. -/
def FitWords (places : List KeyToken) : Prop :=
  ∀ k ∈ places, k.line < 2 ^ 32 ∧ k.column < 2 ^ 32

/-- A relative token as an encoder writes it: it has a length and no modifiers. -/
def TokenDelta.IsPlain (d : TokenDelta) : Prop :=
  d.length ≠ 0 ∧ d.modifiers = 0

namespace TokenDelta

variable {prevLine prevStart : UInt32} {d : TokenDelta} {deltas : List TokenDelta}

/-! ## Adding up -/

/-- The unbounded reading of one relative token is the place of the token, if words hold it. -/
lemma placesFrom_cons (d : TokenDelta) (deltas : List TokenDelta)
    (h : FitWords (placesFrom prevLine.toNat prevStart.toNat (d :: deltas))) :
    placesFrom prevLine.toNat prevStart.toNat (d :: deltas)
      = (d.resolve prevLine prevStart).place ::
        placesFrom (d.resolve prevLine prevStart).line.toNat
          (d.resolve prevLine prevStart).start.toNat deltas := by
  have hbound := h _ List.mem_cons_self
  dsimp only at hbound
  have hline : (prevLine + d.line).toNat = prevLine.toNat + d.line.toNat := by
    rw [UInt32.toNat_add]
    omega
  -- the column is a sum on the same line only, so only there a bound on it is needed
  by_cases hzero : d.line = 0
  · have hstart : (prevStart + d.start).toNat = prevStart.toNat + d.start.toNat := by
      rw [if_pos hzero] at hbound
      rw [UInt32.toNat_add]
      omega
    rw [hzero] at hline
    simp only [placesFrom, resolve, SemanticToken.place, hzero, if_true, hline, hstart]
  · simp only [placesFrom, resolve, SemanticToken.place, hzero, if_false, hline]

/-- The places after the first one are measured from it, and words hold them too. -/
lemma fitWords_rest (h : FitWords (placesFrom prevLine.toNat prevStart.toNat (d :: deltas))) :
    FitWords (placesFrom (d.resolve prevLine prevStart).line.toNat
      (d.resolve prevLine prevStart).start.toNat deltas) := by
  intro k hk
  apply h
  rw [placesFrom_cons d deltas h]
  exact List.mem_cons_of_mem _ hk

/-- Decoding adds up to the unbounded reading, if words hold it. -/
lemma map_place_decodeFrom
    (h : FitWords (placesFrom prevLine.toNat prevStart.toNat deltas)) :
    (decodeFrom prevLine prevStart deltas).map SemanticToken.place
      = placesFrom prevLine.toNat prevStart.toNat deltas := by
  induction deltas generalizing prevLine prevStart with
  | nil => rfl
  | cons d rest ih =>
    rw [placesFrom_cons d rest h, decodeFrom, List.map_cons, ih (fitWords_rest h)]

/-! ## Document order -/

/-- Adding up never leads backwards. -/
lemma le_of_mem_placesFrom {line column : Nat} {k : KeyToken}
    (hk : k ∈ placesFrom line column deltas) :
    line < k.line ∨ line = k.line ∧ column ≤ k.column := by
  induction deltas generalizing line column with
  | nil => cases hk
  | cons d rest ih =>
    have hzero : d.line = 0 ↔ d.line.toNat = 0 := by rw [← UInt32.toNat_inj, UInt32.toNat_zero]
    rw [placesFrom, List.mem_cons] at hk
    rcases hk with rfl | hk
    · dsimp only
      split_ifs with hline
      · omega
      · rw [hzero] at hline
        omega
    · have hrest := ih hk
      dsimp only at hrest
      split_ifs at hrest with hline
      · omega
      · rw [hzero] at hline
        omega

/-- What is decoded starts no earlier than the place it is measured from. -/
lemma notAfter_of_mem_decodeFrom
    (h : FitWords (placesFrom prevLine.toNat prevStart.toNat deltas)) {t : SemanticToken}
    (ht : t ∈ decodeFrom prevLine prevStart deltas) :
    SemanticToken.NotAfter prevLine prevStart t := by
  have hplace : t.place ∈ placesFrom prevLine.toNat prevStart.toNat deltas := by
    rw [← map_place_decodeFrom h]
    exact List.mem_map_of_mem ht
  have hle := le_of_mem_placesFrom hplace
  unfold SemanticToken.NotAfter
  rw [UInt32.lt_iff_toNat_lt, UInt32.le_iff_toNat_le, ← UInt32.toNat_inj]
  exact hle

/-- What is decoded is in document order. -/
lemma inOrder_decodeFrom (h : FitWords (placesFrom prevLine.toNat prevStart.toNat deltas)) :
    SemanticToken.InOrder (decodeFrom prevLine prevStart deltas) := by
  induction deltas generalizing prevLine prevStart with
  | nil => exact List.Pairwise.nil
  | cons d rest ih =>
    rw [decodeFrom]
    apply List.Pairwise.cons
    · intro t ht
      exact notAfter_of_mem_decodeFrom (fitWords_rest h) ht
    · exact ih (fitWords_rest h)

/-! ## Back to the wire -/

/-- Measured from a place and back. -/
lemma delta_resolve (hd : d.modifiers = 0) :
    (d.resolve prevLine prevStart).delta prevLine prevStart = d := by
  obtain ⟨line, start, length, kind, modifiers⟩ := d
  dsimp only at hd
  have hline : prevLine + line - prevLine = line := by
    rw [UInt32.add_comm, UInt32.add_sub_cancel]
  have hstart : prevStart + start - prevStart = start := by
    rw [UInt32.add_comm, UInt32.add_sub_cancel]
  unfold resolve SemanticToken.delta
  by_cases hzero : line = 0
  · subst hzero
    simp only [hline, hstart, if_true, hd]
  · simp only [hline, hzero, if_false, hd]

lemma encodeFrom_decodeFrom (hplain : ∀ d ∈ deltas, d.IsPlain) :
    SemanticToken.encodeFrom prevLine prevStart (decodeFrom prevLine prevStart deltas)
      = deltas := by
  induction deltas generalizing prevLine prevStart with
  | nil => rfl
  | cons d rest ih =>
    have hd : d.modifiers = 0 := (hplain d List.mem_cons_self).2
    have hrest : ∀ d ∈ rest, d.IsPlain := fun d' hd' => hplain d' (List.mem_cons_of_mem _ hd')
    rw [decodeFrom, SemanticToken.encodeFrom, delta_resolve hd, ih hrest]

/-- Every token that is decoded has the length of a relative token. -/
lemma filter_decodeFrom (hplain : ∀ d ∈ deltas, d.IsPlain) :
    (decodeFrom prevLine prevStart deltas).filter (·.length ≠ 0)
      = decodeFrom prevLine prevStart deltas := by
  induction deltas generalizing prevLine prevStart with
  | nil => rfl
  | cons d rest ih =>
    have hd : (d.resolve prevLine prevStart).length ≠ 0 := (hplain d List.mem_cons_self).1
    have hrest : ∀ d ∈ rest, d.IsPlain := fun d' hd' => hplain d' (List.mem_cons_of_mem _ hd')
    rw [decodeFrom, List.filter_cons, if_pos (decide_eq_true hd), ih hrest]

end TokenDelta

namespace SemanticToken

/-- **Encoding and decoding undo each other.** Tokens whose members with a length are in document
order are encoded without a subtraction that wraps around, and what an editor decodes are exactly
the members with a length, in order, with or without a bound on the sums. Relative tokens that all
have a length and no modifiers, and whose sums are below `2 ^ 32`, are decoded without a sum that
wraps around, and encoding what was decoded gives the relative tokens again, again without a
subtraction that wraps around. -/
theorem encode_decode_inverse :
    (∀ tokens : List SemanticToken, InOrder (tokens.filter (·.length ≠ 0)) →
      encode? tokens = some (encode tokens) ∧
      TokenDelta.decode (encode tokens) = tokens.filter (·.length ≠ 0) ∧
      TokenDelta.places (encode tokens) = (tokens.filter (·.length ≠ 0)).map place) ∧
    (∀ deltas : List TokenDelta, (∀ d ∈ deltas, d.IsPlain) → FitWords (TokenDelta.places deltas) →
      (TokenDelta.decode deltas).map place = TokenDelta.places deltas ∧
      encode (TokenDelta.decode deltas) = deltas ∧
      encode? (TokenDelta.decode deltas) = some deltas) := by
  constructor
  · intro tokens horder
    exact ⟨encode?_eq horder, decode_encode tokens, places_encode horder⟩
  · intro deltas hplain hfit
    have hkept : (TokenDelta.decode deltas).filter (·.length ≠ 0) = TokenDelta.decode deltas :=
      TokenDelta.filter_decodeFrom hplain
    have hencode : encode (TokenDelta.decode deltas) = deltas := by
      unfold encode
      rw [hkept]
      exact TokenDelta.encodeFrom_decodeFrom hplain
    have horder : InOrder ((TokenDelta.decode deltas).filter (·.length ≠ 0)) := by
      rw [hkept]
      exact TokenDelta.inOrder_decodeFrom hfit
    refine ⟨TokenDelta.map_place_decodeFrom hfit, hencode, ?_⟩
    rw [encode?_eq horder, hencode]

/-- An empty token between two lines is left out, so the next one is measured from the token before
it; and two relative tokens, the second on a later line, come back as they were. -/
theorem encode_decode_inverse_empty_token :
    let tokens : List SemanticToken := [⟨1, 4, 2, 0⟩, ⟨2, 7, 0, 1⟩, ⟨2, 3, 1, 2⟩]
    let deltas : List TokenDelta := [⟨1, 4, 2, 0, 0⟩, ⟨1, 3, 1, 2, 0⟩]
    InOrder (tokens.filter (·.length ≠ 0)) ∧ TokenDelta.decode (encode tokens)
      = [⟨1, 4, 2, 0⟩, ⟨2, 3, 1, 2⟩] ∧
    (∀ d ∈ deltas, d.IsPlain) ∧ FitWords (TokenDelta.places deltas) ∧
      encode? (TokenDelta.decode deltas) = some deltas := by
  intro tokens deltas
  have horder : InOrder (tokens.filter (·.length ≠ 0)) := by
    have hfilter : tokens.filter (·.length ≠ 0) = [⟨1, 4, 2, 0⟩, ⟨2, 3, 1, 2⟩] := by decide
    rw [hfilter]
    unfold InOrder NotAfter
    decide
  have hplain : ∀ d ∈ deltas, d.IsPlain := by
    unfold TokenDelta.IsPlain
    decide
  have hfit : FitWords (TokenDelta.places deltas) := by
    unfold FitWords
    decide
  obtain ⟨hforth, hback⟩ := encode_decode_inverse
  obtain ⟨-, hdecode, -⟩ := hforth tokens horder
  obtain ⟨-, -, hencode⟩ := hback deltas hplain hfit
  exact ⟨horder, hdecode, hplain, hfit, hencode⟩

end SemanticToken

end SolverInput.Editor
