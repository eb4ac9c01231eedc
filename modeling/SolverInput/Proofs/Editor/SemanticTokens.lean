import SolverInput.Editor.Semantic
import SolverInput.Proofs.Key.Segment
import SolverInput.Proofs.Text.Units
import Mathlib

/-!
# Encoded highlighting

Tokens are sent as differences of 32-bit words, which wrap around without notice. This file compares
the encoding with two readings in which nothing can wrap around:

* `SemanticToken.encode?` subtracts only where the result is no less than zero, and fails otherwise;
* `TokenDelta.places` adds the differences up as natural numbers, by the rule that editors follow:
  a difference of lines starts the columns anew.

Both agree with `encode` and `decode` on tokens in document order (`encode?_eq`,
`places_encode`). The tokens of a text are in document order, since they keep apart
(`Key.pairwise_tokens`), and their words are exact as long as the text has fewer than `2 ^ 32`
characters (`place_ofKeyToken`).
-/

namespace SolverInput.Editor

/-- The difference of two words, if it does not wrap around. -/
def checkedSub (a b : UInt32) : Option UInt32 :=
  if b ≤ a then some (a - b) else none

namespace SemanticToken

/-- The words of a token as natural numbers. -/
def place (t : SemanticToken) : KeyToken where
  line := t.line.toNat
  column := t.start.toNat
  length := t.length.toNat
  rank := t.kind.toNat

/-- A token relative to a place, if no subtraction wraps around. -/
def delta? (prevLine prevStart : UInt32) (t : SemanticToken) : Option TokenDelta := do
  let line ← checkedSub t.line prevLine
  let start ← if line = 0 then checkedSub t.start prevStart else some t.start
  return { line, start, length := t.length, kind := t.kind }

/-- Writes tokens relative to a place, if no subtraction wraps around. -/
def encodeFrom? (prevLine prevStart : UInt32) : List SemanticToken → Option (List TokenDelta)
  | [] => some []
  | t :: rest => do
    let first ← t.delta? prevLine prevStart
    let others ← encodeFrom? t.line t.start rest
    return first :: others

/-- Writes the tokens that have a length, if no subtraction wraps around. -/
def encode? (tokens : List SemanticToken) : Option (List TokenDelta) :=
  encodeFrom? 0 0 (tokens.filter (·.length ≠ 0))

/-- A place is not after the start of a token. -/
def NotAfter (line start : UInt32) (t : SemanticToken) : Prop :=
  line < t.line ∨ line = t.line ∧ start ≤ t.start

/-- Tokens in document order. -/
def InOrder (tokens : List SemanticToken) : Prop :=
  tokens.Pairwise fun a b => NotAfter a.line a.start b

end SemanticToken

namespace TokenDelta

/-- Adds differences up to places, without a bound on the sums. -/
def placesFrom (line column : Nat) : List TokenDelta → List KeyToken
  | [] => []
  | d :: rest =>
    let t : KeyToken :=
      { line := line + d.line.toNat
        column := if d.line = 0 then column + d.start.toNat else d.start.toNat
        length := d.length.toNat
        rank := d.kind.toNat }
    t :: placesFrom t.line t.column rest

/-- The places that relative tokens stand for. -/
def places (deltas : List TokenDelta) : List KeyToken :=
  placesFrom 0 0 deltas

end TokenDelta

/-! ## Encoding tokens in document order -/

namespace SemanticToken

lemma notAfter_zero (t : SemanticToken) : NotAfter 0 0 t := by
  unfold NotAfter
  simp only [UInt32.lt_iff_toNat_lt, UInt32.le_iff_toNat_le, ← UInt32.toNat_inj, UInt32.toNat_zero]
  omega

variable {prevLine prevStart : UInt32} {t : SemanticToken} {tokens : List SemanticToken}

/-- The line of a token that is not before the place, relative to it. -/
lemma toNat_delta_line (h : NotAfter prevLine prevStart t) :
    (t.line - prevLine).toNat = t.line.toNat - prevLine.toNat ∧ prevLine ≤ t.line := by
  have hle : prevLine ≤ t.line := by
    rw [UInt32.le_iff_toNat_le]
    rcases h with h | h
    · exact Nat.le_of_lt (UInt32.lt_iff_toNat_lt.1 h)
    · exact Nat.le_of_eq (congrArg UInt32.toNat h.1)
  exact ⟨UInt32.toNat_sub_of_le _ _ hle, hle⟩

/-- On the same line, the start of a token that is not before the place, relative to it. -/
lemma toNat_delta_start (h : NotAfter prevLine prevStart t) (hline : t.line - prevLine = 0) :
    (t.start - prevStart).toNat = t.start.toNat - prevStart.toNat ∧ prevStart ≤ t.start := by
  have hle : prevStart ≤ t.start := by
    -- a difference of zero rules out that the token is on a later line
    have hzero := (toNat_delta_line h).1
    rw [hline, UInt32.toNat_zero] at hzero
    rcases h with h | h
    · rw [UInt32.lt_iff_toNat_lt] at h
      omega
    · exact h.2
  exact ⟨UInt32.toNat_sub_of_le _ _ hle, hle⟩

/-- No subtraction wraps around for a token that is not before the place. -/
lemma delta?_eq (h : NotAfter prevLine prevStart t) :
    t.delta? prevLine prevStart = some (t.delta prevLine prevStart) := by
  unfold delta? delta checkedSub
  rw [if_pos (toNat_delta_line h).2]
  by_cases hline : t.line - prevLine = 0
  · simp [hline, (toNat_delta_start h hline).2]
  · simp [hline]

/-- No subtraction wraps around for tokens in document order. -/
lemma encodeFrom?_eq (hprev : ∀ t ∈ tokens, NotAfter prevLine prevStart t) (h : InOrder tokens) :
    encodeFrom? prevLine prevStart tokens = some (encodeFrom prevLine prevStart tokens) := by
  induction tokens generalizing prevLine prevStart with
  | nil => rfl
  | cons t rest ih =>
    obtain ⟨hfirst, hrest⟩ := List.pairwise_cons.1 h
    rw [encodeFrom?, delta?_eq (hprev t (by simp)), ih hfirst hrest]
    rfl

/-- The unbounded reading of a relative token is the place of the token. -/
lemma placesFrom_cons_delta (h : NotAfter prevLine prevStart t) (deltas : List TokenDelta) :
    TokenDelta.placesFrom prevLine.toNat prevStart.toNat (t.delta prevLine prevStart :: deltas)
      = t.place :: TokenDelta.placesFrom t.line.toNat t.start.toNat deltas := by
  have hline := toNat_delta_line h
  rw [UInt32.le_iff_toNat_le] at hline
  have hsum : prevLine.toNat + (t.line - prevLine).toNat = t.line.toNat := by omega
  unfold delta
  simp only [TokenDelta.placesFrom, hsum, place]
  -- the column counts from the place only on the same line
  by_cases hzero : t.line - prevLine = 0
  · have hstart := toNat_delta_start h hzero
    rw [UInt32.le_iff_toNat_le] at hstart
    have hsum' : prevStart.toNat + (t.start - prevStart).toNat = t.start.toNat := by omega
    simp only [hzero, if_true, hsum']
  · simp only [hzero, if_false]

/-- Adding the differences up gives the places of tokens in document order. -/
lemma placesFrom_encodeFrom (hprev : ∀ t ∈ tokens, NotAfter prevLine prevStart t)
    (h : InOrder tokens) :
    TokenDelta.placesFrom prevLine.toNat prevStart.toNat (encodeFrom prevLine prevStart tokens)
      = tokens.map place := by
  induction tokens generalizing prevLine prevStart with
  | nil => rfl
  | cons t rest ih =>
    obtain ⟨hfirst, hrest⟩ := List.pairwise_cons.1 h
    rw [encodeFrom, placesFrom_cons_delta (hprev t (by simp)), ih hfirst hrest, List.map_cons]

/-- Relative to a place and back. -/
lemma resolve_delta (prevLine prevStart : UInt32) (t : SemanticToken) :
    (t.delta prevLine prevStart).resolve prevLine prevStart = t := by
  have hline : prevLine + (t.line - prevLine) = t.line := by
    rw [UInt32.add_comm, UInt32.sub_add_cancel]
  have hstart : prevStart + (t.start - prevStart) = t.start := by
    rw [UInt32.add_comm, UInt32.sub_add_cancel]
  unfold delta TokenDelta.resolve
  by_cases hzero : t.line - prevLine = 0
  · simp only [hzero, if_true, hstart]
    rw [← hzero, hline]
  · simp only [hzero, if_false, hline]

lemma decodeFrom_encodeFrom (prevLine prevStart : UInt32) (tokens : List SemanticToken) :
    TokenDelta.decodeFrom prevLine prevStart (encodeFrom prevLine prevStart tokens) = tokens := by
  induction tokens generalizing prevLine prevStart with
  | nil => rfl
  | cons t rest ih =>
    rw [encodeFrom, TokenDelta.decodeFrom, resolve_delta, ih]

/-- No subtraction of `encode` wraps around for tokens in document order. -/
lemma encode?_eq (h : InOrder (tokens.filter (·.length ≠ 0))) :
    encode? tokens = some (encode tokens) :=
  encodeFrom?_eq (fun t _ => notAfter_zero t) h

/-- An editor finds the tokens that have a length where they are, in document order. -/
lemma places_encode (h : InOrder (tokens.filter (·.length ≠ 0))) :
    TokenDelta.places (encode tokens) = (tokens.filter (·.length ≠ 0)).map place :=
  placesFrom_encodeFrom (fun t _ => notAfter_zero t) h

lemma decode_encode (tokens : List SemanticToken) :
    TokenDelta.decode (encode tokens) = tokens.filter (·.length ≠ 0) :=
  decodeFrom_encodeFrom 0 0 _

/-! ## Tokens of a text -/

/-- Words hold a key token exactly if its numbers are below `2 ^ 32`. -/
lemma place_ofKeyToken {k : KeyToken} (hline : k.line < 2 ^ 32) (hcolumn : k.column < 2 ^ 32)
    (hlength : k.length < 2 ^ 32) (hrank : k.rank < 2 ^ 32) : (ofKeyToken k).place = k := by
  unfold ofKeyToken place
  simp only [Nat.toUInt32_eq, UInt32.toNat_ofNat', Nat.mod_eq_of_lt hline,
    Nat.mod_eq_of_lt hcolumn, Nat.mod_eq_of_lt hlength, Nat.mod_eq_of_lt hrank]

section OfText

variable {text : Text}

/-- The words of the tokens of a text that is not too long are exact. -/
lemma place_ofKeyToken_of_mem (h : text.length < 2 ^ 32) {k : KeyToken} (hk : k ∈ Key.tokens text) :
    (ofKeyToken k).place = k := by
  have hline := Key.line_le_of_mem_tokens hk
  have hcolumn := Key.column_add_length_le_of_mem_tokens hk
  obtain ⟨-, -, -, -, -, -, -, -, hrank⟩ := Key.mem_tokens hk
  unfold Key.maxRanks at hrank
  exact place_ofKeyToken (by omega) (by omega) (by omega) (by omega)

lemma map_place_ofText (h : text.length < 2 ^ 32) : (ofText text).map place = Key.tokens text := by
  unfold ofText
  rw [List.map_map]
  conv_rhs => rw [← List.map_id (Key.tokens text)]
  exact List.map_congr_left fun k hk => place_ofKeyToken_of_mem h hk

/-- The tokens of a text keep apart, in document order. -/
lemma pairwise_ofText (h : text.length < 2 ^ 32) :
    (ofText text).Pairwise fun a b => Key.Precedes a.place b.place := by
  have hpairs := Key.pairwise_tokens text
  rwa [← map_place_ofText h, List.pairwise_map] at hpairs

lemma inOrder_ofText (h : text.length < 2 ^ 32) : InOrder (ofText text) := by
  refine (pairwise_ofText h).imp fun {a b} hab => ?_
  unfold NotAfter
  rw [UInt32.lt_iff_toNat_lt, UInt32.le_iff_toNat_le, ← UInt32.toNat_inj]
  rcases hab with hline | ⟨hline, hcolumn⟩
  · exact Or.inl hline
  · exact Or.inr ⟨hline, Nat.le_trans (Nat.le_add_right _ _) (Nat.le_of_lt hcolumn)⟩

end OfText

/-- The legend names the kind of a token whose rank is highlighted. -/
lemma kindName?_isSome {t : SemanticToken} (h : t.place.rank < Key.maxRanks) :
    t.kind < 8 ∧ t.kindName?.isSome = true := by
  have hkind : t.kind.toNat < 8 := h
  have hname : kindNames[t.kind.toNat]? = some kindNames[t.kind.toNat] :=
    List.getElem?_eq_getElem hkind
  refine ⟨UInt32.lt_iff_toNat_lt.2 hkind, ?_⟩
  rw [kindName?, hname]
  rfl

/-- A token stands on a segment: on its line there is a key, the segment of its rank in that key is
not empty and is spelled with letters, digits and underscores, the token ends inside the line, and
the UTF-16 units under it are those of the segment. -/
def Covers (text : Text) (t : KeyToken) : Prop :=
  ∃ line key seg, (Text.lines text)[t.line]? = some line ∧ Key.key? line = some key ∧
    (Key.segments key)[t.rank]? = some seg ∧ seg ≠ [] ∧ (∀ c ∈ seg, Key.isWordChar c = true) ∧
    t.column + t.length ≤ Text.units line ∧
    ((Text.utf16 line).drop t.column).take t.length = Text.utf16 seg

/-- A token that has a length stands on its segment. -/
lemma covers_of_mem_tokens {text : Text} {k : KeyToken} (hk : k ∈ Key.tokens text)
    (hlength : k.length ≠ 0) : Covers text k := by
  obtain ⟨line, key, seg, hline, hkey, hseg, hcol, hlen, -⟩ := Key.mem_tokens hk
  obtain ⟨before, after, hcut, hbefore, hkeychars, hword⟩ := Key.cut_of_segment hkey hseg
  -- keys are ASCII, so characters and units count alike up to the end of the segment
  have hbasic : ∀ c ∈ before, c.toNat < 0x10000 := fun c hc =>
    Nat.lt_trans (Key.toNat_lt_of_isKeyChar (hkeychars c hc)) (by decide)
  have hbasic' : ∀ c ∈ seg, c.toNat < 0x10000 := fun c hc => by
    have hchar : Key.isKeyChar c = true := by simp [Key.isKeyChar_eq, hword c hc]
    exact Nat.lt_trans (Key.toNat_lt_of_isKeyChar hchar) (by decide)
  refine ⟨line, key, seg, hline, hkey, hseg, ?_, hword, ?_, ?_⟩
  · rintro rfl
    exact hlength hlen
  · rw [hcut, Text.units_append, Text.units_append, Text.units_of_basic hbasic,
      Text.units_of_basic hbasic', hcol, hlen, hbefore]
    omega
  · rw [hcut, hcol, hlen, ← hbefore]
    exact Text.slice_utf16 hbasic hbasic'

/-- **Highlighting arrives as it was meant.** For a text of fewer than `2 ^ 32` characters no word
of a token is cut off and no subtraction of the encoding wraps around. What an editor decodes, with
or without a bound on the sums, are the tokens that have a length, in order: their places
increase, those on one line do not overlap, and each stands on the segment of its rank in the key
of its line. The legend names the kind of every token, those without a length included. -/
theorem decode_encode_ofText (text : Text) (h : text.length < 2 ^ 32) :
    let tokens := ofText text
    let shown := TokenDelta.decode (encode tokens)
    tokens.map place = Key.tokens text ∧
    encode? tokens = some (encode tokens) ∧
    shown = tokens.filter (·.length ≠ 0) ∧
    TokenDelta.places (encode tokens) = shown.map place ∧
    shown.Pairwise (fun a b => a.line < b.line ∨ a.line = b.line ∧ a.start < b.start) ∧
    shown.Pairwise (fun a b =>
      a.line = b.line → a.start.toNat + a.length.toNat ≤ b.start.toNat) ∧
    (∀ t ∈ tokens, t.kind < 8 ∧ t.kindName?.isSome = true) ∧
    ∀ t ∈ shown, Covers text t.place := by
  intro tokens shown
  have hshown : shown = tokens.filter (·.length ≠ 0) := decode_encode tokens
  have hplaces : tokens.map place = Key.tokens text := map_place_ofText h
  have horder : InOrder (tokens.filter (·.length ≠ 0)) :=
    List.Pairwise.filter _ (inOrder_ofText h)
  have hapart : shown.Pairwise fun a b => Key.Precedes a.place b.place := by
    rw [hshown]
    exact List.Pairwise.filter _ (pairwise_ofText h)
  -- what is known of key tokens holds of the places of the tokens
  have hmem : ∀ t ∈ tokens, t.place ∈ Key.tokens text := fun t ht => by
    rw [← hplaces]
    exact List.mem_map_of_mem ht
  refine ⟨hplaces, encode?_eq horder, hshown, ?_, ?_, ?_, ?_, ?_⟩
  · rw [hshown]
    exact places_encode horder
  · refine hapart.imp fun {a b} hab => ?_
    rw [UInt32.lt_iff_toNat_lt, UInt32.lt_iff_toNat_lt, ← UInt32.toNat_inj]
    simp only [Key.Precedes, place] at hab
    omega
  · refine hapart.imp fun {a b} hab hline => ?_
    rw [← UInt32.toNat_inj] at hline
    simp only [Key.Precedes, place] at hab
    omega
  · intro t ht
    obtain ⟨-, -, -, -, -, -, -, -, hrank⟩ := Key.mem_tokens (hmem t ht)
    exact kindName?_isSome hrank
  · intro t ht
    rw [hshown, List.mem_filter, decide_eq_true_eq] at ht
    exact covers_of_mem_tokens (hmem t ht.1) fun hzero => ht.2 (UInt32.toNat_inj.1 hzero)

/-- A key with an empty segment, and a second line: three tokens arrive. -/
theorem decode_encode_ofText_empty_segment :
    let text : Text := "a..b = 1\nc = 2".toList
    text.length < 2 ^ 32 ∧ encode? (ofText text) = some (encode (ofText text)) ∧
      TokenDelta.places (encode (ofText text)) = [⟨0, 0, 1, 0⟩, ⟨0, 3, 1, 2⟩, ⟨1, 0, 1, 0⟩] := by
  intro text
  have hlength : text.length < 2 ^ 32 := by decide
  exact ⟨hlength, (decode_encode_ofText text hlength).2.1, by decide⟩

end SemanticToken

end SolverInput.Editor
