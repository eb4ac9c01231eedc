import SolverInput.Key.Lookup
import SolverInput.Proofs.Text.Lines
import SolverInput.Proofs.Text.Trim
import Mathlib

/-!
# Lookup keys as normal forms

The key that a text looks up is its part before the last dot, with the blanks around every piece
dropped (`Key.trimPieces`). A text without a dot has no such part and looks up the empty key; so
does a text whose only piece before the dot is blank, and the two must not be told apart. From
`lookupKey_append_dot` and the pieces of a key (`splitOn_trimPieces`) it follows that

* what is typed behind the last dot does not matter;
* blanks around a piece do not matter (`lookupKey_congr`);
* a key with a dot behind it looks up itself (`lookupKey_lookupKey`).
-/

namespace SolverInput

/-- Two texts that differ in the blanks around them, and in nothing else. -/
def Text.SameInside (p q : Text) : Prop :=
  ∃ inside left right left' right', IsBlanks left ∧ IsBlanks right ∧ IsBlanks left' ∧
    IsBlanks right' ∧ p = left ++ inside ++ right ∧ q = left' ++ inside ++ right'

lemma Text.SameInside.trim_eq {p q : Text} (h : SameInside p q) : trim p = trim q := by
  obtain ⟨inside, left, right, left', right', hleft, hright, hleft', hright', rfl, rfl⟩ := h
  rw [trim_append hleft hright, trim_append hleft' hright']

namespace Key

open Text

/-- A dotted path without the blanks around its pieces. -/
def trimPieces (path : Text) : Text :=
  List.intercalate ['.'] ((path.splitOn '.').map trim)

/-- The pieces of such a path are trimmed. -/
lemma splitOn_trimPieces (path : Text) :
    (trimPieces path).splitOn '.' = (path.splitOn '.').map trim := by
  apply List.splitOn_intercalate
  · intro piece hpiece
    obtain ⟨p, hp, rfl⟩ := List.mem_map.1 hpiece
    exact fun hdot => not_mem_of_mem_splitOn hp (mem_of_mem_trim hdot)
  · simp [List.splitOn_ne_nil]

lemma trim_of_mem_splitOn_trimPieces {path p : Text} (h : p ∈ (trimPieces path).splitOn '.') :
    trim p = p := by
  rw [splitOn_trimPieces, List.mem_map] at h
  obtain ⟨q, -, rfl⟩ := h
  exact trim_trim q

lemma trimPieces_trimPieces (path : Text) : trimPieces (trimPieces path) = trimPieces path := by
  have hpieces : ((trimPieces path).splitOn '.').map trim = (trimPieces path).splitOn '.' := by
    conv_rhs => rw [← List.map_id ((trimPieces path).splitOn '.')]
    exact List.map_congr_left fun p hp => trim_of_mem_splitOn_trimPieces hp
  conv_lhs => rw [trimPieces, hpieces, List.intercalate_splitOn]

/-- The key of a text with a dot is its path before the last one. -/
lemma lookupKey_append_dot (s : Text) {t : Text} (ht : '.' ∉ t) :
    lookupKey (s ++ '.' :: t) = trimPieces s := by
  unfold lookupKey trimPieces
  rw [List.splitOn_append_cons_self, List.splitOn_eq_singleton ht, List.map_append,
    List.map_singleton, List.dropLast_concat]

/-- The key of a text without a dot is empty. -/
lemma lookupKey_of_not_mem {x : Text} (h : '.' ∉ x) : lookupKey x = [] := by
  unfold lookupKey
  rw [List.splitOn_eq_singleton h]
  rfl

/-- A text with a dot has a last one. -/
lemma exists_last_dot {x : Text} (h : '.' ∈ x) : ∃ s t, '.' ∉ t ∧ x = s ++ '.' :: t := by
  obtain ⟨t, s, hx, ht⟩ := List.eq_append_cons_of_mem (List.mem_reverse.2 h)
  refine ⟨s.reverse, t.reverse, fun hdot => ht (List.mem_reverse.1 hdot), ?_⟩
  rw [← List.reverse_reverse x, hx, List.reverse_append, List.reverse_cons, List.append_assoc]
  rfl

/-- Every key is a path with trimmed pieces; for a text without a dot it is the empty one. -/
lemma exists_lookupKey_eq (x : Text) : ∃ s, lookupKey x = trimPieces s := by
  by_cases h : '.' ∈ x
  · obtain ⟨s, t, ht, rfl⟩ := exists_last_dot h
    exact ⟨s, lookupKey_append_dot s ht⟩
  · exact ⟨[], lookupKey_of_not_mem h⟩

/-- Blanks around the pieces do not change the key. -/
lemma lookupKey_congr {x y : Text}
    (h : List.Forall₂ SameInside (x.splitOn '.') (y.splitOn '.')) : lookupKey x = lookupKey y := by
  have htrim : (x.splitOn '.').map trim = (y.splitOn '.').map trim := by
    rw [← List.forall₂_eq_eq_eq, List.forall₂_map_left_iff, List.forall₂_map_right_iff]
    exact h.imp fun p q hpq => hpq.trim_eq
  unfold lookupKey
  rw [htrim]

/-- A key with a dot behind it looks up itself. -/
lemma lookupKey_lookupKey (x : Text) : lookupKey (lookupKey x ++ ['.']) = lookupKey x := by
  obtain ⟨s, hs⟩ := exists_lookupKey_eq x
  rw [hs, lookupKey_append_dot _ (List.not_mem_nil), trimPieces_trimPieces]

/-- **The lookup key is a normal form of the path before the last dot.** It does not depend on what
stands behind that dot, and it is the trimmed pieces before it, joined by dots; a text without a dot
has the empty key. Texts whose pieces differ only in the blanks around them have the same key. The
pieces of a key have no blanks around them, and a key with a dot behind it looks up itself. -/
theorem lookupKey_normal_form :
    (∀ s t : Text, '.' ∉ t →
      lookupKey (s ++ '.' :: t) = List.intercalate ['.'] ((s.splitOn '.').map trim)) ∧
    (∀ x : Text, '.' ∉ x → lookupKey x = []) ∧
    (∀ x y : Text, List.Forall₂ SameInside (x.splitOn '.') (y.splitOn '.') →
      lookupKey x = lookupKey y) ∧
    ∀ x : Text, (∀ p ∈ (lookupKey x).splitOn '.', trim p = p) ∧
      lookupKey (lookupKey x ++ ['.']) = lookupKey x := by
  refine ⟨fun s t => lookupKey_append_dot s, fun x => lookupKey_of_not_mem,
    fun x y => lookupKey_congr, fun x => ⟨?_, lookupKey_lookupKey x⟩⟩
  obtain ⟨s, hs⟩ := exists_lookupKey_eq x
  rw [hs]
  exact fun p => trim_of_mem_splitOn_trimPieces

/-- Blanks around the first piece, and a second piece that is nothing else: the key has an empty
second piece, with the blanks and without them. -/
theorem lookupKey_normal_form_blank_piece :
    let x : Text := "\ta\u00A0. .b".toList
    let y : Text := "a..b".toList
    '.' ∉ "b".toList ∧ List.Forall₂ SameInside (x.splitOn '.') (y.splitOn '.') ∧
      lookupKey x = lookupKey y ∧ lookupKey y = "a.".toList := by
  intro x y
  have hsplit : x.splitOn '.' = ["\ta\u00A0".toList, " ".toList, "b".toList] := by decide
  have hsplit' : y.splitOn '.' = ["a".toList, [], "b".toList] := by decide
  have hdot : '.' ∉ "b".toList := by decide
  have hsame : List.Forall₂ SameInside (x.splitOn '.') (y.splitOn '.') := by
    rw [hsplit, hsplit']
    refine .cons ⟨['a'], ['\t'], ['\u00A0'], [], [], ?_⟩ (.cons ⟨[], [' '], [], [], [], ?_⟩
      (.cons ⟨['b'], [], [], [], [], ?_⟩ .nil))
    all_goals decide
  obtain ⟨hpath, -, hcongr, -⟩ := lookupKey_normal_form
  exact ⟨hdot, hsame, hcongr x y hsame, (hpath "a.".toList "b".toList hdot).trans (by decide)⟩

end Key

end SolverInput
