import SolverInput.Text.Lines
import Mathlib.Data.List.Basic

/-!
# Cutting and joining lines

`Text.lines` cuts a text at its line feeds. Everything said here about it comes from two equations,
one for a text without a line feed and one for a piece that a line feed ends, by an induction over
the pieces of a text (`Text.byPieces`):

* the number of lines (`length_lines`), and bounds on their lengths;
* `lines_joinEnds`: lines that are joined, each ended in either way, are cut apart again;
* `lines_joinLines_eq_iff`: lines that are written one under the other are read back exactly if
  none but the last ends in a carriage return.
-/

namespace SolverInput

/-- The two ways to end a line. -/
inductive LineEnd where
  | feed
  | returnFeed
  deriving DecidableEq

/-- The characters that end a line. -/
def LineEnd.text : LineEnd → Text
  | feed => ['\n']
  | returnFeed => ['\r', '\n']

/-- What is left of a line that is ended in this way when it is cut off again: a bare line feed
takes a carriage return of the line with it. -/
def LineEnd.kept : LineEnd → Text → Text
  | feed, line => Text.dropReturn line
  | returnFeed, line => line

namespace Text

/-- Writes lines one under the other; line `i`, unless it is the last one, is ended by `ends i`. -/
def joinEnds : (Nat → LineEnd) → List Text → Text
  | _, [] => []
  | _, [last] => last
  | ends, line :: next :: rest =>
    line ++ (ends 0).text ++ joinEnds (fun i => ends (i + 1)) (next :: rest)

/-- Lines that are all ended in the same way. -/
lemma joinEnds_const (ending : LineEnd) (ls : List Text) :
    joinEnds (fun _ => ending) ls = List.intercalate ending.text ls := by
  induction ls with
  | nil => rfl
  | cons line rest ih =>
    cases rest with
    | nil => simp [joinEnds]
    | cons next rest =>
      rw [List.intercalate_cons_cons, ← ih]
      rfl

lemma joinEnds_cons {rest : List Text} (hrest : rest ≠ []) (ends : Nat → LineEnd) (line : Text) :
    joinEnds ends (line :: rest)
      = line ++ (ends 0).text ++ joinEnds (fun i => ends (i + 1)) rest := by
  obtain ⟨next, others, rfl⟩ := List.exists_cons_of_ne_nil hrest
  rfl

/-! ## The pieces of a text -/

/-- A text has no separator, or its first separator ends a piece and another text follows. -/
@[elab_as_elim] lemma byPieces (sep : Char) {motive : Text → Prop}
    (last : ∀ t, sep ∉ t → motive t)
    (piece : ∀ p t, sep ∉ p → motive t → motive (p ++ sep :: t)) (t : Text) : motive t := by
  induction hn : t.length using Nat.strongRecOn generalizing t with
  | _ n ih =>
    by_cases h : sep ∈ t
    · obtain ⟨p, rest, rfl, hp⟩ := List.eq_append_cons_of_mem h
      refine piece p rest hp (ih rest.length ?_ rest rfl)
      rw [← hn, List.length_append, List.length_cons]
      omega
    · exact last t h

/-- No piece holds the separator. -/
lemma not_mem_of_mem_splitOn {sep : Char} {t p : Text} (h : p ∈ t.splitOn sep) : sep ∉ p := by
  induction t using byPieces sep with
  | last t ht =>
    rw [List.splitOn_eq_singleton ht, List.mem_singleton] at h
    exact h ▸ ht
  | piece q t hq ih =>
    rw [List.splitOn_append_cons_self_of_not_mem hq, List.mem_cons] at h
    rcases h with rfl | h
    · exact hq
    · exact ih h

lemma lines_of_not_mem {t : Text} (h : '\n' ∉ t) : lines t = [t] := by
  unfold lines
  rw [List.splitOn_eq_singleton h]
  rfl

lemma lines_append_cons {p : Text} (h : '\n' ∉ p) (t : Text) :
    lines (p ++ '\n' :: t) = dropReturn p :: lines t := by
  unfold lines
  rw [List.splitOn_append_cons_self_of_not_mem h]
  -- another piece follows, so the first one is not the last
  obtain ⟨next, rest, hsplit⟩ := List.exists_cons_of_ne_nil (List.splitOn_ne_nil '\n' t)
  rw [hsplit]
  rfl

lemma lines_ne_nil (t : Text) : lines t ≠ [] := by
  induction t using byPieces '\n' with
  | last t h => simp [lines_of_not_mem h]
  | piece p t hp ih => simp [lines_append_cons hp]

/-! ## Sizes -/

/-- A text has one line more than it has line feeds. -/
lemma length_lines (t : Text) : (lines t).length = t.count '\n' + 1 := by
  induction t using byPieces '\n' with
  | last t h =>
    rw [lines_of_not_mem h, List.count_eq_zero_of_not_mem h]
    rfl
  | piece p t hp ih =>
    rw [lines_append_cons hp, List.length_cons, ih, List.count_append,
      List.count_eq_zero_of_not_mem hp, List.count_cons_self]
    omega

lemma length_dropReturn_le (t : Text) : (dropReturn t).length ≤ t.length := by
  unfold dropReturn
  split
  · rw [List.length_dropLast]
    omega
  · exact Nat.le_refl _

/-- A line is no longer than the text. -/
lemma length_le_of_mem_lines {t line : Text} (h : line ∈ lines t) : line.length ≤ t.length := by
  induction t using byPieces '\n' with
  | last t ht =>
    rw [lines_of_not_mem ht, List.mem_singleton] at h
    exact Nat.le_of_eq (congrArg List.length h)
  | piece p t hp ih =>
    rw [lines_append_cons hp, List.mem_cons] at h
    rw [List.length_append, List.length_cons]
    rcases h with rfl | h
    · have := length_dropReturn_le p
      omega
    · have := ih h
      omega

/-! ## Joining and cutting -/

lemma dropReturn_of_getLast? {t : Text} (h : t.getLast? ≠ some '\r') : dropReturn t = t := by
  unfold dropReturn
  rw [if_neg h]

lemma dropReturn_append_return (t : Text) : dropReturn (t ++ ['\r']) = t := by
  unfold dropReturn
  rw [if_pos (by simp), List.dropLast_concat]

/-- A line that is ended in either way is cut off again, up to a carriage return of its own. -/
lemma lines_append_kept {line : Text} (hfeed : '\n' ∉ line) (ending : LineEnd) (t : Text) :
    lines (line ++ ending.text ++ t) = ending.kept line :: lines t := by
  cases ending with
  | feed =>
    rw [List.append_assoc]
    exact lines_append_cons hfeed t
  | returnFeed =>
    -- the piece before the line feed is the line with its carriage return
    have hfeed' : '\n' ∉ line ++ ['\r'] := by
      rw [List.mem_append, List.mem_singleton]
      rintro (h | h)
      · exact hfeed h
      · exact absurd h (by decide)
    have hcut : line ++ LineEnd.returnFeed.text ++ t = (line ++ ['\r']) ++ '\n' :: t := by
      simp [LineEnd.text]
    rw [hcut, lines_append_cons hfeed', dropReturn_append_return]
    rfl

lemma kept_of_getLast? {line : Text} (h : line.getLast? ≠ some '\r') (ending : LineEnd) :
    ending.kept line = line := by
  cases ending with
  | feed => exact dropReturn_of_getLast? h
  | returnFeed => rfl

/-- Nothing is added to a line that is cut off again. -/
lemma mem_of_mem_kept {c : Char} {line : Text} {ending : LineEnd} (h : c ∈ ending.kept line) :
    c ∈ line := by
  cases ending with
  | feed =>
    simp only [LineEnd.kept, dropReturn] at h
    split at h
    · exact List.dropLast_subset _ h
    · exact h
  | returnFeed => exact h

/-- No line holds a line feed. -/
lemma not_mem_of_mem_lines {t line : Text} (h : line ∈ lines t) : '\n' ∉ line := by
  induction t using byPieces '\n' with
  | last t ht =>
    rw [lines_of_not_mem ht, List.mem_singleton] at h
    exact h ▸ ht
  | piece p t hp ih =>
    rw [lines_append_cons hp, List.mem_cons] at h
    rcases h with rfl | h
    · intro hmem
      have hkept : '\n' ∈ LineEnd.feed.kept p := hmem
      exact hp (mem_of_mem_kept hkept)
    · exact ih h

/-- A line that is ended in either way is cut off again. -/
lemma lines_append_ending {line : Text} (hfeed : '\n' ∉ line) (hreturn : line.getLast? ≠ some '\r')
    (ending : LineEnd) (t : Text) : lines (line ++ ending.text ++ t) = line :: lines t := by
  rw [lines_append_kept hfeed, kept_of_getLast? hreturn]

/-- If every line is ended, the last one too, then an empty line follows. -/
lemma lines_flatMap_ending {ls : List Text} (hfeed : ∀ line ∈ ls, '\n' ∉ line)
    (hreturn : ∀ line ∈ ls, line.getLast? ≠ some '\r') (ending : LineEnd) :
    lines (ls.flatMap (· ++ ending.text)) = ls ++ [[]] := by
  induction ls with
  | nil => rfl
  | cons line rest ih =>
    have hrest := ih (fun l hl => hfeed l (List.mem_cons_of_mem _ hl))
      (fun l hl => hreturn l (List.mem_cons_of_mem _ hl))
    rw [List.flatMap_cons, lines_append_ending (hfeed line (by simp)) (hreturn line (by simp)),
      hrest, List.cons_append]

/-- The first of joined lines is cut off again, up to a carriage return of its own. -/
lemma lines_joinEnds_cons {line : Text} {rest : List Text} (hfeed : '\n' ∉ line) (hrest : rest ≠ [])
    (ends : Nat → LineEnd) :
    lines (joinEnds ends (line :: rest))
      = (ends 0).kept line :: lines (joinEnds (fun i => ends (i + 1)) rest) := by
  rw [joinEnds_cons hrest]
  exact lines_append_kept hfeed _ _

/-- **Joined lines are cut apart again**, in whichever way each of them is ended. The last line
has no ending, so it may end in a carriage return of its own. -/
lemma lines_joinEnds {ls : List Text} (hne : ls ≠ []) (hfeed : ∀ line ∈ ls, '\n' ∉ line)
    (hreturn : ∀ line ∈ ls.dropLast, line.getLast? ≠ some '\r') (ends : Nat → LineEnd) :
    lines (joinEnds ends ls) = ls := by
  induction ls generalizing ends with
  | nil => exact absurd rfl hne
  | cons line rest ih =>
    cases rest with
    | nil => exact lines_of_not_mem (hfeed line (by simp))
    | cons next rest =>
      have htail := ih (by simp) (fun l hl => hfeed l (List.mem_cons_of_mem _ hl))
        (fun l hl => hreturn l (by rw [List.dropLast_cons_cons]; exact List.mem_cons_of_mem _ hl))
        (fun i => ends (i + 1))
      have hline := hreturn line (by simp)
      rw [lines_joinEnds_cons (hfeed line (by simp)) (by simp), kept_of_getLast? hline, htail]

/-! ## Joined lines -/

lemma joinLines_eq_joinEnds (ls : List Text) : joinLines ls = joinEnds (fun _ => .feed) ls :=
  (joinEnds_const .feed ls).symm

/-- A line feed stands before every line but the first. -/
lemma joinLines_cons (line : Text) (rest : List Text) :
    joinLines (line :: rest) = line ++ rest.flatMap ('\n' :: ·) := by
  unfold joinLines
  induction rest generalizing line with
  | nil => simp
  | cons next rest ih =>
    rw [List.intercalate_cons_cons, ih, List.flatMap_cons]
    simp

lemma dropReturn_eq_self_iff {t : Text} : dropReturn t = t ↔ t.getLast? ≠ some '\r' := by
  constructor
  · intro h hlast
    unfold dropReturn at h
    rw [if_pos hlast] at h
    obtain ⟨init, rfl⟩ := List.getLast?_eq_some_iff.1 hlast
    simp at h
  · exact dropReturn_of_getLast?

/-- Lines that are written one under the other are that many lines. -/
lemma length_lines_joinLines {ls : List Text} (hne : ls ≠ []) (hfeed : ∀ line ∈ ls, '\n' ∉ line) :
    (lines (joinLines ls)).length = ls.length := by
  rw [joinLines_eq_joinEnds]
  induction ls with
  | nil => exact absurd rfl hne
  | cons line rest ih =>
    cases rest with
    | nil =>
      rw [show joinEnds (fun _ => LineEnd.feed) [line] = line from rfl,
        lines_of_not_mem (hfeed line (by simp))]
    | cons next rest =>
      have htail := ih (by simp) fun l hl => hfeed l (List.mem_cons_of_mem _ hl)
      rw [lines_joinEnds_cons (hfeed line (by simp)) (by simp), List.length_cons, htail]
      rfl

/-- Lines that are written one under the other are read back exactly if none of them but the last
ends in a carriage return. -/
lemma lines_joinLines_eq_iff {ls : List Text} (hfeed : ∀ line ∈ ls, '\n' ∉ line) :
    lines (joinLines ls) = ls ↔
      ls ≠ [] ∧ ∀ line ∈ ls.dropLast, line.getLast? ≠ some '\r' := by
  constructor
  · intro h
    refine ⟨fun hnil => lines_ne_nil (joinLines ls) (h.trans hnil), ?_⟩
    rw [joinLines_eq_joinEnds] at h
    induction ls with
    | nil => simp
    | cons line rest ih =>
      cases rest with
      | nil => simp
      | cons next rest =>
        rw [lines_joinEnds_cons (hfeed line (by simp)) (by simp), List.cons.injEq] at h
        obtain ⟨hline, htail⟩ := h
        rw [List.dropLast_cons_cons, List.forall_mem_cons]
        exact ⟨dropReturn_eq_self_iff.1 hline,
          ih (fun l hl => hfeed l (List.mem_cons_of_mem _ hl)) htail⟩
  · rintro ⟨hne, hreturn⟩
    rw [joinLines_eq_joinEnds]
    exact lines_joinEnds hne hfeed hreturn _

end Text

end SolverInput
