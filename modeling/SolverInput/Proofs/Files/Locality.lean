import SolverInput.Proofs.Files.Tree

/-!
# What reading depends on

A path passes few places of a file tree: where it starts, and one place for each of its pieces
(`passed`). Reading looks at the entries of these places and at nothing else, so two trees that
agree there give the same text or the same error (`AgreeOn.readText_eq`). This is also so for paths
that lead nowhere: the place where a path ends early is one that it passes.
-/

namespace SolverInput.FileTree

/-- The places that the pieces of a path pass, if it is followed from this place. -/
def passedFrom : Place → List Text → List Place
  | place, [] => [place]
  | place, piece :: rest =>
    place :: (if Path.isVoid piece then passedFrom place rest
      else if piece = ['.', '.'] then passedFrom place.dropLast rest
      else passedFrom (place ++ [piece]) rest)

/-- The places that a path passes, with the place that it leads to. -/
def passed (files : FileTree) (path : Path) : List Place :=
  passedFrom (if path.text.toList.head? = some '/' then [] else files.workingDirectory)
    (path.text.toList.splitOn '/')

/-- Two trees have the same entries on the way of a path. -/
structure AgreeOn (files files' : FileTree) (path : Path) : Prop where
  workingDirectory_eq : files.workingDirectory = files'.workingDirectory
  entry?_eq : ∀ place ∈ files.passed path, files.entry? place = files'.entry? place

variable {files files' : FileTree} {path : Path}

lemma mem_passedFrom_self (place : Place) (pieces : List Text) :
    place ∈ passedFrom place pieces := by
  cases pieces <;> simp [passedFrom]

/-- Pieces lead to one of the places that they pass. -/
lemma mem_passedFrom_of_follow {place target : Place} {pieces : List Text}
    (h : files.follow place pieces = .ok target) : target ∈ passedFrom place pieces := by
  induction pieces generalizing place with
  | nil =>
    cases h
    exact mem_passedFrom_self _ _
  | cons piece rest ih =>
    rw [follow] at h
    obtain ⟨-, -, h⟩ := Except.bind_eq_ok_iff.1 h
    rw [passedFrom]
    apply List.mem_cons_of_mem
    split_ifs at h ⊢
    · exact ih h
    · exact ih h
    · exact ih h

/-- Pieces lead to the same place, or fail for the same cause, in trees with the same entries at
the places that they pass. -/
lemma follow_congr {place : Place} {pieces : List Text}
    (h : ∀ p ∈ passedFrom place pieces, files.entry? p = files'.entry? p) :
    files.follow place pieces = files'.follow place pieces := by
  induction pieces generalizing place with
  | nil => rfl
  | cons piece rest ih =>
    have hplace : files.requireDirectory place = files'.requireDirectory place := by
      unfold requireDirectory
      rw [h place (mem_passedFrom_self _ _)]
    rw [passedFrom, List.forall_mem_cons] at h
    rw [follow, follow, hplace]
    split_ifs at h ⊢ with hvoid hup
    · rw [ih h.2]
    · rw [ih h.2]
    -- a name that is too long ends both walks
    · rfl
    · rw [ih h.2]

/-- Where a path starts depends on the working directory alone, and what it passes from there is
`passed`. -/
lemma passed_of_start {base : Place} {pieces : List Text}
    (h : files.start path = .ok (base, pieces)) : files.passed path = passedFrom base pieces := by
  obtain ⟨-, rfl, rfl⟩ := eq_of_start h
  rfl

namespace AgreeOn

lemma start_eq (h : AgreeOn files files' path) : files.start path = files'.start path := by
  unfold start
  rw [h.workingDirectory_eq]

/-- A path leads to the same place, or fails for the same cause. -/
lemma resolve_eq (h : AgreeOn files files' path) : files.resolve path = files'.resolve path := by
  unfold resolve
  rw [← h.start_eq]
  cases hstart : files.start path with
  | error cause => rfl
  | ok start =>
    have hentries := h.entry?_eq
    rw [passed_of_start hstart] at hentries
    exact follow_congr hentries

/-- The place that a path leads to has the same entry. -/
lemma entry?_of_resolve (h : AgreeOn files files' path) {place : Place}
    (hplace : files.resolve path = .ok place) : files.entry? place = files'.entry? place := by
  obtain ⟨⟨base, pieces⟩, hstart, hfollow⟩ := Except.bind_eq_ok_iff.1 hplace
  apply h.entry?_eq
  rw [passed_of_start hstart]
  exact mem_passedFrom_of_follow hfollow

lemma read_eq (h : AgreeOn files files' path) : files.read path = files'.read path := by
  unfold read
  rw [← h.resolve_eq]
  cases hplace : files.resolve path with
  | error cause => rfl
  | ok place =>
    simp only [bind, Except.bind]
    rw [h.entry?_of_resolve hplace]

/-- **Reading is local**: the text at a path, or the cause why there is none, depends on the entries
on the way of the path alone. -/
lemma readText_eq (h : AgreeOn files files' path) : files.readText path = files'.readText path := by
  unfold readText
  rw [h.read_eq]

end AgreeOn

end SolverInput.FileTree
