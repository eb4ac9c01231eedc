import SolverInput.Files.Tree
import Mathlib.Data.List.Basic

/-!
# Reading what was written

A file that is written at a path is what is read at that path afterwards (`read_write`), and a text
that is written is the text that is read (`readText_write`). Every path that leads elsewhere leads
to what it led to before (`read_write_of_ne`). The argument has two parts:

* writing puts one entry at one place (`entry?_put`), at which there was no directory before
  (`exists_of_target`), so every directory stays one;
* a path that could be followed leads to the same place in every tree that keeps the directories
  (`follow_of_directories`), and the file name at its end to the entry that was put there.

Only places below directories can be reached (`Reachable.follow`), so the path of a file ends in
the name of the file (`exists_of_follow_file`), and a file that can be read can be written
(`target_of_read`).
-/

namespace SolverInput

/-- A computation in two parts succeeds if both parts do. -/
lemma Except.bind_eq_ok_iff {ε α β : Type} {x : Except ε α} {f : α → Except ε β} {b : β} :
    x >>= f = .ok b ↔ ∃ a, x = .ok a ∧ f a = .ok b := by
  cases x with
  | error e => simp [bind, Except.bind]
  | ok a => simp [bind, Except.bind]

/-- A text is read back from its bytes. -/
lemma Text.ofBytes?_toBytes (t : Text) : Text.ofBytes? (Text.toBytes t) = some t := by
  have hread : String.fromUTF8? (Text.toBytes t) = some (String.ofList t) := by
    unfold Text.toBytes String.fromUTF8?
    rw [String.toUTF8_eq_toByteArray, dif_pos (String.ofList t).isValidUTF8]
    rfl
  unfold Text.ofBytes?
  rw [hread, Option.map_some, String.toList_ofList]

namespace FileTree

/-! ## Entries -/

lemma lookup_filter_ne {place other : Place} (h : other ≠ place) (entries : List (Place × Entry)) :
    (entries.filter (·.1 ≠ place)).lookup other = entries.lookup other := by
  induction entries with
  | nil => rfl
  | cons x rest ih =>
    by_cases hx : x.1 = place
    · have hother : (other == x.1) = false := beq_false_of_ne (hx ▸ h)
      rw [List.filter_cons_of_neg (by simpa using hx), ih, List.lookup_cons, hother]
    · rw [List.filter_cons_of_pos (by simpa using hx), List.lookup_cons, List.lookup_cons, ih]

/-- One place gets another entry, unless it is the working directory or one above it. -/
lemma entry?_put (files : FileTree) (place : Place) (entry : Entry) (other : Place) :
    entry? (files.put place entry) other
      = if other = place ∧ ¬ place <+: files.workingDirectory then some entry
        else files.entry? other := by
  unfold put entry?
  by_cases hother : other = place
  · subst hother
    by_cases hwork : other <+: files.workingDirectory
    · simp [hwork]
    · simp [hwork]
  · have hlookup := lookup_filter_ne hother files.entries
    have hne : (other == place) = false := beq_false_of_ne hother
    simp only [hother, false_and, if_false, List.lookup_cons, hne, hlookup]

/-! ## Following a path -/

lemma requireDirectory_eq_ok_iff {files : FileTree} {place : Place} :
    files.requireDirectory place = .ok () ↔ files.entry? place = some .directory := by
  unfold requireDirectory
  split <;> simp_all

/-- Pieces of a path are followed one part after the other. -/
lemma follow_append (files : FileTree) (place : Place) (xs ys : List Text) :
    files.follow place (xs ++ ys)
      = (files.follow place xs).bind fun place' => files.follow place' ys := by
  induction xs generalizing place with
  | nil => rfl
  | cons piece rest ih =>
    rw [List.cons_append, follow, follow]
    cases files.requireDirectory place with
    | error cause => rfl
    | ok _ =>
      simp only [bind, Except.bind]
      split_ifs <;> simp_all [Except.bind]

/-- A path leads to the same place in every tree in which the directories are still there. -/
lemma follow_of_directories {files files' : FileTree}
    (hkept : ∀ place, files.entry? place = some .directory →
      files'.entry? place = some .directory)
    {place target : Place} {pieces : List Text} (h : files.follow place pieces = .ok target) :
    files'.follow place pieces = .ok target := by
  induction pieces generalizing place with
  | nil => exact h
  | cons piece rest ih =>
    rw [follow] at h ⊢
    obtain ⟨_, hdir, h⟩ := Except.bind_eq_ok_iff.1 h
    refine Except.bind_eq_ok_iff.2 ⟨(), ?_, ?_⟩
    · exact requireDirectory_eq_ok_iff.2 (hkept place (requireDirectory_eq_ok_iff.1 hdir))
    · split_ifs at h ⊢
      · exact ih h
      · exact ih h
      · exact ih h

/-- A piece of a path that can be the name of a file. -/
structure IsFileName (name : Text) : Prop where
  not_void : Path.isVoid name = false
  not_up : name ≠ ['.', '.']
  short : byteLength name ≤ maxNameBytes

/-- A file name leads from a directory to an entry of it. -/
lemma follow_fileName {files : FileTree} {directory : Place} {name : Text}
    (hdir : files.entry? directory = some .directory) (hname : IsFileName name) :
    files.follow directory [name] = .ok (directory ++ [name]) := by
  have hshort : ¬ maxNameBytes < byteLength name := Nat.not_lt.2 hname.short
  rw [follow]
  refine Except.bind_eq_ok_iff.2 ⟨(), requireDirectory_eq_ok_iff.2 hdir, ?_⟩
  simp only [hname.not_void, hname.not_up, hshort, if_false, Bool.false_eq_true, follow]

/-! ## What a path leads to -/

lemma entry?_nil (files : FileTree) : files.entry? [] = some .directory := by
  unfold entry?
  rw [if_pos List.nil_prefix]

lemma entry?_workingDirectory (files : FileTree) :
    files.entry? files.workingDirectory = some .directory := by
  unfold entry?
  rw [if_pos List.prefix_rfl]

/-- Every place above this one is a directory. -/
def Reachable (files : FileTree) (place : Place) : Prop :=
  ∀ above, above <+: place → above ≠ place → files.entry? above = some .directory

lemma reachable_nil (files : FileTree) : files.Reachable [] := by
  intro above habove hne
  exact absurd (List.prefix_nil.1 habove) hne

lemma reachable_workingDirectory (files : FileTree) :
    files.Reachable files.workingDirectory := by
  intro above habove _
  unfold entry?
  rw [if_pos habove]

/-- Whatever stands in a directory can be reached if the directory can. -/
lemma Reachable.concat {files : FileTree} {directory : Place} (h : files.Reachable directory)
    (hdir : files.entry? directory = some .directory) (name : Text) :
    files.Reachable (directory ++ [name]) := by
  intro above habove hne
  rcases List.prefix_concat_iff.1 habove with heq | hprefix
  · exact absurd heq hne
  · by_cases hself : above = directory
    · rw [hself, hdir]
    · exact h above hprefix hself

lemma Reachable.dropLast {files : FileTree} {place : Place} (h : files.Reachable place) :
    files.Reachable place.dropLast := by
  intro above habove hne
  refine h above (habove.trans (List.dropLast_prefix place)) ?_
  rintro rfl
  exact hne ((List.dropLast_prefix above).eq_of_length_le habove.length_le).symm

/-- The place above a directory that can be reached is a directory. -/
lemma Reachable.entry?_dropLast {files : FileTree} {place : Place} (h : files.Reachable place)
    (hdir : files.entry? place = some .directory) :
    files.entry? place.dropLast = some .directory := by
  by_cases hself : place.dropLast = place
  · rw [hself, hdir]
  · exact h _ (List.dropLast_prefix place) hself

/-- Steps only lead to places that can be reached. -/
lemma Reachable.follow {files : FileTree} {place target : Place} {pieces : List Text}
    (h : files.Reachable place) (hfollow : files.follow place pieces = .ok target) :
    files.Reachable target := by
  induction pieces generalizing place with
  | nil =>
    cases hfollow
    exact h
  | cons piece rest ih =>
    rw [FileTree.follow] at hfollow
    obtain ⟨_, hdir, hfollow⟩ := Except.bind_eq_ok_iff.1 hfollow
    rw [requireDirectory_eq_ok_iff] at hdir
    split_ifs at hfollow
    · exact ih h hfollow
    · exact ih h.dropLast hfollow
    · exact ih (h.concat hdir piece) hfollow

/-- A void piece stays in its directory. -/
lemma follow_void {files : FileTree} {place : Place} {piece : Text}
    (hdir : files.entry? place = some .directory) (hvoid : Path.isVoid piece = true)
    (rest : List Text) : files.follow place (piece :: rest) = files.follow place rest := by
  rw [follow, requireDirectory_eq_ok_iff.2 hdir]
  simp only [bind, Except.bind, hvoid, if_true]

/-- The last piece of a path is followed from the place of the pieces before it, which is a
directory. -/
lemma exists_of_follow_concat {files : FileTree} {base place : Place} {pieces : List Text}
    {name : Text} (h : files.follow base (pieces ++ [name]) = .ok place) :
    ∃ directory, files.follow base pieces = .ok directory ∧
      files.entry? directory = some .directory ∧ files.follow directory [name] = .ok place := by
  rw [follow_append] at h
  obtain ⟨directory, hbefore, hlast⟩ := Except.bind_eq_ok_iff.1 h
  have hstep := hlast
  rw [follow] at hstep
  obtain ⟨_, hdir, -⟩ := Except.bind_eq_ok_iff.1 hstep
  exact ⟨directory, hbefore, requireDirectory_eq_ok_iff.1 hdir, hlast⟩

/-- A name leads from a directory to an entry of it, if it leads anywhere. -/
lemma eq_concat_of_follow {files : FileTree} {directory place : Place} {name : Text}
    (h : files.follow directory [name] = .ok place) (hvoid : Path.isVoid name = false)
    (hup : name ≠ ['.', '.']) : place = directory ++ [name] ∧ IsFileName name := by
  rw [follow] at h
  obtain ⟨_, -, h⟩ := Except.bind_eq_ok_iff.1 h
  rw [if_neg (by simp [hvoid]), if_neg hup] at h
  split_ifs at h with hlong
  cases h
  exact ⟨rfl, hvoid, hup, Nat.not_lt.1 hlong⟩

/-- Void pieces at the end of a path do not matter. -/
lemma follow_dropWhile {files : FileTree} {base place : Place} {back : List Text}
    (h : files.follow base back.reverse = .ok place) :
    files.follow base (back.dropWhile Path.isVoid).reverse = .ok place := by
  induction back generalizing place with
  | nil => exact h
  | cons piece rest ih =>
    by_cases hvoid : Path.isVoid piece = true
    · rw [List.reverse_cons] at h
      obtain ⟨directory, hbefore, hdir, hlast⟩ := exists_of_follow_concat h
      rw [follow_void hdir hvoid] at hlast
      cases hlast
      rw [List.dropWhile_cons_of_pos hvoid]
      exact ih hbefore
    · rw [List.dropWhile_cons_of_neg hvoid]
      exact h

/-- The path of a file ends in the name of the file: a void piece or a `..` leads to a directory. -/
lemma exists_of_follow_file {files : FileTree} {base place : Place} {pieces : List Text}
    {name : Text} {content : ByteArray} (hbase : files.Reachable base)
    (h : files.follow base (pieces ++ [name]) = .ok place)
    (hfile : files.entry? place = some (.file content)) :
    ∃ directory, files.follow base pieces = .ok directory ∧
      files.entry? directory = some .directory ∧ IsFileName name ∧
      place = directory ++ [name] := by
  obtain ⟨directory, hbefore, hdir, hlast⟩ := exists_of_follow_concat h
  have hreach := hbase.follow hbefore
  have hvoid : Path.isVoid name = false := by
    by_contra hvoid
    rw [follow_void hdir (by simpa using hvoid)] at hlast
    cases hlast
    rw [hdir] at hfile
    cases hfile
  have hup : name ≠ ['.', '.'] := by
    rintro rfl
    rw [follow, requireDirectory_eq_ok_iff.2 hdir] at hlast
    cases hlast
    rw [hreach.entry?_dropLast hdir] at hfile
    cases hfile
  obtain ⟨rfl, hname⟩ := eq_concat_of_follow hlast hvoid hup
  exact ⟨directory, hbefore, hdir, hname, rfl⟩

/-! ## Writing -/

/-- The last piece of a path that does not end in a slash is not empty, and no piece is dropped
after it. -/
lemma eq_concat_of_dropWhile {pieces before : List Text} {name : Text}
    (hslash : pieces.getLast? ≠ some [])
    (h : pieces.reverse.dropWhile (·.isEmpty) = name :: before) :
    pieces = before.reverse ++ [name] ∧ name ≠ [] := by
  rcases List.eq_nil_or_concat pieces with rfl | ⟨init, last, rfl⟩
  · simp at h
  · rw [List.concat_eq_append] at hslash h ⊢
    have hlast : last ≠ [] := by simpa using hslash
    rw [List.reverse_append, List.reverse_singleton, List.singleton_append,
      List.dropWhile_cons_of_neg (by simpa using hlast), List.cons.injEq] at h
    obtain ⟨rfl, rfl⟩ := h
    rw [List.reverse_reverse]
    exact ⟨rfl, hlast⟩

/-- The path of a file that can be written: its last piece is a file name, the pieces before it lead
to a directory, and that name is not the name of a directory there. -/
lemma exists_of_target {files : FileTree} {path : Path} {place : Place}
    (h : files.target path = .ok place) :
    ∃ base pieces directory name,
      files.start path = .ok (base, pieces ++ [name]) ∧
      files.follow base pieces = .ok directory ∧ files.entry? directory = some .directory ∧
      IsFileName name ∧ place = directory ++ [name] ∧ files.entry? place ≠ some .directory := by
  unfold target at h
  obtain ⟨⟨base, pieces⟩, hstart, h⟩ := Except.bind_eq_ok_iff.1 h
  dsimp only at h
  split at h
  · cases h
  · rename_i name before hpieces
    obtain ⟨directory, hfollow, h⟩ := Except.bind_eq_ok_iff.1 h
    obtain ⟨_, hdir, h⟩ := Except.bind_eq_ok_iff.1 h
    split_ifs at h with hlast hlong hentry
    cases h
    push Not at hlast
    obtain ⟨hslash, hhere, hup⟩ := hlast
    obtain ⟨rfl, hname⟩ := eq_concat_of_dropWhile hslash hpieces
    have hvoid : Path.isVoid name = false := by simp [Path.isVoid, hname, hhere]
    exact ⟨base, before.reverse, directory, name, hstart, hfollow,
      requireDirectory_eq_ok_iff.1 hdir, ⟨hvoid, hup, Nat.not_lt.1 hlong⟩, rfl, hentry⟩

/-- A file is written where there is no directory, and nothing else changes. -/
lemma exists_of_write {files written : FileTree} {path : Path} {content : ByteArray}
    (h : files.write path content = .ok written) :
    ∃ place, files.target path = .ok place ∧ written = files.put place (.file content) := by
  obtain ⟨place, htarget, hwritten⟩ := Except.bind_eq_ok_iff.1 h
  cases hwritten
  exact ⟨place, htarget, rfl⟩

/-- A file that is put where there is no directory leaves every directory, and makes none. -/
lemma entry?_put_file_eq_directory_iff {files : FileTree} {place : Place}
    (hplace : files.entry? place ≠ some .directory) (content : ByteArray) (other : Place) :
    entry? (files.put place (.file content)) other = some .directory ↔
      files.entry? other = some .directory := by
  rw [entry?_put]
  split_ifs with h
  · rw [h.1]
    constructor
    · intro hfile
      cases hfile
    · intro hdir
      exact absurd hdir hplace
  · exact Iff.rfl

/-- A file is written where its path leads to. -/
lemma resolve_of_target {files : FileTree} {path : Path} {place : Place}
    (h : files.target path = .ok place) : files.resolve path = .ok place := by
  obtain ⟨base, pieces, directory, name, hstart, hfollow, hdir, hname, rfl, -⟩ :=
    exists_of_target h
  refine Except.bind_eq_ok_iff.2 ⟨(base, pieces ++ [name]), hstart, ?_⟩
  dsimp only
  rw [follow_append, hfollow]
  exact follow_fileName hdir hname

/-- A path leads to the same place before and after a file is written. -/
lemma resolve_write_iff {files written : FileTree} {path : Path} {content : ByteArray}
    (h : files.write path content = .ok written) {other : Path} {place : Place} :
    written.resolve other = .ok place ↔ files.resolve other = .ok place := by
  obtain ⟨target, htarget, rfl⟩ := exists_of_write h
  obtain ⟨-, -, -, -, -, -, -, -, -, hentry⟩ := exists_of_target htarget
  have hdirs := entry?_put_file_eq_directory_iff hentry content
  unfold resolve
  rw [Except.bind_eq_ok_iff, Except.bind_eq_ok_iff]
  constructor
  · rintro ⟨start, hstart, hfollow⟩
    exact ⟨start, hstart, follow_of_directories (fun place => (hdirs place).1) hfollow⟩
  · rintro ⟨start, hstart, hfollow⟩
    exact ⟨start, hstart, follow_of_directories (fun place => (hdirs place).2) hfollow⟩

lemma read_eq_ok_iff {files : FileTree} {path : Path} {content : ByteArray} :
    files.read path = .ok content ↔
      ∃ place, files.resolve path = .ok place ∧ files.entry? place = some (.file content) := by
  unfold read
  rw [Except.bind_eq_ok_iff]
  apply exists_congr
  intro place
  apply and_congr_right
  intro _
  split <;> simp_all

/-- **What was written is read.** -/
lemma read_write {files written : FileTree} {path : Path} {content : ByteArray}
    (h : files.write path content = .ok written) : written.read path = .ok content := by
  obtain ⟨place, htarget, hput⟩ := exists_of_write h
  obtain ⟨-, -, -, -, -, -, -, -, -, hentry⟩ := exists_of_target htarget
  have hwork : ¬ place <+: files.workingDirectory := by
    intro hprefix
    apply hentry
    unfold entry?
    rw [if_pos hprefix]
  have hresolve : written.resolve path = .ok place :=
    (resolve_write_iff h).2 (resolve_of_target htarget)
  refine read_eq_ok_iff.2 ⟨place, hresolve, ?_⟩
  rw [hput, entry?_put, if_pos ⟨rfl, hwork⟩]

/-- A text that was written is the text that is read. -/
lemma readText_write {files written : FileTree} {path : Path} {t : Text}
    (h : files.write path (Text.toBytes t) = .ok written) : written.readText path = .ok t := by
  refine Except.bind_eq_ok_iff.2 ⟨_, read_write h, ?_⟩
  rw [Text.ofBytes?_toBytes]

/-! ## Files that are read -/

/-- A path that is not refused is not empty, and it starts at the root or in the working
directory. -/
lemma eq_of_start {files : FileTree} {path : Path} {base : Place} {pieces : List Text}
    (h : files.start path = .ok (base, pieces)) :
    path.text.toList ≠ [] ∧
      base = (if path.text.toList.head? = some '/' then [] else files.workingDirectory) ∧
      pieces = path.text.toList.splitOn '/' := by
  unfold start at h
  dsimp only at h
  split_ifs at h with hnul hempty hlong
  all_goals
    cases h
    exact ⟨by simpa using hempty, by simp [*], rfl⟩

lemma reachable_of_start {files : FileTree} {path : Path} {base : Place} {pieces : List Text}
    (h : files.start path = .ok (base, pieces)) : files.Reachable base := by
  obtain ⟨-, rfl, -⟩ := eq_of_start h
  split_ifs
  · exact files.reachable_nil
  · exact files.reachable_workingDirectory

/-- A file that can be read can be written again. -/
lemma target_of_read {files : FileTree} {path : Path} {content : ByteArray}
    (h : files.read path = .ok content) :
    ∃ place, files.resolve path = .ok place ∧ files.target path = .ok place := by
  obtain ⟨place, hresolve, hfile⟩ := read_eq_ok_iff.1 h
  obtain ⟨⟨base, pieces⟩, hstart, hfollow⟩ := Except.bind_eq_ok_iff.1 hresolve
  have hpieces : pieces ≠ [] := by
    rw [(eq_of_start hstart).2.2]
    exact List.splitOn_ne_nil _ _
  obtain ⟨before, name, rfl⟩ := (List.eq_nil_or_concat' pieces).resolve_left hpieces
  obtain ⟨directory, hbefore, hdir, hname, rfl⟩ :=
    exists_of_follow_file (reachable_of_start hstart) hfollow hfile
  refine ⟨_, hresolve, Except.bind_eq_ok_iff.2 ⟨_, hstart, ?_⟩⟩
  have hne : name ≠ [] := by
    rintro rfl
    cases hname.not_void
  have hhere : name ≠ ['.'] := by
    rintro rfl
    cases hname.not_void
  dsimp only
  rw [List.reverse_append, List.reverse_singleton, List.singleton_append,
    List.dropWhile_cons_of_neg (by simpa using hne)]
  dsimp only
  rw [List.reverse_reverse, hbefore]
  simp only [bind, Except.bind, requireDirectory_eq_ok_iff.2 hdir]
  rw [if_neg (by simp [hne, hhere, hname.not_up]), if_neg (Nat.not_lt.2 hname.short), hfile,
    if_neg (by simp)]

/-! ## Everything else -/

/-- Writing changes the entry at one place. -/
lemma entry?_write_of_ne {files written : FileTree} {path : Path} {content : ByteArray}
    {place other : Place} (h : files.write path content = .ok written)
    (htarget : files.target path = .ok place) (hne : other ≠ place) :
    written.entry? other = files.entry? other := by
  obtain ⟨place', htarget', rfl⟩ := exists_of_write h
  rw [htarget] at htarget'
  cases htarget'
  rw [entry?_put, if_neg fun hother => hne hother.1]

/-- **Every other file is as it was**: a path that does not lead to the place of the written file
leads to the same content before and after. -/
lemma read_write_of_ne {files written : FileTree} {path : Path} {content : ByteArray}
    {place : Place} (h : files.write path content = .ok written)
    (htarget : files.target path = .ok place) {other : Path}
    (hne : files.resolve other ≠ .ok place) (found : ByteArray) :
    written.read other = .ok found ↔ files.read other = .ok found := by
  rw [read_eq_ok_iff, read_eq_ok_iff]
  apply exists_congr
  intro place'
  rw [resolve_write_iff h]
  apply and_congr_right
  intro hresolve
  have hplace : place' ≠ place := by
    rintro rfl
    exact hne hresolve
  rw [entry?_write_of_ne h htarget hplace]

/-- Every other text is as it was. -/
lemma readText_write_of_ne {files written : FileTree} {path : Path} {content : ByteArray}
    {place : Place} (h : files.write path content = .ok written)
    (htarget : files.target path = .ok place) {other : Path}
    (hne : files.resolve other ≠ .ok place) (t : Text) :
    written.readText other = .ok t ↔ files.readText other = .ok t := by
  unfold readText
  rw [Except.bind_eq_ok_iff, Except.bind_eq_ok_iff]
  apply exists_congr
  intro bytes
  rw [read_write_of_ne h htarget hne bytes]

end FileTree

end SolverInput
