import SolverInput.Proofs.Editor.Session
import SolverInput.Proofs.Files.Locality
import Mathlib.Data.List.Find

/-!
# One file decides which dictionary is loaded

A search ends at the first file that it finds, whatever is in it. So loading has two cases only: no
path on the search list leads to a file, which is the error `notFound` (`load_of_no_file`), or one
path counts, configured or found (`load_of_first_file`), and what is read there decides
(`load_congr`). A file that is no dictionary is an error in both cases, and no other file stands in
for it.

The server starts without a dictionary as well: an error leaves the empty one, which has no
candidates for any line (`completions_empty`), and this lasts for the whole session
(`reply_completion_of_empty`).
-/

namespace SolverInput.Editor.Dictionary

/-- A path leads to the text of this dictionary. -/
def IsAt (files : FileTree) (path : Path) (dictionary : Dictionary) : Prop :=
  ∃ text, files.readText path = .ok text ∧ parse? (String.ofList text) = some dictionary

/-- What loading leads to: its result, and what the server starts with. -/
def outcome (files : FileTree) (configured : Option Path) (search : List Path) :
    Except LoadError (Dictionary × Path) × Loaded :=
  (load files configured search, loadOrEmpty files configured search)

variable {files files' : FileTree} {path : Path} {configured configured' : Option Path}
  {search search' : List Path}

/-! ## Reading one file -/

lemma read_eq_ok_iff {dictionary : Dictionary} :
    read files path = .ok dictionary ↔ IsAt files path dictionary := by
  unfold read IsAt
  cases files.readText path with
  | error cause => simp
  | ok text => cases h : parse? (String.ofList text) <;> simp [h]

lemma read_ne_notFound {searched : List Path} : read files path ≠ .error (.notFound searched) := by
  unfold read
  cases files.readText path with
  | error cause => simp
  | ok text => cases h : parse? (String.ofList text) <;> simp [h]

/-- What is read at a path decides which dictionary it is. -/
lemma read_congr (h : files.readText path = files'.readText path) :
    read files path = read files' path := by
  unfold read
  rw [h]

/-! ## Loading -/

/-- The configured path is the one that counts. -/
lemma load_some (files : FileTree) (path : Path) (search : List Path) :
    load files (some path) search = (read files path).map fun dictionary => (dictionary, path) := by
  simp only [load]
  cases read files path <;> rfl

lemma load_some_eq_ok_iff {dictionary : Dictionary} {found : Path} :
    load files (some path) search = .ok (dictionary, found) ↔
      found = path ∧ IsAt files path dictionary := by
  rw [load_some, ← read_eq_ok_iff]
  cases read files path with
  | error e => simp [Except.map]
  | ok d => simp [Except.map, and_comm, eq_comm]

lemma load_some_eq_error_iff {e : LoadError} :
    load files (some path) search = .error e ↔ read files path = .error e := by
  rw [load_some]
  cases read files path <;> simp [Except.map]

/-- A file that is no dictionary is an error. -/
lemma exists_load_some_eq_error_iff :
    (∃ e, load files (some path) search = .error e) ↔
      ∀ dictionary, ¬ IsAt files path dictionary := by
  simp only [load_some_eq_error_iff, ← read_eq_ok_iff]
  cases read files path <;> simp

/-- The first file on the search list counts as if it were configured. -/
lemma load_of_first_file {before later : List Path}
    (hbefore : ∀ earlier ∈ before, files.isFile earlier = false) (hfile : files.isFile path = true)
    (search : List Path) :
    load files none (before ++ path :: later) = load files (some path) search := by
  have hfind : (before ++ path :: later).find? files.isFile = some path :=
    List.find?_eq_some_iff_append.2 ⟨hfile, before, later, rfl, by simpa using hbefore⟩
  unfold load
  rw [hfind]

/-- A search that finds no file names all the paths that it tried. -/
lemma load_of_no_file (h : ∀ path ∈ search, files.isFile path = false) :
    load files none search = .error (.notFound search) := by
  have hfind : search.find? files.isFile = none := List.find?_eq_none.2 (by simpa using h)
  unfold load
  rw [hfind]

/-- A search list has a first file, or no file. -/
lemma first_file_cases (files : FileTree) (search : List Path) :
    (∀ path ∈ search, files.isFile path = false) ∨
    ∃ before path later, search = before ++ path :: later ∧
      (∀ earlier ∈ before, files.isFile earlier = false) ∧ files.isFile path = true := by
  cases hfind : search.find? files.isFile with
  | none => exact .inl (by simpa using List.find?_eq_none.1 hfind)
  | some path =>
    obtain ⟨hfile, before, later, hsearch, hbefore⟩ := List.find?_eq_some_iff_append.1 hfind
    exact .inr ⟨before, path, later, hsearch, by simpa using hbefore, hfile⟩

lemma load_eq_notFound_iff {searched : List Path} :
    load files configured search = .error (.notFound searched) ↔
      configured = none ∧ searched = search ∧ ∀ path ∈ search, files.isFile path = false := by
  constructor
  · intro h
    cases configured with
    | some path => exact absurd (load_some_eq_error_iff.1 h) read_ne_notFound
    | none =>
      rcases first_file_cases files search with hnone | ⟨before, path, later, rfl, hbefore, hfile⟩
      · rw [load_of_no_file hnone] at h
        cases h
        exact ⟨rfl, rfl, hnone⟩
      · rw [load_of_first_file hbefore hfile [], load_some_eq_error_iff] at h
        exact absurd h read_ne_notFound
  · rintro ⟨rfl, rfl, hnone⟩
    exact load_of_no_file hnone

/-! ## Two runs -/

/-- The server starts with what was loaded, so one result is one outcome. -/
lemma outcome_congr (h : load files configured search = load files' configured' search') :
    outcome files configured search = outcome files' configured' search' := by
  unfold outcome loadOrEmpty
  rw [h]

/-- With a path configured, what is read there decides. -/
lemma load_congr (h : files.readText path = files'.readText path) (search search' : List Path) :
    load files (some path) search = load files' (some path) search' := by
  rw [load_some, load_some, read_congr h]

/-- Without one, it is decided by what the search finds first. -/
lemma load_none_congr (hfiles : ∀ path ∈ search, files.isFile path = files'.isFile path)
    (hfirst : ∀ path, search.find? files.isFile = some path →
      files.readText path = files'.readText path) :
    load files none search = load files' none search := by
  have hfind : search.find? files.isFile = search.find? files'.isFile := List.find?_congr hfiles
  unfold load
  rw [← hfind]
  cases hfound : search.find? files.isFile with
  | none => rfl
  | some path =>
    simp only
    rw [read_congr (hfirst path hfound)]

/-! ## What the server starts with -/

/-- An empty dictionary has no candidates for any line. -/
lemma completions_empty (beforeCursor : Text) : completions {} beforeCursor = [] :=
  rfl

lemma loadOrEmpty_of_ok {dictionary : Dictionary} {found : Path}
    (h : load files configured search = .ok (dictionary, found)) :
    loadOrEmpty files configured search
      = ⟨dictionary, "Completions loaded from " ++ found.text, false⟩ := by
  unfold loadOrEmpty
  rw [h]

lemma loadOrEmpty_of_error {e : LoadError} (h : load files configured search = .error e) :
    loadOrEmpty files configured search
      = ⟨{}, "Failed to read completions dictionary: " ++ e.message, true⟩ := by
  unfold loadOrEmpty
  rw [h]

lemma failed_iff :
    (loadOrEmpty files configured search).failed = true ↔
      ∃ e, load files configured search = .error e := by
  cases h : load files configured search with
  | error e => simp [loadOrEmpty_of_error h]
  | ok found => simp [loadOrEmpty_of_ok h]

lemma dictionary_of_failed (h : (loadOrEmpty files configured search).failed = true) :
    (loadOrEmpty files configured search).dictionary = {} := by
  obtain ⟨e, he⟩ := failed_iff.1 h
  rw [loadOrEmpty_of_error he]

/-- A session without a dictionary answers requests for candidates with none. -/
lemma reply_completion_of_empty {loaded : Loaded} (h : loaded.dictionary = {}) (config : Config)
    (calls : List Call) (uri : String) (position : Position) :
    let s := ((Session.ofConfig config loaded).after files calls).1
    (s.handle files' (.completion uri position)).reply
      = if (s.documents.get? uri).isSome then .candidates [] else .null := by
  intro s
  have hdictionary : s.dictionary = {} := (Session.settings_after ..).2.trans h
  simp only [Session.handle, Session.candidatesAt, hdictionary, completions_empty]
  cases s.documents.get? uri <;> rfl

/-- **One file decides which dictionary is loaded.** What a configured path leads to is loaded
exactly if it is the text of a dictionary, and neither the search list nor anything off the way of
this path has a part in it. Without a configured path the first file on the search list counts, as
if it were configured: if it is no dictionary, that is an error, whatever comes later. The error that
names the whole search list arises exactly if no path on it leads to a file. The server starts in
any case: it reports a failure exactly if loading is an error, and then its dictionary is empty and
has no candidate for any line, at any time of the session. -/
theorem load_decided_by_one_file (files : FileTree) (search : List Path) :
    (∀ path dictionary found, load files (some path) search = .ok (dictionary, found) ↔
      found = path ∧ IsAt files path dictionary) ∧
    (∀ path search' files', files.readText path = files'.readText path →
      outcome files (some path) search = outcome files' (some path) search') ∧
    (∀ path search' files', files.AgreeOn files' path →
      outcome files (some path) search = outcome files' (some path) search') ∧
    (∀ files', (∀ path ∈ search, files.isFile path = files'.isFile path) →
      (∀ path, search.find? files.isFile = some path →
        files.readText path = files'.readText path) →
      outcome files none search = outcome files' none search) ∧
    (∀ before path later, search = before ++ path :: later →
      (∀ earlier ∈ before, files.isFile earlier = false) → files.isFile path = true →
      (∀ search', outcome files none search = outcome files (some path) search') ∧
      ((∃ e, load files none search = .error e) ↔ ∀ dictionary, ¬ IsAt files path dictionary)) ∧
    (∀ configured searched, load files configured search = .error (.notFound searched) ↔
      configured = none ∧ searched = search ∧ ∀ path ∈ search, files.isFile path = false) ∧
    (∀ configured, let loaded := loadOrEmpty files configured search
      (loaded.failed = true ↔ ∃ e, load files configured search = .error e) ∧
      (loaded.failed = false ↔
        ∃ found, load files configured search = .ok (loaded.dictionary, found)) ∧
      (loaded.failed = true → loaded.dictionary = {} ∧
        (∀ beforeCursor, loaded.dictionary.completions beforeCursor = []) ∧
        ∀ config calls uri position files' files'',
          let s := ((Session.ofConfig config loaded).after files' calls).1
          (s.handle files'' (.completion uri position)).reply
            = if (s.documents.get? uri).isSome then .candidates [] else .null)) := by
  refine ⟨fun path dictionary found => load_some_eq_ok_iff, ?_, ?_, ?_, ?_,
    fun configured searched => load_eq_notFound_iff, fun configured => ⟨failed_iff, ?_, ?_⟩⟩
  · intro path search' files' h
    exact outcome_congr (load_congr h search search')
  · intro path search' files' h
    exact outcome_congr (load_congr h.readText_eq search search')
  · intro files' hfiles hfirst
    exact outcome_congr (load_none_congr hfiles hfirst)
  · rintro before path later rfl hbefore hfile
    refine ⟨fun search' => outcome_congr (load_of_first_file hbefore hfile search'), ?_⟩
    rw [load_of_first_file hbefore hfile []]
    exact exists_load_some_eq_error_iff
  · cases h : load files configured search with
    | error e => simp [loadOrEmpty_of_error h]
    | ok result => simpa [loadOrEmpty_of_ok h] using ⟨result.2, rfl⟩
  · intro h
    have hempty := dictionary_of_failed h
    refine ⟨hempty, fun beforeCursor => ?_, ?_⟩
    · rw [hempty, completions_empty]
    · intro config calls uri position files' files''
      exact reply_completion_of_empty hempty config calls uri position

/-- A missing file, a directory, a file that is no text and a dictionary on the search list: the
search ends at the file that is no text, also if the dictionary is replaced, and what the server
starts with has no candidate for the empty line, where the dictionary has one. -/
theorem load_decided_by_one_file_no_text :
    let bad : Path := ⟨"bad.json"⟩
    let good : Path := ⟨"good.json"⟩
    let search : List Path := [⟨"absent.json"⟩, ⟨"d"⟩, bad, good]
    let base := (FileTree.put {} ["work".toList, "d".toList] .directory).put
      ["work".toList, "bad.json".toList] (.file ⟨#[0xff]⟩)
    let files := base.put ["work".toList, "good.json".toList]
      (.file (Text.toBytes "\x7b\"\": [\"Solver\"]\x7d".toList))
    let files' := base.put ["work".toList, "good.json".toList] (.file .empty)
    let loaded := loadOrEmpty files none search
    (load files (some good) search = .ok (⟨[("", ["Solver"])]⟩, good) ∧
      completions ⟨[("", ["Solver"])]⟩ [] = ["Solver"]) ∧
    (files.readText bad = files'.readText bad ∧ files.AgreeOn files' bad ∧
      outcome files (some bad) search = outcome files' (some bad) [] ∧
      outcome files (some bad) search = outcome files' (some bad) [good]) ∧
    ((∀ path ∈ search, files.isFile path = files'.isFile path) ∧
      search.find? files.isFile = some bad ∧
      outcome files none search = outcome files' none search) ∧
    (∃ e, load files none search = .error e) ∧
    loaded.failed = true ∧ loaded.dictionary = {} ∧ loaded.dictionary.completions [] = [] := by
  intro bad good search base files files' loaded
  obtain ⟨hload, hread, hway, hsearch, hfirst, -, hstart⟩ := load_decided_by_one_file files search
  have hgood : IsAt files good ⟨[("", ["Solver"])]⟩ :=
    ⟨"\x7b\"\": [\"Solver\"]\x7d".toList, by decide +kernel, by decide +kernel⟩
  have hbad : files.readText bad = .error .notUtf8 := by decide +kernel
  have hsame : files.readText bad = files'.readText bad := by decide +kernel
  have hagree : files.AgreeOn files' bad := ⟨rfl, by decide +kernel⟩
  have hfile : files.isFile bad = true := by decide +kernel
  have hfiles : ∀ path ∈ search, files.isFile path = files'.isFile path := by decide +kernel
  have hfind : search.find? files.isFile = some bad := by decide +kernel
  have hno : ∀ dictionary, ¬ IsAt files bad dictionary := by
    rintro dictionary ⟨text, htext, -⟩
    rw [hbad] at htext
    cases htext
  have herror : ∃ e, load files none search = .error e :=
    (hfirst [⟨"absent.json"⟩, ⟨"d"⟩] bad [good] rfl (by decide +kernel) hfile).2.2 hno
  have hfailed : loaded.failed = true := (hstart none).1.2 herror
  obtain ⟨hempty, hcompletions, -⟩ := (hstart none).2.2 hfailed
  refine ⟨⟨(hload good _ good).2 ⟨rfl, hgood⟩, by decide⟩,
    ⟨hsame, hagree, hread bad [] files' hsame, hway bad [good] files' hagree⟩,
    ⟨hfiles, hfind, hsearch files' hfiles fun path hpath => ?_⟩, herror, hfailed, hempty,
    hcompletions []⟩
  obtain rfl : bad = path := Option.some.inj (hfind.symm.trans hpath)
  exact hsame

end SolverInput.Editor.Dictionary
