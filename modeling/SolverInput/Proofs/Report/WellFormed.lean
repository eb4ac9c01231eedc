import SolverInput.Proofs.Report.Reader
import SolverInput.Proofs.Text.Lines
import Mathlib.Data.List.Basic

/-!
# Well-formed reports

The reports that the solver writes, as a data type: a sequence of blocks (`Block`), each of them
free text, a macro section, a debug section with tables, or a section that does not matter. A
document prints its blocks line by line (`Document.lines`) and says what its report should be
(`Document.report`); reading the printed lines gives that report (`ofLines_document`), and so does
reading the printed text.

The proof follows the data: `Reader.Yields` says what a run of lines does, from the reader before
it to the reader after it, and there is one such statement for each kind of line, for a table, for
a part of a debug section, and for a block.
-/

namespace SolverInput

/-! ## Documents -/

/-- A table of a debug section. The line under the header can be any line; no row is a section
marker or a rule. -/
structure DebugTable where
  kind : TableKind
  header : Text
  underline : Text
  rows : List Text
  closing : Text
  header_class : Line.classify header = .tableHeader kind
  rows_class : ∀ row ∈ rows, (Line.classify row).isMarker = false ∧ Line.classify row ≠ .rule
  closing_class : Line.classify closing = .rule

/-- What stands in a debug section: tables, and stray lines between them. -/
inductive DebugPart where
  | stray (line : Text) (marker : (Line.classify line).isMarker = false)
    (header : ∀ kind, Line.classify line ≠ .tableHeader kind)
  | table (table : DebugTable)

/-- A block of a report. Sections start with a marker and are closed by a run of `=`. -/
inductive Block where
  /-- Lines outside every section. -/
  | free (lines : List Text) (markers : ∀ line ∈ lines, (Line.classify line).isMarker = false)
  /-- A section of macro definitions. -/
  | macros (start : Text) (body : List Text) (close : Text)
    (start_class : Line.classify start = .sectionStart Line.macroLabel)
    (markers : ∀ line ∈ body, (Line.classify line).isMarker = false)
    (close_class : Line.classify close = .sectionEnd)
  /-- A debug section. -/
  | debug (start : Text) (parts : List DebugPart) (close : Text)
    (start_class : Line.classify start = .sectionStart Line.debugLabel)
    (close_class : Line.classify close = .sectionEnd)
  /-- A section with any other label. -/
  | other (start : Text) (label : Text) (body : List Text) (close : Text)
    (start_class : Line.classify start = .sectionStart label)
    (not_macros : label ≠ Line.macroLabel) (not_debug : label ≠ Line.debugLabel)
    (markers : ∀ line ∈ body, (Line.classify line).isMarker = false)
    (close_class : Line.classify close = .sectionEnd)

/-- The lines of a table, from its header to the rule that closes it. -/
def DebugTable.lines (t : DebugTable) : List Text :=
  t.header :: t.underline :: t.rows ++ [t.closing]

def DebugPart.lines : DebugPart → List Text
  | stray line _ _ => [line]
  | table t => t.lines

def Block.lines : Block → List Text
  | free lines _ => lines
  | macros start body close _ _ _ => start :: body ++ [close]
  | debug start parts close _ _ => start :: parts.flatMap DebugPart.lines ++ [close]
  | other start _ body close _ _ _ _ _ => start :: body ++ [close]

/-- A well-formed report: a sequence of blocks whose lines hold no line feed and do not end in a
carriage return. -/
structure Document where
  blocks : List Block
  no_feed : ∀ line ∈ blocks.flatMap Block.lines, '\n' ∉ line
  no_return : ∀ line ∈ blocks.flatMap Block.lines, line.getLast? ≠ some '\r'

/-- The lines of a document. -/
def Document.lines (doc : Document) : List Text :=
  doc.blocks.flatMap Block.lines

/-- An empty line, as a block of its own. -/
def Block.emptyLine : Block :=
  .free [[]] (by decide)

lemma Block.mem_lines_append_emptyLine {blocks : List Block} {line : Text} :
    line ∈ (blocks ++ [emptyLine]).flatMap Block.lines ↔
      line ∈ blocks.flatMap Block.lines ∨ line = [] := by
  rw [List.flatMap_append, List.mem_append]
  simp [emptyLine, Block.lines]

/-- A document with an empty line after it, which is how a text that ends its last line reads. -/
def Document.withEmptyLine (doc : Document) : Document where
  blocks := doc.blocks ++ [Block.emptyLine]
  no_feed := by
    intro line hline
    rcases Block.mem_lines_append_emptyLine.1 hline with hline | rfl
    · exact doc.no_feed line hline
    · simp
  no_return := by
    intro line hline
    rcases Block.mem_lines_append_emptyLine.1 hline with hline | rfl
    · exact doc.no_return line hline
    · simp

/-! ## What a document says -/

/-- What lines say: the macro definitions, the rows of each kind of table, and all the lines that
are looked at, which is all but those under a table header. -/
structure Contents where
  macros : List Text := []
  rows : TableKind → List Text := fun _ => []
  read : List Text := []

/-- A table says its rows; the line under its header is not looked at. -/
def DebugTable.contents (t : DebugTable) : Contents where
  rows := fun kind => if kind = t.kind then t.rows else []
  read := t.header :: t.rows ++ [t.closing]

def DebugPart.contents : DebugPart → Contents
  | stray line _ _ => { read := [line] }
  | table t => t.contents

/-- A macro section says its body, and a debug section the rows of its tables. -/
def Block.contents : Block → Contents
  | free lines _ => { read := lines }
  | macros start body close _ _ _ => { macros := body, read := start :: body ++ [close] }
  | debug start parts close _ _ =>
    { rows := fun kind => parts.flatMap fun part => part.contents.rows kind
      read := start :: (parts.flatMap fun part => part.contents.read) ++ [close] }
  | other start _ body close _ _ _ _ _ => { read := start :: body ++ [close] }

/-- The report of a document: the bodies of its macro sections, the rows of its tables of each
kind, and its prompts, the lines under table headers left out. -/
def Document.report (doc : Document) : Report where
  macros := doc.blocks.flatMap fun block => block.contents.macros
  inputs := doc.blocks.flatMap fun block => block.contents.rows .inputs
  tokens := doc.blocks.flatMap fun block => block.contents.rows .tokens
  vars := doc.blocks.flatMap fun block => block.contents.rows .vars
  functions := doc.blocks.flatMap fun block => block.contents.rows .functions
  prompts := (doc.blocks.flatMap fun block => block.contents.read).filter fun line =>
    (Line.prompt? line).isSome

namespace Contents

/-- What two runs of lines say one after the other. -/
def append (c c' : Contents) : Contents where
  macros := c.macros ++ c'.macros
  rows := fun kind => c.rows kind ++ c'.rows kind
  read := c.read ++ c'.read

/-- What many runs of lines say one after the other. -/
def concat {α : Type} (xs : List α) (f : α → Contents) : Contents where
  macros := xs.flatMap fun x => (f x).macros
  rows := fun kind => xs.flatMap fun x => (f x).rows kind
  read := xs.flatMap fun x => (f x).read

lemma concat_cons {α : Type} (x : α) (xs : List α) (f : α → Contents) :
    concat (x :: xs) f = (f x).append (concat xs f) := rfl

end Contents

/-! ## Runs of lines -/

namespace Reader

/-- A run of lines leads from `r` to `r'` and files what `c` says. -/
structure Yields (r : Reader) (lines : List Text) (r' : Reader) (c : Contents) : Prop where
  ends : r.after lines = r'
  macros : Report.linesIn (r.file lines) .macros = c.macros
  rows : ∀ kind : TableKind, Report.linesIn (r.file lines) kind.bucket = c.rows kind
  prompts : Report.linesIn (r.file lines) .prompts
    = c.read.filter fun line => (Line.prompt? line).isSome

lemma yields_nil (r : Reader) : Yields r [] r {} where
  ends := rfl
  macros := rfl
  rows := fun _ => rfl
  prompts := rfl

/-- Runs follow one another. -/
lemma Yields.append {r r₁ r₂ : Reader} {a b : List Text} {c c' : Contents}
    (h : Yields r a r₁ c) (h' : Yields r₁ b r₂ c') : Yields r (a ++ b) r₂ (c.append c') where
  ends := by rw [after_append, h.ends, h'.ends]
  macros := by
    rw [file_append, Report.linesIn_append, h.ends, h.macros, h'.macros]
    rfl
  rows := fun kind => by
    rw [file_append, Report.linesIn_append, h.ends, h.rows, h'.rows]
    rfl
  prompts := by
    rw [file_append, Report.linesIn_append, h.ends, h.prompts, h'.prompts, ← List.filter_append]
    rfl

/-- Runs that lead back to where they started can be repeated. -/
lemma Yields.concat {α : Type} {r : Reader} {xs : List α} {lines : α → List Text}
    {contents : α → Contents} (h : ∀ x ∈ xs, Yields r (lines x) r (contents x)) :
    Yields r (xs.flatMap lines) r (Contents.concat xs contents) := by
  induction xs with
  | nil => exact yields_nil r
  | cons x xs ih =>
    have hfirst := h x (by simp)
    have hrest := ih fun y hy => h y (List.mem_cons_of_mem _ hy)
    rw [List.flatMap_cons, Contents.concat_cons]
    exact hfirst.append hrest

/-- A line that is passed over says nothing. -/
lemma yields_skipped (s : Section) (line : Text) : Yields ⟨s, true⟩ [line] ⟨s, false⟩ {} where
  ends := rfl
  macros := rfl
  rows := fun _ => rfl
  prompts := rfl

/-- A line that is read says what the transition table does with it. -/
lemma yields_of_step {s s' : Section} {action : Action} {line : Text}
    (h : s.step (Line.classify line) = ⟨s', action⟩) :
    Yields ⟨s, false⟩ [line] ⟨s', action = .skipNext⟩
      { macros := if action = .store .macros then [line] else []
        rows := fun kind => if action = .store kind.bucket then [line] else []
        read := [line] } where
  ends := by simp [next, step, h]
  macros := by simp [linesIn_filings, Files, h]
  rows := fun kind => by simp [linesIn_filings, Files, h, kind.bucket_ne_prompts]
  prompts := by simp [linesIn_filings, Files, List.filter_singleton]

/-- A line that is dropped says at most that it is a prompt. -/
lemma yields_of_discard {s s' : Section} {line : Text}
    (h : s.step (Line.classify line) = ⟨s', .discard⟩) :
    Yields ⟨s, false⟩ [line] ⟨s', false⟩ { read := [line] } := by
  have hline := yields_of_step h
  simpa using hline

/-- Lines that all meet the same fate and leave the reader where it is. -/
lemma yields_of_steady (s : Section) (action : Action) (ha : action ≠ .skipNext)
    {lines : List Text} (h : ∀ line ∈ lines, s.step (Line.classify line) = ⟨s, action⟩) :
    Yields ⟨s, false⟩ lines ⟨s, false⟩
      { macros := if action = .store .macros then lines else []
        rows := fun kind => if action = .store kind.bucket then lines else []
        read := lines } := by
  have hline : ∀ line ∈ lines, Yields ⟨s, false⟩ [line] ⟨s, false⟩
      { macros := if action = .store .macros then [line] else []
        rows := fun kind => if action = .store kind.bucket then [line] else []
        read := [line] } := by
    intro line hmem
    have hone := yields_of_step (h line hmem)
    rwa [decide_eq_false ha] at hone
  have hlines := Yields.concat hline
  rw [List.flatMap_singleton'] at hlines
  -- the contents of the single lines add up to those of all lines
  convert hlines using 1
  simp only [Contents.concat, List.flatMap_singleton', Contents.mk.injEq, and_true]
  constructor
  · split <;> simp
  · funext kind
    split <;> simp

/-! ## Tables, parts and blocks -/

/-- A table is read from one place between tables to the next. -/
lemma yields_table (t : DebugTable) :
    Yields ⟨.debug, false⟩ t.lines ⟨.debug, false⟩ t.contents := by
  have hheader : Yields ⟨.debug, false⟩ [t.header] ⟨.table t.kind, true⟩
      { read := [t.header] } := by
    have hstep : Section.debug.step (Line.classify t.header) = ⟨.table t.kind, .skipNext⟩ := by
      rw [t.header_class]
      rfl
    simpa using yields_of_step hstep
  have hrows := yields_of_steady (.table t.kind) (.store t.kind.bucket) (by simp)
    fun row hrow => Section.step_table t.kind (t.rows_class row hrow).1 (t.rows_class row hrow).2
  have hclosing : Yields ⟨.table t.kind, false⟩ [t.closing] ⟨.debug, false⟩
      { read := [t.closing] } := by
    refine yields_of_discard ?_
    rw [t.closing_class]
    rfl
  -- the line under the header is passed over, whatever it is
  have hall := ((hheader.append (yields_skipped _ t.underline)).append hrows).append hclosing
  have hkind : ∀ kind : TableKind, t.kind.bucket = kind.bucket ↔ kind = t.kind := fun kind =>
    ⟨fun h => (TableKind.bucket_injective h).symm, fun h => h ▸ rfl⟩
  simpa [Contents.append, DebugTable.lines, DebugTable.contents, t.kind.bucket_ne_macros, hkind]
    using hall

lemma yields_part (part : DebugPart) :
    Yields ⟨.debug, false⟩ part.lines ⟨.debug, false⟩ part.contents := by
  cases part with
  | stray line marker header => exact yields_of_discard (Section.step_debug marker header)
  | table t => exact yields_table t

/-- The marker of a section is read anywhere. -/
lemma yields_start {s : Section} {start label : Text}
    (h : Line.classify start = .sectionStart label) :
    Yields ⟨s, false⟩ [start] ⟨.ofLabel label, false⟩ { read := [start] } := by
  refine yields_of_discard ?_
  rw [h]
  cases s <;> rfl

/-- A run of `=` closes every section. -/
lemma yields_close {s : Section} {close : Text} (h : Line.classify close = .sectionEnd) :
    Yields ⟨s, false⟩ [close] {} { read := [close] } := by
  refine yields_of_discard ?_
  rw [h]
  cases s <;> rfl

/-- A block is read from outside the sections back to there. -/
lemma yields_block (block : Block) : Yields {} block.lines {} block.contents := by
  cases block with
  | free lines markers =>
    have hlines := yields_of_steady .none .discard (by simp)
      fun line hline => Section.step_none (markers line hline)
    simpa [Block.lines, Block.contents] using hlines
  | macros start body close start_class markers close_class =>
    have hstart := yields_start (s := .none) start_class
    have hbody := yields_of_steady .macros (.store .macros) (by simp)
      fun line hline => Section.step_macros (markers line hline)
    have hall := (hstart.append hbody).append (yields_close close_class)
    have hrows : ∀ kind : TableKind, Bucket.macros ≠ kind.bucket := fun kind h =>
      kind.bucket_ne_macros h.symm
    simpa [Contents.append, Block.lines, Block.contents, hrows] using hall
  | debug start parts close start_class close_class =>
    have hstart := yields_start (s := .none) start_class
    have hparts := Yields.concat fun part (_ : part ∈ parts) => yields_part part
    have hall := (hstart.append hparts).append (yields_close close_class)
    -- nothing in a debug section is a macro definition
    have hmacros : (parts.flatMap fun part => part.contents.macros) = [] := by
      rw [List.flatMap_eq_nil_iff]
      rintro (_ | t) _ <;> rfl
    simpa [Contents.append, Contents.concat, Block.lines, Block.contents, hmacros] using hall
  | other start label body close start_class not_macros not_debug markers close_class =>
    have hstart := yields_start (s := .none) start_class
    have hnone : Section.ofLabel label = .none := by
      unfold Section.ofLabel
      rw [if_neg not_macros, if_neg not_debug]
    rw [hnone] at hstart
    have hbody := yields_of_steady .none .discard (by simp)
      fun line hline => Section.step_none (markers line hline)
    have hall := (hstart.append hbody).append (yields_close close_class)
    simpa [Contents.append, Block.lines, Block.contents] using hall

end Reader

namespace Report

/-- Reading the lines of a document gives its report. -/
lemma ofLines_document (doc : Document) : ofLines doc.lines = doc.report := by
  have hall : Reader.Yields {} doc.lines {} (Contents.concat doc.blocks Block.contents) :=
    Reader.Yields.concat fun block _ => Reader.yields_block block
  refine ext_get fun bucket => ?_
  rw [get_ofLines]
  cases bucket with
  | macros => exact hall.macros
  | inputs => exact hall.rows .inputs
  | tokens => exact hall.rows .tokens
  | vars => exact hall.rows .vars
  | functions => exact hall.rows .functions
  | prompts => exact hall.prompts

/-- An empty line after a document adds nothing to its report. -/
lemma ofLines_document_append_empty (doc : Document) :
    ofLines (doc.lines ++ [[]]) = doc.report := by
  have hlines : doc.withEmptyLine.lines = doc.lines ++ [[]] := by
    simp [Document.lines, Document.withEmptyLine, Block.emptyLine, Block.lines]
  have hreport : doc.withEmptyLine.report = doc.report := by
    have hprompt : (Line.prompt? []).isSome = false := by decide
    simp [Document.report, Document.withEmptyLine, Block.emptyLine, Block.contents, hprompt]
  rw [← hlines, ofLines_document, hreport]

/-- **Reading recovers every well-formed report**, whether its lines are joined by line feeds, by
carriage returns and line feeds, or some by one and some by the other, and also if the last line
is ended like the others. -/
theorem ofText_document (doc : Document) :
    ofText (Text.joinLines doc.lines) = doc.report ∧
    ofText (List.intercalate ['\r', '\n'] doc.lines) = doc.report ∧
    (∀ ends, ofText (Text.joinEnds ends doc.lines) = doc.report) ∧
    ∀ ending : LineEnd, ofText (doc.lines.flatMap (· ++ ending.text)) = doc.report := by
  have hends : ∀ ends, ofText (Text.joinEnds ends doc.lines) = doc.report := by
    intro ends
    unfold ofText
    by_cases hne : doc.lines = []
    · -- the empty text still has one line
      have hempty := ofLines_document_append_empty doc
      rw [hne] at hempty ⊢
      exact hempty
    · rw [Text.lines_joinEnds hne doc.no_feed fun line hline =>
        doc.no_return line (List.dropLast_subset _ hline)]
      exact ofLines_document doc
  refine ⟨?_, ?_, hends, fun ending => ?_⟩
  · have hfeed := hends fun _ => .feed
    rwa [Text.joinEnds_const] at hfeed
  · have hreturn := hends fun _ => .returnFeed
    rwa [Text.joinEnds_const] at hreturn
  · have hlines : Text.lines (doc.lines.flatMap (· ++ ending.text)) = doc.lines ++ [[]] :=
      Text.lines_flatMap_ending doc.no_feed doc.no_return ending
    unfold ofText
    rw [hlines]
    exact ofLines_document_append_empty doc

-- a table whose row looks like a header, with a prompt under the header that is not looked at
example : ∃ doc : Document,
    doc.lines = ["=D E B U G=".toList, "NO. VARIABLE |VALUE".toList, "# u".toList,
      "NO. X |Y".toList, "-".toList, "=".toList] ∧
    doc.report = { vars := ["NO. X |Y".toList] } :=
  ⟨{ blocks := [.debug "=D E B U G=".toList
        [.table
          { kind := .vars
            header := "NO. VARIABLE |VALUE".toList
            underline := "# u".toList
            rows := ["NO. X |Y".toList]
            closing := "-".toList
            header_class := by decide
            rows_class := by decide
            closing_class := by decide }]
        "=".toList (by decide) (by decide)]
     no_feed := by decide
     no_return := by decide }, by decide, by decide⟩

end Report

end SolverInput
