import SolverInput.Proofs.Report.Composition
import SolverInput.Proofs.Report.Echo
import SolverInput.Proofs.Report.Extract
import SolverInput.Proofs.Report.Extraction
import SolverInput.Proofs.Report.Row
import SolverInput.Proofs.Text.Lines
import Mathlib.Data.List.Infix

/-!
# Lines of an extracted file

An extraction is written with one item a line. The file has as many lines as there are items, and
these lines are the items exactly if no item but the last ends in a carriage return:

* what is captured of a line is the end of that line (`ExtractKind.suffix_of_read`), so no item
  holds a line feed, and an item ends in a carriage return only if its line does;
* only the last line of a document can end in a carriage return, unless a second one stands before
  a line ending (`Text.not_return_of_mem_dropLast_lines`);
* the last line of a document gives the last item at most (`Report.mem_of_mem_dropLast_items`).
-/

namespace SolverInput

/-! ## Captured texts -/

namespace Line

lemma suffix_of_echoed? {line text : Text} (hfeed : '\n' ∉ line) (h : echoed? line = some text) :
    text <:+ line := by
  unfold echoed? at h
  split at h
  · rename_i rest
    split at h
    · rename_i tag hblanks
      obtain ⟨whole, htag, htext⟩ := Option.map_eq_some_iff.1 h
      have hskip : '[' :: tag <:+ rest := by
        rw [← hblanks]
        exact List.dropWhile_suffix Text.isBlank
      have hline : tag <:+ '>' :: rest :=
        ((List.suffix_cons '[' tag).trans hskip).trans (List.suffix_cons '>' rest)
      rw [afterTag?_eq fun hmem => hfeed (hline.mem hmem)] at htag
      have hwhole : whole <:+ '>' :: rest := (Text.suffix_of_afterLastTagEnd? htag).1.trans hline
      -- the line holds no line feed, so nothing is cut off behind the text
      have hall : whole.takeWhile (· != '\n') = whole := by
        rw [List.takeWhile_eq_self_iff]
        intro c hc
        have hne : c ≠ '\n' := fun heq => hfeed (heq ▸ hwhole.mem hc)
        simpa using hne
      rw [← htext, hall]
      exact hwhole
    · cases h
  · cases h

lemma suffix_of_comment? {line text : Text} (h : comment? line = some text) : text <:+ line := by
  unfold comment? at h
  split at h
  · rename_i rest hblanks
    split_ifs at h
    cases h
    rw [← hblanks]
    exact List.dropWhile_suffix Text.isBlank
  · cases h

/-- The text of a prompt is the end of its line. -/
lemma suffix_of_prompt? {line : Text} {prompt : Prompt} (hfeed : '\n' ∉ line)
    (h : prompt? line = some prompt) : prompt.text <:+ line := by
  unfold prompt? at h
  split at h
  · rename_i text hechoed
    cases h
    exact suffix_of_echoed? hfeed hechoed
  · obtain ⟨text, hcomment, rfl⟩ := Option.map_eq_some_iff.1 h
    exact suffix_of_comment? hcomment

end Line

namespace ExtractKind

/-- The bucket that is extracted. -/
def bucket : ExtractKind → Bucket
  | raw => .inputs
  | full => .prompts

/-- What is captured of a line. -/
def read : ExtractKind → Text → Option Text
  | raw => Line.rowContent?
  | full => fun line => (Line.prompt? line).map Prompt.text

/-- What is captured of a line is the end of that line. -/
lemma suffix_of_read {kind : ExtractKind} {line item : Text} (hfeed : '\n' ∉ line)
    (h : kind.read line = some item) : item <:+ line := by
  cases kind with
  | raw => exact Line.suffix_of_rowContent? h
  | full =>
    obtain ⟨prompt, hprompt, rfl⟩ := Option.map_eq_some_iff.1 h
    exact Line.suffix_of_prompt? hfeed hprompt

/-- The items that the lines of a bucket give. -/
def items (kind : ExtractKind) (rows : List Text) : List Text :=
  (rows.filterMap kind.read).filter Report.isContent

lemma items_append (kind : ExtractKind) (xs ys : List Text) :
    kind.items (xs ++ ys) = kind.items xs ++ kind.items ys := by
  unfold items
  rw [List.filterMap_append, List.filter_append]

/-- An item is the end of one of the lines, and it is not empty. -/
lemma exists_suffix_of_mem_items {kind : ExtractKind} {rows : List Text} {item : Text}
    (hfeed : ∀ line ∈ rows, '\n' ∉ line) (h : item ∈ kind.items rows) :
    ∃ line ∈ rows, item <:+ line ∧ item ≠ [] := by
  obtain ⟨hmem, hcontent⟩ := List.mem_filter.1 h
  obtain ⟨line, hline, hread⟩ := List.mem_filterMap.1 hmem
  have hne : item ≠ [] := by
    rintro rfl
    exact absurd hcontent (by decide)
  exact ⟨line, hline, suffix_of_read (hfeed line hline) hread, hne⟩

end ExtractKind

namespace Report

lemma items_extract (report : Report) (kind : ExtractKind) :
    (report.extract kind).items = kind.items (report.get kind.bucket) := by
  cases kind with
  | raw => exact Extraction.items_ofRowsFrom _ _ _ _ _
  | full => exact Extraction.items_ofRowsFrom _ _ _ _ _

/-! ## The last line -/

/-- A bucket holds lines of the document, in their order. -/
lemma linesIn_file_sublist (r : Reader) (lines : List Text) (bucket : Bucket) :
    List.Sublist (linesIn (r.file lines) bucket) lines := by
  induction lines generalizing r with
  | nil => exact List.Sublist.refl _
  | cons line rest ih =>
    rw [Reader.file_cons, linesIn_append, Reader.linesIn_filings]
    split
    · exact (ih (r.next line)).cons_cons line
    · exact (ih (r.next line)).cons line

lemma mem_of_mem_get {lines : List Text} {bucket : Bucket} {line : Text}
    (h : line ∈ (ofLines lines).get bucket) : line ∈ lines := by
  rw [get_ofLines] at h
  exact (linesIn_file_sublist {} lines bucket).mem h

/-- One line gives one item at most. -/
lemma length_items_file_singleton (r : Reader) (line : Text) (kind : ExtractKind) :
    (kind.items (linesIn (r.file [line]) kind.bucket)).length ≤ 1 := by
  have hrows : (linesIn (r.file [line]) kind.bucket).length ≤ 1 :=
    (linesIn_file_sublist r [line] kind.bucket).length_le
  unfold ExtractKind.items
  calc _ ≤ ((linesIn (r.file [line]) kind.bucket).filterMap kind.read).length :=
        List.length_filter_le _ _
    _ ≤ (linesIn (r.file [line]) kind.bucket).length := List.length_filterMap_le _ _
    _ ≤ 1 := hrows

/-- The last line of a document gives the last item at most, so all items before it come from the
other lines. -/
lemma mem_of_mem_dropLast_items {init : List Text} {last item : Text} {kind : ExtractKind}
    (h : item ∈ ((ofLines (init ++ [last])).extract kind).items.dropLast) :
    item ∈ kind.items ((ofLines init).get kind.bucket) := by
  rw [items_extract, get_ofLines_append, ExtractKind.items_append] at h
  have hone := length_items_file_singleton (Reader.after {} init) last kind
  generalize kind.items (linesIn ((Reader.after {} init).file [last]) kind.bucket) = ends at h hone
  match ends with
  | [] =>
    rw [List.append_nil] at h
    exact List.dropLast_subset _ h
  | [_] =>
    rw [List.dropLast_concat] at h
    exact h
  | _ :: _ :: _ => simp at hone

end Report

namespace Text

/-- A line that is cut off ends in a carriage return only if two of them stand before the line
feed. -/
lemma infix_of_dropReturn {p : Text} (h : (dropReturn p).getLast? = some '\r') (t : Text) :
    ['\r', '\r', '\n'] <:+: p ++ '\n' :: t := by
  unfold dropReturn at h
  split at h
  · rename_i hlast
    obtain ⟨init, rfl⟩ := List.getLast?_eq_some_iff.1 hlast
    rw [List.dropLast_concat] at h
    obtain ⟨init', rfl⟩ := List.getLast?_eq_some_iff.1 h
    exact ⟨init', t, by simp⟩
  · rename_i hlast
    exact absurd h hlast

/-- Unless two carriage returns stand before a line feed, only the last line can end in one. -/
lemma not_return_of_mem_dropLast_lines {t line : Text} (h : ¬ ['\r', '\r', '\n'] <:+: t)
    (hline : line ∈ (lines t).dropLast) : line.getLast? ≠ some '\r' := by
  induction t using byPieces '\n' with
  | last t ht => simp [lines_of_not_mem ht] at hline
  | piece p t hp ih =>
    rw [lines_append_cons hp, List.dropLast_cons_of_ne_nil (lines_ne_nil t), List.mem_cons] at hline
    rcases hline with rfl | hline
    · intro hreturn
      exact h (infix_of_dropReturn hreturn t)
    · refine ih (fun hinfix => h ?_) hline
      have hsuffix : t <:+ p ++ '\n' :: t := ⟨p ++ ['\n'], by simp⟩
      exact hinfix.trans hsuffix.isInfix

end Text

namespace Report

/-- No item of a report holds a line feed. -/
lemma not_mem_of_mem_items {text item : Text} {kind : ExtractKind}
    (h : item ∈ ((ofText text).extract kind).items) : '\n' ∉ item := by
  rw [items_extract] at h
  have hfeed : ∀ line ∈ (ofText text).get kind.bucket, '\n' ∉ line := fun line hline =>
    Text.not_mem_of_mem_lines (mem_of_mem_get hline)
  obtain ⟨line, hline, hsuffix, -⟩ := ExtractKind.exists_suffix_of_mem_items hfeed h
  exact fun hmem => hfeed line hline (hsuffix.mem hmem)

/-- Unless two carriage returns stand before a line feed of the report, only the last item can end
in one. -/
lemma not_return_of_mem_dropLast_items {text item : Text} {kind : ExtractKind}
    (htext : ¬ ['\r', '\r', '\n'] <:+: text)
    (h : item ∈ ((ofText text).extract kind).items.dropLast) : item.getLast? ≠ some '\r' := by
  -- the item comes from a line before the last one, and ends as that line does
  have hlines := List.dropLast_concat_getLast (Text.lines_ne_nil text)
  unfold ofText at h
  rw [← hlines] at h
  have hitem := mem_of_mem_dropLast_items h
  have hmem : ∀ line ∈ (ofLines (Text.lines text).dropLast).get kind.bucket,
      line ∈ (Text.lines text).dropLast := fun line => mem_of_mem_get
  have hfeed : ∀ line ∈ (ofLines (Text.lines text).dropLast).get kind.bucket, '\n' ∉ line :=
    fun line hline => Text.not_mem_of_mem_lines (List.dropLast_subset _ (hmem line hline))
  obtain ⟨line, hline, ⟨before, rfl⟩, hne⟩ := ExtractKind.exists_suffix_of_mem_items hfeed hitem
  have hreturn := Text.not_return_of_mem_dropLast_lines htext (hmem _ hline)
  rwa [List.getLast?_append_of_ne_nil _ hne] at hreturn

/-- **An extracted file has one line for each item.** The lines of the file are the items exactly if
there is an item and none but the last ends in a carriage return, which is so for every report in
which no line feed has two carriage returns before it. In any case a finished request on the report
leaves a file with as many lines as it reports, if there is an item at all. -/
theorem lines_render_extract (text : Text) (kind : ExtractKind) :
    let e := (ofText text).extract kind
    (Text.lines e.render = e.items ↔
      e.items ≠ [] ∧ ∀ item ∈ e.items.dropLast, item.getLast? ≠ some '\r') ∧
    (∀ (request : ExtractRequest) (extension : String) (files : FileTree)
        (outcome : ExtractOutcome) (written : FileTree), request.kind = kind → e.items ≠ [] →
      files.loadReport request.input = .ok text →
      request.run extension files = .ok outcome written →
      written.readText outcome.output = .ok e.render ∧
        (Text.lines e.render).length = outcome.lines) ∧
    (¬ ['\r', '\r', '\n'] <:+: text → ∀ item ∈ e.items.dropLast, item.getLast? ≠ some '\r') := by
  intro e
  have hfeed : ∀ item ∈ e.items, '\n' ∉ item := fun item => not_mem_of_mem_items
  refine ⟨Text.lines_joinLines_eq_iff hfeed, ?_, fun htext item => ?_⟩
  · rintro request extension files outcome written rfl hne hload hrun
    obtain ⟨rfl, hread⟩ := ExtractRequest.readText_of_run hload hrun
    exact ⟨hread, Text.length_lines_joinLines hne hfeed⟩
  · exact not_return_of_mem_dropLast_items htext

/-- A carriage return at the end of a report stays at the end of the last item. -/
theorem lines_render_extract_return_at_end :
    let text : Text := "> [x] a\r\n# b\r".toList
    let e := (ofText text).extract .full
    let request : ExtractRequest := ⟨.full, ⟨"in"⟩, some ⟨"out"⟩⟩
    let files := FileTree.put {} ["work".toList, "in".toList] (.file (Text.toBytes text))
    let written := files.put ["work".toList, "out".toList] (.file (Text.toBytes e.render))
    ¬ ['\r', '\r', '\n'] <:+: text ∧ e.items = ["a".toList, "# b\r".toList] ∧
      Text.lines e.render = e.items ∧
      ∃ outcome, request.run "mindes" files = .ok outcome written ∧
        written.readText outcome.output = .ok e.render ∧
        (Text.lines e.render).length = outcome.lines := by
  intro text e request files written
  have htext : ¬ ['\r', '\r', '\n'] <:+: text := by decide
  have hitems : e.items = ["a".toList, "# b\r".toList] := by decide +kernel
  have hne : e.items ≠ [] := by simp [hitems]
  have hload : files.loadReport request.input = .ok text := by
    have hwrite : FileTree.write {} ⟨"in"⟩ (Text.toBytes text) = .ok files := rfl
    exact FileTree.loadReport_write hwrite
  have hdone : request.run "mindes" files = .ok (request.outcome "mindes" text) written := by
    have htarget : files.target ⟨"out"⟩ = .ok ["work".toList, "out".toList] := by decide +kernel
    have hwrite : files.write (request.outputPath "mindes")
        (Text.toBytes (request.extraction text).render) = .ok written :=
      Except.bind_eq_ok_iff.2 ⟨_, htarget, rfl⟩
    rw [ExtractRequest.run_of_loadReport hload, hwrite]
  obtain ⟨hlines, hrun, hreturn⟩ := lines_render_extract text .full
  exact ⟨htext, hitems, hlines.2 ⟨hne, hreturn htext⟩, _, hdone,
    hrun request "mindes" files _ _ rfl hne hload hdone⟩

end Report

end SolverInput
