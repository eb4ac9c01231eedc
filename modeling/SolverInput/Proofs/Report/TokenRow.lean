import SolverInput.Proofs.Report.Row

/-!
# Rows of a token table

A row of a token table as a data type (`TokenRow`): a number, two columns of any text, and three
cells in quotes. One line can be such a row in several ways, since cells and columns may hold text
that looks like the end of a cell. The reader cuts the line apart from its end, each time at the
last gap that is left.

* It never misses a row: if it cuts at a later gap than a row has it, what is left of the line still
  holds the gaps before it (`exists_cellCuts`).
* What it finds is a row with the same line (`exists_tokenRow_of_tokenCells?`).
* A gap ends in a quote, so behind a gap of the row there is no other unless a cell holds a quote
  (`cellCuts_of_no_quote`). What stands in the columns does not matter.
-/

namespace SolverInput

/-! ## Rows -/

/-- Three cells as they are written at the end of a row. -/
def TokenCells.text (cells : TokenCells) : Text :=
  ['|', '{', '"'] ++ cells.first ++ Line.cellGap ++ cells.second ++ Line.cellGap ++ cells.third ++
    ['"', '}']

/-- A row of a token table. The columns before the cells can be any text, also one with bars, and
the cells can be any texts. -/
structure TokenRow where
  number : Text
  padding : Text
  property : Text
  cells : TokenCells
  number_ne : number ≠ []
  number_digits : ∀ c ∈ number, c.isDigit = true

namespace TokenRow

/-- What stands before the cells of a row. -/
def columns (row : TokenRow) : Text :=
  row.number ++ row.padding ++ '|' :: row.property

/-- The line of a row. -/
def line (row : TokenRow) : Text :=
  row.columns ++ row.cells.text

lemma bar_mem_columns (row : TokenRow) : '|' ∈ row.columns := by
  simp [columns]

lemma startsWithDigit_line (row : TokenRow) : Line.startsWithDigit row.line = true := by
  rw [line, columns, List.append_assoc, List.append_assoc]
  exact Line.startsWithDigit_append row.number_ne row.number_digits _

end TokenRow

namespace Line

variable {line columns : Text} {cells : TokenCells}

/-- A numbered line with a bar before its cells is a row with these cells. -/
lemma exists_tokenRow (hdigit : startsWithDigit line = true) (hbar : '|' ∈ columns)
    (hline : line = columns ++ cells.text) : ∃ row : TokenRow, row.line = line ∧ row.cells = cells := by
  cases columns with
  | nil => cases hbar
  | cons digit rest =>
    have hnumber : digit.isDigit = true := by rw [hline] at hdigit; exact hdigit
    have hrest : '|' ∈ rest := by
      rcases List.mem_cons.1 hbar with rfl | hrest
      · exact absurd hnumber (by decide)
      · exact hrest
    obtain ⟨padding, property, rfl⟩ := List.append_of_mem hrest
    refine ⟨⟨[digit], padding, property, cells, by simp, by simpa using hnumber⟩, ?_, rfl⟩
    rw [hline]
    rfl

/-! ## Cutting a line apart -/

/-- The cuts of the reader, from the end of the line to its columns. -/
def CellCuts (line columns : Text) (cells : TokenCells) : Prop :=
  ∃ upToThird upToSecond upToFirst,
    Text.splitAtLast? ['"', '}'] line = some (upToThird, []) ∧
    Text.splitAtLast? cellGap upToThird = some (upToSecond, cells.third) ∧
    Text.splitAtLast? cellGap upToSecond = some (upToFirst, cells.second) ∧
    Text.splitAtLast? ['|', '{', '"'] upToFirst = some (columns, cells.first)

/-- The reader gives what it cuts off, if a bar is left before it. -/
lemma tokenCells?_eq_some_iff :
    tokenCells? line = some cells ↔
      startsWithDigit line = true ∧ '\n' ∉ line ∧
        ∃ columns, CellCuts line columns cells ∧ '|' ∈ columns := by
  unfold tokenCells?
  constructor
  · intro h
    split_ifs at h with hstart
    split at h
    · rename_i upToThird hend
      simp only [bind, Option.bind_eq_some_iff] at h
      obtain ⟨⟨upToSecond, third⟩, hthird, ⟨upToFirst, second⟩, hsecond, ⟨columns, first⟩, hfirst,
        h⟩ := h
      split_ifs at h with hbar
      cases h
      exact ⟨hstart.1, hstart.2, columns,
        ⟨upToThird, upToSecond, upToFirst, hend, hthird, hsecond, hfirst⟩, hbar⟩
    · cases h
  · rintro ⟨hdigit, hfeed, columns, ⟨upToThird, upToSecond, upToFirst, hend, hthird, hsecond,
      hfirst⟩, hbar⟩
    rw [if_pos ⟨hdigit, hfeed⟩, hend]
    simp only [bind, hthird, hsecond, hfirst, Option.bind_some, hbar, if_true]

/-- What is cut apart is the line. -/
lemma CellCuts.eq_append (h : CellCuts line columns cells) : line = columns ++ cells.text := by
  obtain ⟨upToThird, upToSecond, upToFirst, hend, hthird, hsecond, hfirst⟩ := h
  rw [Text.eq_of_splitAtLast? hend, Text.eq_of_splitAtLast? hthird, Text.eq_of_splitAtLast? hsecond,
    Text.eq_of_splitAtLast? hfirst]
  simp [TokenCells.text]

/-- The end of the third cell is cut off. -/
lemma splitAtLast?_append_text (columns : Text) (cells : TokenCells) :
    Text.splitAtLast? ['"', '}'] (columns ++ cells.text)
      = some (columns ++ ['|', '{', '"'] ++ cells.first ++ cellGap ++ cells.second ++ cellGap ++
          cells.third, []) := by
  have hcut := Text.splitAtLast?_append_sep (show ['"', '}'].getLast? = some '}' from rfl)
    (columns ++ ['|', '{', '"'] ++ cells.first ++ cellGap ++ cells.second ++ cellGap ++ cells.third)
    List.not_mem_nil
  simpa [TokenCells.text] using hcut

/-- Wherever three cells stand at the end of a line, it can be cut apart, and the columns that are
left go at least as far. -/
lemma exists_cellCuts (columns : Text) (cells : TokenCells) :
    ∃ columns' cells', CellCuts (columns ++ cells.text) columns' cells' ∧ columns <+: columns' := by
  -- a cut leaves all that stands before a gap of the row, and perhaps more
  obtain ⟨upToSecond, third, hthird, more, rfl⟩ := Text.exists_splitAtLast?
    (columns ++ ['|', '{', '"'] ++ cells.first ++ cellGap ++ cells.second) cellGap cells.third
  obtain ⟨upToFirst, second, hsecond, more', rfl⟩ := Text.exists_splitAtLast?
    (columns ++ ['|', '{', '"'] ++ cells.first) cellGap (cells.second ++ more)
  obtain ⟨columns', first, hfirst, hbegins⟩ := Text.exists_splitAtLast?
    columns ['|', '{', '"'] (cells.first ++ more')
  rw [← List.append_assoc] at hsecond hfirst
  exact ⟨columns', ⟨first, second, third⟩,
    ⟨_, _, _, splitAtLast?_append_text columns cells, hthird, hsecond, hfirst⟩, hbegins⟩

/-- Cells without quotes are cut off as they are. -/
lemma cellCuts_of_no_quote (columns : Text) (hfirst : '"' ∉ cells.first)
    (hsecond : '"' ∉ cells.second) (hthird : '"' ∉ cells.third) :
    CellCuts (columns ++ cells.text) columns cells :=
  ⟨_, _, _, splitAtLast?_append_text columns cells, Text.splitAtLast?_append_sep rfl _ hthird,
    Text.splitAtLast?_append_sep rfl _ hsecond, Text.splitAtLast?_append_sep rfl _ hfirst⟩

/-! ## Reading rows -/

/-- A row is read, though perhaps with other cells. -/
lemma isSome_tokenCells?_line {row : TokenRow} (hfeed : '\n' ∉ row.line) :
    (tokenCells? row.line).isSome = true := by
  obtain ⟨columns, cells, hcuts, hbegins⟩ := exists_cellCuts row.columns row.cells
  rw [Option.isSome_iff_exists]
  exact ⟨cells, tokenCells?_eq_some_iff.2 ⟨row.startsWithDigit_line, hfeed, columns, hcuts,
    hbegins.subset row.bar_mem_columns⟩⟩

lemma exists_tokenRow_of_tokenCells? (h : tokenCells? line = some cells) :
    ∃ row : TokenRow, row.line = line ∧ row.cells = cells := by
  obtain ⟨hdigit, -, columns, hcuts, hbar⟩ := tokenCells?_eq_some_iff.1 h
  exact exists_tokenRow hdigit hbar hcuts.eq_append

/-- A line of a token table has a content, since it has two bars. -/
lemma rowContent?_line_of_tokenRow {row : TokenRow} (hfeed : '\n' ∉ row.line) :
    rowContent? row.line = some (Text.afterLast '|' row.line) := by
  obtain ⟨rest, hrest⟩ : ∃ rest, row.line = row.columns ++ '|' :: rest := ⟨_, rfl⟩
  have hdigit := row.startsWithDigit_line
  rw [hrest] at hdigit hfeed ⊢
  exact rowContent?_of_bars hdigit hfeed row.bar_mem_columns

/-- **Token rows are read by their pattern.** A line gives three cells exactly if it has no line feed
and is a row of a token table, and the cells are those of such a row. A line that gives cells also
has a content, which is what follows its last bar. A row whose cells hold no quotes gives exactly
its cells, whatever its columns hold. -/
theorem tokenCells?_reads_rows :
    (∀ line, (tokenCells? line).isSome = true ↔ '\n' ∉ line ∧ ∃ row : TokenRow, row.line = line) ∧
    (∀ line cells, tokenCells? line = some cells →
      (∃ row : TokenRow, row.line = line ∧ row.cells = cells) ∧
      rowContent? line = some (Text.afterLast '|' line)) ∧
    (∀ row : TokenRow, '\n' ∉ row.line →
      '"' ∉ row.cells.first → '"' ∉ row.cells.second → '"' ∉ row.cells.third →
      tokenCells? row.line = some row.cells) := by
  refine ⟨fun line => ⟨fun h => ?_, ?_⟩, fun line cells h => ?_, ?_⟩
  · obtain ⟨cells, hcells⟩ := Option.isSome_iff_exists.1 h
    obtain ⟨row, hrow, -⟩ := exists_tokenRow_of_tokenCells? hcells
    exact ⟨(tokenCells?_eq_some_iff.1 hcells).2.1, row, hrow⟩
  · rintro ⟨hfeed, row, rfl⟩
    exact isSome_tokenCells?_line hfeed
  · have hfeed := (tokenCells?_eq_some_iff.1 h).2.1
    obtain ⟨row, rfl, hcells⟩ := exists_tokenRow_of_tokenCells? h
    exact ⟨⟨row, rfl, hcells⟩, rowContent?_line_of_tokenRow hfeed⟩
  · intro row hfeed hfirst hsecond hthird
    exact tokenCells?_eq_some_iff.2 ⟨row.startsWithDigit_line, hfeed, row.columns,
      cellCuts_of_no_quote row.columns hfirst hsecond hthird, row.bar_mem_columns⟩

/-- A column that looks like cells, a bar in the first cell, the inside of a gap for the second and
an empty third one. -/
theorem tokenCells?_reads_rows_lookalike :
    ∃ row : TokenRow,
      row.line = "7|\x7b\"x\"\x7d, \x7b\"y|\x7b\"a|\"\x7d, \x7b\"\x7d, \x7b\"\x7d, \x7b\"\"\x7d".toList ∧
      '\n' ∉ row.line ∧ '"' ∉ row.cells.first ∧ '"' ∉ row.cells.second ∧ '"' ∉ row.cells.third ∧
      tokenCells? row.line = some ⟨"a|".toList, "\x7d, \x7b".toList, []⟩ ∧
      rowContent? row.line = some "\"\x7d, \x7b\"\x7d, \x7b\"\x7d, \x7b\"\"\x7d".toList := by
  let row : TokenRow :=
    { number := ['7'], padding := [], property := "\x7b\"x\"\x7d, \x7b\"y".toList
      cells := ⟨"a|".toList, "\x7d, \x7b".toList, []⟩
      number_ne := by decide, number_digits := List.forall_mem_singleton.2 rfl }
  obtain ⟨-, hcontent, hcells⟩ := tokenCells?_reads_rows
  have hread : tokenCells? row.line = some row.cells :=
    hcells row (by decide) (by decide) (by decide) (by decide)
  refine ⟨row, by decide, by decide, by decide, by decide, by decide, hread, ?_⟩
  rw [(hcontent row.line row.cells hread).2]
  decide

end Line

end SolverInput
