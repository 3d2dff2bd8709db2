import LabelPress.Proofs.Occurrences
import LabelPress.Proofs.RowData

/-!
# Batches with values for the tag

`injectBlock` looks for the start of the label in a document that is filled already, so values from
the row stand in the text it searches. This file shows that they do not matter: the document of a
template begins with the start of the label, and filling keeps that where it is.

* `substitute_append_of_not_mem`: text without an opening brace stays in front of the filled rest.
* `injectBlock_start`: lines go behind a start of label that stands in front of everything.
* `tagLine?_eq_some_iff`: which line a row has for a bank (`WritesLine`).
* `addsTagLines_compile`: **a batch with values for the tag is the plain batch with the lines of
  each row behind the start of its label**, whatever the rows hold.
-/

namespace LabelPress

open LabelPress.Number LabelPress.Text LabelPress.Zpl LabelPress.Piece

/-! ## The start of a filled document -/

/-- No placeholder begins in a text without an opening brace, whatever follows it. -/
theorem pieces_append_of_not_mem {s : List Char} (h : '{' ∉ s) (t : List Char) :
    pieces (s ++ t) = s.map char ++ pieces t := by
  induction s with
  | nil => rfl
  | cons c s ih =>
    rw [List.mem_cons, not_or] at h
    rw [List.cons_append, pieces_char (hole?_eq_none_of_ne (Ne.symm h.1) _), ih h.2]
    rfl

theorem substitute_append_of_not_mem {head : String} (h : '{' ∉ head.toList) (rest : String)
    (values : Variables) : substitute (head ++ rest) values = head ++ substitute rest values := by
  have hhead : (head.toList.map char).flatMap (Piece.fill values) = head.toList := by
    rw [List.flatMap_map]
    exact List.flatMap_singleton' _
  rw [← String.toList_inj, toList_substitute, String.toList_append, String.toList_append,
    pieces_append_of_not_mem h, List.flatMap_append, hhead, toList_substitute]

theorem fillRow_start (rest : String) (map : ColumnMap) (row : Row) :
    fillRow ("^XA" ++ rest) map row = "^XA" ++ substitute rest (rowVariables row map) :=
  substitute_append_of_not_mem (by decide) rest _

theorem placeOf?_startFormat (tail : List Char) :
    placeOf? startFormat 0 (startFormat ++ tail) = some 0 := by
  have hfound : dropText? startFormat (startFormat ++ tail) = some tail :=
    dropText?_eq_some_iff.2 rfl
  rw [startFormat, List.cons_append, placeOf?, ← List.cons_append, ← startFormat, hfound]
  rfl

theorem injectBlock_start {block : String} (h : block ≠ "") (tail : String) :
    injectBlock ("^XA" ++ tail) block = "^XA\n" ++ block ++ "\n" ++ tail := by
  have hstart : ("^XA" ++ tail).toList = startFormat ++ tail.toList := String.toList_append
  rw [injectBlock, if_neg h, hstart, placeOf?_startFormat]
  dsimp only
  rw [Nat.zero_add, List.take_left, List.drop_left, String.ofList_toList]
  rfl

theorem compile_eq_start (t : Template) (options : CompileOptions) :
    ∃ rest, t.compile options = "^XA" ++ rest := by
  rw [Template.compile, Template.program, compileProgram_eq]
  exact ⟨_, rfl⟩

/-! ## The lines of a row -/

/-- The row has a value for the bank, and the line writes it: the column is there, its cell holds
hexadecimal digits, blanks left out, and the bank can be written. -/
def WritesLine (scheme : RfidScheme) (row : Row) (bank : MemoryBank) (column : Option String)
    (line : String) : Prop :=
  ∃ name cell parameters, column = some name ∧ row[name]? = some cell ∧
    normalizeHex cell.display ≠ "" ∧
    (∀ c ∈ (normalizeHex cell.display).toList, (hexDigit? c).isSome = true) ∧
    (scheme.access bank).write = some parameters ∧
    line = writeTag parameters (normalizeHex cell.display)

/-- The line that a row has for a bank. -/
def tagLine? (scheme : RfidScheme) (row : Row) (bank : MemoryBank) (column : Option String) :
    Option String :=
  (TagColumns.write? row bank column).bind (TagWrite.line? scheme)

theorem TagColumns.write?_eq_some_iff {row : Row} {bank : MemoryBank} {column : Option String}
    {write : TagWrite} :
    write? row bank column = some write ↔
      ∃ name cell, column = some name ∧ row[name]? = some cell ∧
        write = { bank, value := cell.display } := by
  simp only [write?, Option.bind_eq_bind, Option.bind_eq_some_iff, Option.pure_def,
    Option.some.injEq, exists_and_left, eq_comm (a := write)]

theorem tagLine?_eq_some_iff {scheme : RfidScheme} {row : Row} {bank : MemoryBank}
    {column : Option String} {line : String} :
    tagLine? scheme row bank column = some line ↔ WritesLine scheme row bank column line := by
  rw [tagLine?, Option.bind_eq_some_iff]
  constructor
  · rintro ⟨write, hwrite, hline⟩
    obtain ⟨name, cell, hname, hcell, rfl⟩ := TagColumns.write?_eq_some_iff.1 hwrite
    obtain ⟨hne, hhex, parameters, hparameters, rfl⟩ := TagWrite.line?_eq_some_iff.1 hline
    exact ⟨name, cell, parameters, hname, hcell, hne, hhex, hparameters, rfl⟩
  · rintro ⟨name, cell, parameters, hname, hcell, hne, hhex, hparameters, rfl⟩
    exact ⟨_, TagColumns.write?_eq_some_iff.2 ⟨name, cell, hname, hcell, rfl⟩,
      TagWrite.line?_eq_some_iff.2 ⟨hne, hhex, parameters, hparameters, rfl⟩⟩

/-- The lines of a row: that of the product code, then that of the user memory. -/
theorem TagColumns.lines_eq (columns : TagColumns) (scheme : RfidScheme) (row : Row) :
    columns.lines scheme row =
      (tagLine? scheme row .epc columns.epc).toList ++
        (tagLine? scheme row .userData columns.userData).toList := by
  have hone : ∀ write : Option TagWrite,
      write.toList.filterMap (TagWrite.line? scheme) =
        (write.bind (TagWrite.line? scheme)).toList := by
    intro write
    cases write with
    | none => rfl
    | some write => cases hline : write.line? scheme <;> simp [hline]
  rw [lines, writes, List.filterMap_append, hone, hone]
  rfl

theorem TagColumns.ne_empty_of_mem_lines {columns : TagColumns} {scheme : RfidScheme} {row : Row}
    {line : String} (h : line ∈ columns.lines scheme row) : line ≠ "" := by
  obtain ⟨write, -, hwrite⟩ := List.mem_filterMap.1 h
  obtain ⟨-, -, parameters, -, rfl⟩ := TagWrite.line?_eq_some_iff.1 hwrite
  simp [writeTag]

theorem TagColumns.lines_of_isEmpty {columns : TagColumns} (h : columns.isEmpty = true)
    (scheme : RfidScheme) (row : Row) : columns.lines scheme row = [] := by
  rw [isEmpty, Bool.and_eq_true, Option.isNone_iff_eq_none, Option.isNone_iff_eq_none] at h
  rw [lines_eq, h.1, h.2]
  rfl

/-! ## Batches -/

theorem fillRowWithTags_eq (document : String) (map : ColumnMap) (columns : TagColumns)
    (scheme : RfidScheme) (row : Row) :
    fillRowWithTags document map columns scheme row =
      injectBlock (fillRow document map row) (joinLines (columns.lines scheme row)) := rfl

theorem fillRowWithTags_of_lines_eq_nil {columns : TagColumns} {scheme : RfidScheme} {row : Row}
    (h : columns.lines scheme row = []) (document : String) (map : ColumnMap) :
    fillRowWithTags document map columns scheme row = fillRow document map row := by
  rw [fillRowWithTags_eq, h]
  rfl

/-- **Without columns for tags the batch is the plain one**, whatever the document is. -/
theorem batchWithTags_of_isEmpty {columns : TagColumns} (h : columns.isEmpty = true)
    (document : String) (rows : List Row) (map : ColumnMap) (scheme : RfidScheme) :
    batchWithTags document rows map columns scheme = batch document rows map :=
  List.map_congr_left fun row _ =>
    fillRowWithTags_of_lines_eq_nil (columns.lines_of_isEmpty h scheme row) document map

/-- What a row makes of a document that is a start of label and `rest`, without the lines for its
tag and with them. -/
structure RowTagged (rest : String) (map : ColumnMap) (columns : TagColumns) (scheme : RfidScheme)
    (row : Row) (plain tagged : String) : Prop where
  /-- The start of the label stays in front. -/
  plain_eq : plain = "^XA" ++ substitute rest (rowVariables row map)
  /-- A row without lines gets the plain document. -/
  unwritten : columns.lines scheme row = [] → tagged = plain
  /-- Otherwise its lines stand between the start of the label and the rest. -/
  written : columns.lines scheme row ≠ [] → ∀ tail, plain = "^XA" ++ tail →
    tagged = "^XA\n" ++ joinLines (columns.lines scheme row) ++ "\n" ++ tail

theorem rowTagged_start (rest : String) (map : ColumnMap) (columns : TagColumns)
    (scheme : RfidScheme) (row : Row) :
    RowTagged rest map columns scheme row (fillRow ("^XA" ++ rest) map row)
      (fillRowWithTags ("^XA" ++ rest) map columns scheme row) := by
  constructor
  case plain_eq => exact fillRow_start rest map row
  case unwritten => exact fun h => fillRowWithTags_of_lines_eq_nil h _ map
  case written =>
    intro hne tail htail
    -- the start in front is found first, whatever the row has put behind it
    have hblock : joinLines (columns.lines scheme row) ≠ "" :=
      joinLines_ne_empty hne fun line hline => TagColumns.ne_empty_of_mem_lines hline
    rw [fillRowWithTags_eq, htail, injectBlock_start hblock]

/-- A batch with values for the tag is the plain batch with lines for the tags. -/
structure AddsTagLines (document : String) : Prop where
  /-- There is one document for each row, in the order of the rows, and where the lines go does not
  depend on the row. -/
  rows : ∃ rest, document = "^XA" ++ rest ∧
    ∀ (rows : List Row) (map : ColumnMap) (columns : TagColumns) (scheme : RfidScheme) (i : Nat)
      (row : Row), rows[i]? = some row →
      ∃ plain tagged, (batch document rows map)[i]? = some plain ∧
        (batchWithTags document rows map columns scheme)[i]? = some tagged ∧
        RowTagged rest map columns scheme row plain tagged
  length : ∀ rows map columns scheme,
    (batchWithTags document rows map columns scheme).length = rows.length ∧
      (batch document rows map).length = rows.length
  /-- The lines are those of the two banks, made from the row alone. -/
  lines : ∀ (columns : TagColumns) scheme row,
    columns.lines scheme row =
      (tagLine? scheme row .epc columns.epc).toList ++
        (tagLine? scheme row .userData columns.userData).toList
  line : ∀ scheme row bank column line,
    tagLine? scheme row bank column = some line ↔ WritesLine scheme row bank column line
  /-- Without columns nothing is added, to any document. -/
  unconfigured : ∀ document rows map (columns : TagColumns) scheme, columns.isEmpty = true →
    batchWithTags document rows map columns scheme = batch document rows map
  /-- So it does not matter that the plain batch is used without columns. -/
  expand : ∀ document rows map columns scheme,
    expandRows document rows map columns scheme = batchWithTags document rows map columns scheme

/-- **A batch with values for the tag is the plain batch with the lines of each row behind the start
of its label**, for the document of every template. -/
theorem addsTagLines_compile (t : Template) (options : CompileOptions) :
    AddsTagLines (t.compile options) := by
  constructor
  case rows =>
    obtain ⟨rest, hdocument⟩ := compile_eq_start t options
    refine ⟨rest, hdocument, fun rows map columns scheme i row hrow => ?_⟩
    rw [hdocument]
    refine ⟨_, _, ?_, ?_, rowTagged_start rest map columns scheme row⟩
    · rw [batch, List.getElem?_map, hrow, Option.map_some]
    · rw [batchWithTags, List.getElem?_map, hrow, Option.map_some]
  case length => exact fun rows map columns scheme => ⟨List.length_map .., List.length_map ..⟩
  case lines => exact fun columns scheme row => columns.lines_eq scheme row
  case line => exact fun scheme row bank column line => tagLine?_eq_some_iff
  case unconfigured =>
    exact fun document rows map columns scheme h =>
      batchWithTags_of_isEmpty h document rows map scheme
  case expand =>
    intro document rows map columns scheme
    rw [expandRows]
    split
    · rename_i h
      exact (batchWithTags_of_isEmpty h document rows map scheme).symm
    · rfl

end LabelPress
