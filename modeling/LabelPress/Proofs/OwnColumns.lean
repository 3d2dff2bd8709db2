import LabelPress.Proofs.ColumnMaps
import LabelPress.Proofs.Occurrences
import LabelPress.Proofs.Variables

/-!
# Columns that are named like variables

A batch without a map of its own sends every column that is named like a variable of the template to
that variable (`ownColumns`). The map is made of the columns of all rows. Still a row gets nothing
but its own cells from it: no variable has blanks around its name, and the name of a column is
compared as it is.

* `mem_rowColumns`, `getElem?_autoColumnMap`: the columns of rows, and where the map sends them.
* `supplies_autoColumnMap_iff`: a variable is supplied by the column with its very name alone.
* `getElem?_rowVariables_auto`: **the values of a row are its cells** under the names of variables.
* `feedsOwnCells`: **each row supplies its own cells and nothing else**, whatever the other rows.
-/

namespace LabelPress

open LabelPress.Text

/-! ## The columns of rows -/

theorem mem_foldl_insert {names : List String} {columns : Std.TreeSet String} {column : String} :
    column ∈ names.foldl (·.insert ·) columns ↔ column ∈ columns ∨ column ∈ names := by
  induction names generalizing columns with
  | nil => simp
  | cons name names ih =>
    rw [List.foldl_cons, ih, Std.TreeSet.mem_insert, Std.LawfulEqCmp.compare_eq_iff_eq,
      List.mem_cons, @eq_comm _ name]
    tauto

theorem mem_foldl_columns {rows : List Row} {columns : Std.TreeSet String} {column : String} :
    column ∈ rows.foldl (fun columns row => row.keys.foldl (·.insert ·) columns) columns ↔
      column ∈ columns ∨ ∃ row ∈ rows, column ∈ row := by
  induction rows generalizing columns with
  | nil => simp
  | cons row rows ih =>
    rw [List.foldl_cons, ih, mem_foldl_insert, Std.TreeMap.mem_keys, List.exists_mem_cons_iff,
      or_assoc]

/-- The columns of rows are those that any of them has. -/
theorem mem_rowColumns {rows : List Row} {column : String} :
    column ∈ rowColumns rows ↔ ∃ row ∈ rows, column ∈ row := by
  rw [rowColumns, Std.TreeSet.mem_toList, mem_foldl_columns]
  simp

/-! ## The map -/

section AutoColumnMap

variable {columns fillable : List String} {row : Row} {variableName column : String} {cell : Cell}

theorem getElem?_foldl_insert_self (names : List String) (map : ColumnMap) :
    (names.foldl (fun map name => map.insert name name) map)[column]? =
      if column ∈ names then some column else map[column]? := by
  induction names generalizing map with
  | nil => simp
  | cons name names ih =>
    rw [List.foldl_cons, ih, Std.TreeMap.getElem?_insert]
    by_cases hname : name = column
    · simp [hname]
    · simp [hname, Ne.symm hname]

/-- A column that is named like a variable is sent to it, any other one nowhere. -/
theorem getElem?_autoColumnMap (columns fillable : List String) (column : String) :
    (autoColumnMap columns fillable)[column]? =
      if column ∈ columns ∧ column ∈ fillable then some column else none := by
  rw [autoColumnMap, getElem?_foldl_insert_self]
  simp

/-- **A variable is supplied by the column with its very name**, if the row has it. -/
theorem supplies_autoColumnMap_iff (hcolumns : ∀ c ∈ row, c ∈ columns)
    (hfillable : ∀ name ∈ fillable, trim name = name) :
    Supplies row (autoColumnMap columns fillable) variableName column cell ↔
      column = variableName ∧ variableName ∈ fillable ∧ row[variableName]? = some cell := by
  constructor
  · rintro ⟨hcell, name, hname, rfl⟩
    rw [getElem?_autoColumnMap, Option.ite_none_right_eq_some] at hname
    obtain ⟨⟨-, hmem⟩, hname⟩ := hname
    cases hname
    -- the blanks that are taken off the name of the variable were none
    rw [hfillable column hmem]
    exact ⟨rfl, hmem, hcell⟩
  · rintro ⟨rfl, hmem, hcell⟩
    have hcolumn : column ∈ row := by
      rw [Std.TreeMap.mem_iff_isSome_getElem?, hcell]
      rfl
    refine ⟨hcell, column, ?_, hfillable column hmem⟩
    rw [getElem?_autoColumnMap, if_pos ⟨hcolumns column hcolumn, hmem⟩]

theorem decides_autoColumnMap_iff (hcolumns : ∀ c ∈ row, c ∈ columns)
    (hfillable : ∀ name ∈ fillable, trim name = name) :
    Decides row (autoColumnMap columns fillable) variableName column cell ↔
      column = variableName ∧ variableName ∈ fillable ∧ row[variableName]? = some cell := by
  constructor
  · intro h
    exact (supplies_autoColumnMap_iff hcolumns hfillable).1 h.supplies
  · intro h
    refine ⟨(supplies_autoColumnMap_iff hcolumns hfillable).2 h, fun column' cell' h' => ?_⟩
    obtain ⟨rfl, -⟩ := (supplies_autoColumnMap_iff hcolumns hfillable).1 h'
    rw [utf8Bytes_le_iff, h.1]

/-- **The values of a row are its cells** under the names of the variables. -/
theorem getElem?_rowVariables_auto (hcolumns : ∀ c ∈ row, c ∈ columns)
    (hfillable : ∀ name ∈ fillable, trim name = name) (name : String) :
    (rowVariables row (autoColumnMap columns fillable))[name]? =
      if name ∈ fillable then row[name]?.map Cell.display else none := by
  refine Option.ext fun text => ?_
  rw [getElem?_rowVariables_eq_some_iff, Option.ite_none_right_eq_some, Option.map_eq_some_iff]
  simp only [decides_autoColumnMap_iff hcolumns hfillable]
  constructor
  · rintro ⟨column, cell, ⟨-, hmem, hcell⟩, rfl⟩
    exact ⟨hmem, cell, hcell, rfl⟩
  · rintro ⟨hmem, cell, hcell, rfl⟩
    exact ⟨name, cell, ⟨rfl, hmem, hcell⟩, rfl⟩

end AutoColumnMap

/-! ## Rows of a batch -/

/-- The map of a batch that is given none. -/
def ownColumns (rows : List Row) (elements : List Element) : ColumnMap :=
  autoColumnMap (rowColumns rows) (fillableVariables elements)

/-- The cells of a row under some names, as the texts that print for them. -/
def cellTexts (row : Row) (names : List String) : Variables :=
  row.filterMap fun column cell => if column ∈ names then some cell.display else none

variable {rows : List Row} {elements : List Element} {row : Row} {name : String}

theorem getElem?_cellTexts (row : Row) (names : List String) (name : String) :
    (cellTexts row names)[name]? = if name ∈ names then row[name]?.map Cell.display else none := by
  rw [cellTexts, Std.TreeMap.getElem?_filterMap']
  cases row[name]? with
  | none => simp
  | some cell => simp

theorem mem_rowColumns_of_mem (h : row ∈ rows) : ∀ column ∈ row, column ∈ rowColumns rows :=
  fun _ hcolumn => mem_rowColumns.2 ⟨row, h, hcolumn⟩

/-- A row supplies its cells if its columns are among those of the rows. -/
theorem getElem?_rowVariables_ownColumns (hcolumns : ∀ column ∈ row, column ∈ rowColumns rows)
    (name : String) : (rowVariables row (ownColumns rows elements))[name]? =
      (cellTexts row (fillableVariables elements))[name]? := by
  have htrim : ∀ variableName ∈ fillableVariables elements, trim variableName = variableName :=
    fun _ h => (fillableVariables_spec h).2.1
  rw [getElem?_cellTexts, ownColumns, getElem?_rowVariables_auto hcolumns htrim]

theorem toList_rowVariables_ownColumns (h : row ∈ rows) :
    (rowVariables row (ownColumns rows elements)).toList =
      (cellTexts row (fillableVariables elements)).toList :=
  (Std.TreeMap.Equiv.of_forall_constGet?_eq
    (getElem?_rowVariables_ownColumns (mem_rowColumns_of_mem h))).toList_eq

theorem mem_cellTexts_iff {names : List String} :
    name ∈ cellTexts row names ↔ name ∈ row ∧ name ∈ names := by
  rw [Std.TreeMap.mem_iff_isSome_getElem?, getElem?_cellTexts, Std.TreeMap.mem_iff_isSome_getElem?]
  by_cases h : name ∈ names <;> simp [h]

/-- A batch without a map of its own feeds each row's own cells to the variables. -/
structure FeedsOwnCells (rows : List Row) (elements : List Element) : Prop where
  /-- The values that a row supplies are its cells under the names of the variables, no more and no
  less, each with the text that prints for it. -/
  values : ∀ row ∈ rows, (rowVariables row (ownColumns rows elements)).toList =
    (cellTexts row (fillableVariables elements)).toList
  /-- So a variable that is a column of the row gets the cell of this column. -/
  cell : ∀ row ∈ rows, ∀ name ∈ fillableVariables elements, ∀ cell, row[name]? = some cell →
    (rowVariables row (ownColumns rows elements))[name]? = some cell.display
  /-- What gets a value is a column of the row itself, and the name that an element which prints is
  bound to. No bank of the tag is among them, and no name with blanks around it. -/
  name : ∀ row ∈ rows, ∀ name ∈ rowVariables row (ownColumns rows elements),
    name ∈ row ∧ (∃ e ∈ elements, e.frame.visible = true ∧ e.binding = .fillable name) ∧
      name ∉ reservedNames ∧ trim name = name
  /-- A column that is not named exactly like a variable, but for blanks or the case of letters, say,
  might as well be missing. -/
  column : ∀ row ∈ rows, ∀ column ∉ fillableVariables elements,
    (rowVariables (row.erase column) (ownColumns rows elements)).toList =
      (rowVariables row (ownColumns rows elements)).toList
  /-- The other rows do not matter, whatever their columns are, -/
  others : ∀ row ∈ rows, ∀ rows' : List Row, row ∈ rows' →
    (rowVariables row (ownColumns rows' elements)).toList =
      (rowVariables row (ownColumns rows elements)).toList
  /-- and each document is the one of a batch of its row alone. -/
  alone : ∀ document, batch document rows (ownColumns rows elements) =
    rows.flatMap fun row => batch document [row] (ownColumns [row] elements)

/-- **Each row supplies its own cells and nothing else**, if columns are mapped by their names. -/
theorem feedsOwnCells (rows : List Row) (elements : List Element) :
    FeedsOwnCells rows elements := by
  have hvalue : ∀ rows : List Row, ∀ row ∈ rows, ∀ name : String,
      (rowVariables row (ownColumns rows elements))[name]? =
        (cellTexts row (fillableVariables elements))[name]? :=
    fun _ _ h => getElem?_rowVariables_ownColumns (mem_rowColumns_of_mem h)
  constructor
  case values => exact fun row h => toList_rowVariables_ownColumns h
  case cell =>
    intro row h name hname cell hcell
    rw [hvalue rows row h, getElem?_cellTexts, if_pos hname, hcell]
    rfl
  case name =>
    intro row h name hname
    rw [Std.TreeMap.mem_iff_isSome_getElem?, hvalue rows row h,
      ← Std.TreeMap.mem_iff_isSome_getElem?, mem_cellTexts_iff] at hname
    obtain ⟨hcolumn, hfillable⟩ := hname
    obtain ⟨-, htrim, hreserved⟩ := fillableVariables_spec hfillable
    obtain ⟨e, he, hbinding⟩ := mem_fillableVariables.1 hfillable
    obtain ⟨hmem, hvisible⟩ := mem_printOrder.1 he
    exact ⟨hcolumn, ⟨e, hmem, hvisible, hbinding⟩, hreserved, htrim⟩
  case column =>
    intro row h column hcolumn
    have herase : ∀ c ∈ row.erase column, c ∈ rowColumns rows :=
      fun c hc => mem_rowColumns_of_mem h c (Std.TreeMap.mem_of_mem_erase hc)
    refine (Std.TreeMap.Equiv.of_forall_constGet?_eq fun name => ?_).toList_eq
    rw [getElem?_rowVariables_ownColumns herase, hvalue rows row h, getElem?_cellTexts,
      getElem?_cellTexts]
    split_ifs with hname
    · have hne : column ≠ name := fun heq => hcolumn (heq ▸ hname)
      simp [Std.TreeMap.getElem?_erase, hne]
    · rfl
  case others =>
    intro row h rows' h'
    rw [toList_rowVariables_ownColumns h', toList_rowVariables_ownColumns h]
  case alone =>
    intro document
    have hfill : ∀ row ∈ rows, fillRow document (ownColumns rows elements) row =
        fillRow document (ownColumns [row] elements) row := by
      intro row h
      refine substitute_congr fun _ _ _ => ?_
      rw [hvalue rows row h, hvalue [row] row List.mem_cons_self]
    rw [batch, List.map_congr_left hfill]
    exact List.map_eq_flatMap

-- A name with blanks around it, in other letters or of the tag is not that of the variable.
example :
    let sku : Element := { frame := {}, kind := .slot { dataField := " sku " } }
    let row : Row := .ofList
      [("sku", Cell.text "A-1"), ("SKU", Cell.text "b"), (" sku ", Cell.text "c")]
    (rowVariables row (ownColumns [row, .ofList [("EPC", Cell.text "d")]] [sku])).toList =
      [("sku", "A-1")] := by
  decide +kernel

end LabelPress
