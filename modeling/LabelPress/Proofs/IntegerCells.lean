import LabelPress.Proofs.IntegerLiterals
import LabelPress.Proofs.IntegerText
import LabelPress.Proofs.Occurrences
import LabelPress.Proofs.RowTexts

/-!
# Integers in rows

An integer that a row holds becomes a float, and the text of the float fills the placeholders. Two
integers may become the same float, so one of them prints as the other.

* `IntegerCell`: the integer stands in a text of rows.
* `prints_toString_iff`: an integer is not escaped, so placeholders are filled with its digits.
* `printsIntegers`: **what prints for an integer**, and when it is the integer that was written.
-/

namespace LabelPress

open LabelPress.Number LabelPress.Text LabelPress.Piece Json

/-! ## Cells of a text -/

/-- The text reads as rows, this is one of them, and its object has the integer of 64 bits in the
last field of this name. -/
def IntegerCell (text : String) (row : Row) (column : String) (n : Int) : Prop :=
  ∃ (rows : List Row) (items : List Json) (i : Nat) (fields : List (String × Json)),
    parseRows text = .ok rows ∧ rows[i]? = some row ∧
    parse text = .ok (.array items) ∧ items[i]? = some (.object fields) ∧
    fields.reverse.lookup column = some (.integer n) ∧ minInteger ≤ n ∧ n ≤ maxInteger

theorem IntegerCell.getElem?_row {text column : String} {row : Row} {n : Int}
    (h : IntegerCell text row column n) : row[column]? = some (.number (Float.ofInt n)) := by
  obtain ⟨rows, items, i, fields, hrows, hrow, hitems, hfields, hcolumn, -⟩ := h
  obtain ⟨items', hitems', hrel⟩ := exists_of_parseRows hrows
  obtain rfl : items = items' := by simpa [hitems] using hitems'
  obtain ⟨hi, rfl⟩ := List.getElem?_eq_some_iff.1 hrow
  obtain ⟨hi', hitem⟩ := List.getElem?_eq_some_iff.1 hfields
  have hobject := hrel.get hi hi'
  rw [List.get_eq_getElem, List.get_eq_getElem, hitem] at hobject
  obtain ⟨cell, hcell, hof⟩ := hobject.exists_cell hcolumn
  cases hof
  exact hcell

theorem IntegerCell.natAbs_lt {text column : String} {row : Row} {n : Int}
    (h : IntegerCell text row column n) : n.natAbs < 2 ^ 128 := by
  obtain ⟨_, _, _, _, -, -, -, -, -, hmin, hmax⟩ := h
  unfold minInteger at hmin
  unfold maxInteger at hmax
  omega

/-! ## Filling with an integer -/

/-- The row gives the variable this text, and each of its placeholders becomes the text. -/
structure Prints (row : Row) (map : ColumnMap) (variableName text : String) : Prop where
  value : (rowVariables row map)[variableName]? = some text
  filled : ∀ name before after, IsName name → trim (String.ofList name) = variableName →
    fillRow (before ++ Zpl.braced (String.ofList name) ++ after) map row =
      fillRow before map row ++ text ++ fillRow after map row

theorem escape_toString_int (d : Int) : Zpl.escape (toString d) = toString d := by
  have hplain : ∀ c ∈ (toString d).toList, Zpl.escapeChar c = [c] := by
    intro c hc
    rw [Numeral.toList_toString_int, List.mem_append] at hc
    rcases hc with hc | hc
    · split at hc
      · obtain rfl := List.mem_singleton.1 hc
        rfl
      · cases hc
    · have hdigit := (Numeral.isWhole_toDigits d.natAbs).isDigit c hc
      unfold Zpl.escapeChar
      rw [if_neg (by rintro rfl; cases hdigit), if_neg (by rintro rfl; cases hdigit)]
  rw [← String.toList_inj, Zpl.escape, toList_onChars, Zpl.escapeChars, List.flatMap_congr hplain,
    List.flatMap_singleton']

variable {row : Row} {map : ColumnMap} {variableName column : String} {cell : Cell} {n d : Int}

/-- The digits of an integer are not escaped. -/
theorem prints_toString_iff : Prints row map variableName (toString d) ↔
    (rowVariables row map)[variableName]? = some (toString d) := by
  refine ⟨fun h => h.value, fun hvalue => ⟨hvalue, ?_⟩⟩
  rintro name before after hname rfl
  unfold fillRow
  rw [substitute_append_placeholder hname, valueOf, hvalue]
  dsimp only
  rw [escape_toString_int, String.ofList_toList]

/-- The column that decides gives the variable the text of its float. -/
theorem Decides.prints_iff (h : Decides row map variableName column cell)
    (hcell : row[column]? = some (.number (Float.ofInt n))) :
    Prints row map variableName (toString d) ↔
      FloatFormat.plain.render (Float.ofInt n) = toString d := by
  obtain rfl : cell = .number (Float.ofInt n) := by
    rw [h.supplies.1] at hcell
    exact Option.some.inj hcell
  have hvalue := getElem?_rowVariables_eq_some_iff.2 ⟨column, _, h, rfl⟩
  rw [prints_toString_iff, hvalue, Option.some.injEq]
  rfl

/-! ## Which integer prints -/

/-- What prints for an integer of a text of rows, where its column decides the variable. -/
structure PrintsIntegers (text : String) (map : ColumnMap) : Prop where
  /-- An integer is read of its own digits and sign, and of nothing else. -/
  literal : ∀ (s t : List Char) (n : Int), Reader.number s = .ok (.integer n, t) ↔
    s = (toString n).toList ++ t ∧ NumberEnds t ∧ minInteger ≤ n ∧ n ≤ maxInteger
  /-- The rows are the objects of the text, in order, and their cells the values in these. -/
  rows : ∀ rows, parseRows text = .ok rows →
    ∃ items, parse text = .ok (.array items) ∧ List.Forall₂ RowOf rows items
  /-- A row keeps the integer as a float. -/
  cell : ∀ row column n, IntegerCell text row column n →
    row[column]? = some (.number (Float.ofInt n))
  /-- The roundest of the integers that become this float prints, the nearest of several. -/
  printed : ∀ row column n cell variableName, IntegerCell text row column n →
    Decides row map variableName column cell →
    ∃ d, Prints row map variableName (toString d) ∧ ∀ d', IsPrinted n d' ↔ d' = d
  /-- So the integer prints as it was written exactly if it is that one. -/
  exact_iff : ∀ row column n cell variableName, IntegerCell text row column n →
    Decides row map variableName column cell →
    (Prints row map variableName (toString n) ↔ IsPrinted n n)
  /-- Up to `2 ^ 53` it always is. -/
  small : ∀ row column n cell variableName, IntegerCell text row column n →
    Decides row map variableName column cell → n.natAbs ≤ 2 ^ 53 →
    Prints row map variableName (toString n)

/-- **The roundest integer prints** of those that become the same float as the one in the row. -/
theorem printsIntegers (text : String) (map : ColumnMap) : PrintsIntegers text map := by
  constructor
  case literal => exact fun s t n => Reader.number_eq_integer_iff
  case rows => exact fun rows hrows => exists_of_parseRows hrows
  case cell => exact fun row column n hcell => hcell.getElem?_row
  case printed =>
    intro row column n cell variableName hcell hdecides
    obtain ⟨d, hd, htext⟩ := exists_isPrinted hcell.natAbs_lt
    refine ⟨d, (hdecides.prints_iff hcell.getElem?_row).2 htext, fun d' => ?_⟩
    constructor
    · exact fun hd' => hd'.unique hcell.natAbs_lt hd
    · rintro rfl
      exact hd
  case exact_iff =>
    intro row column n cell variableName hcell hdecides
    rw [hdecides.prints_iff hcell.getElem?_row, render_ofInt_eq_iff hcell.natAbs_lt]
  case small =>
    intro row column n cell variableName hcell hdecides hsmall
    rw [hdecides.prints_iff hcell.getElem?_row, render_ofInt_eq_iff hcell.natAbs_lt]
    exact isPrinted_self hsmall

/-! ## An integer that does not print as it was written -/

/-- A text of rows with the first positive integer that another one prints for. -/
def serialRows : String := "[\x7b\"n\":9007199254740993\x7d]"

/-- The only row of `serialRows`. -/
def serialRow : Row := rowOfFields [("n", .number (Float.ofInt 9007199254740993))]

/-- A map for its only column. -/
def serialMap : ColumnMap := .ofList [("n", "v")]

theorem parse_serialRows :
    parse serialRows = .ok (.array [.object [("n", .integer 9007199254740993)]]) := by
  have htext : (Json.array [.object [("n", .integer 9007199254740993)]]).render = serialRows := by
    decide +kernel
  rw [← htext]
  refine Reader.parse_of_readable ?_
  simp [Reader.maxDepth, Reader.Readable, Reader.Scalar, minInteger, maxInteger]

theorem parseRows_serialRows : parseRows serialRows = .ok [serialRow] := by
  have hok : (parseRows serialRows).isOk = true := by decide +kernel
  cases hrows : parseRows serialRows with
  | error fault => rw [hrows] at hok; cases hok
  | ok rows =>
    obtain ⟨items, hitems, hrel⟩ := exists_of_parseRows hrows
    rw [parse_serialRows] at hitems
    cases hitems
    obtain ⟨row, _, hrow, hnil, rfl⟩ := List.forall₂_cons_right_iff.1 hrel
    obtain ⟨cells, fields, hobject, rfl, hcells⟩ := hrow
    cases hobject
    obtain ⟨⟨key, cell⟩, _, ⟨rfl, hcell⟩, hend, rfl⟩ := List.forall₂_cons_right_iff.1 hcells
    cases hcell
    cases hend
    cases hnil
    rfl

theorem integerCell_serialRow : IntegerCell serialRows serialRow "n" 9007199254740993 :=
  ⟨_, _, 0, _, parseRows_serialRows, rfl, parse_serialRows, rfl, rfl, by decide, by decide⟩

theorem decides_serialRow :
    Decides serialRow serialMap "v" "n" (.number (Float.ofInt 9007199254740993)) where
  supplies := ⟨integerCell_serialRow.getElem?_row, "v", by decide +kernel, by decide +kernel⟩
  last column cell hsupplies := by
    obtain ⟨name, hmem, -⟩ := supplies_iff.1 hsupplies
    have hentries : serialMap.toList = [("n", "v")] := by decide +kernel
    rw [hentries, List.mem_singleton] at hmem
    cases hmem
    exact utf8Bytes_le_iff.2 (String.le_refl _)

/-- For the integer after `2 ^ 53` its neighbour prints. -/
theorem printsIntegers_neighbour :
    batch "<\x7b\x7bv\x7d\x7d>" [serialRow] serialMap = ["<9007199254740992>"] ∧
    ¬ ∀ text row map column n cell variableName, IntegerCell text row column n →
      Decides row map variableName column cell → Prints row map variableName (toString n) := by
  refine ⟨by decide +kernel, fun h => ?_⟩
  have hprints := h _ _ _ _ _ _ _ integerCell_serialRow decides_serialRow
  have hvalue : (rowVariables serialRow serialMap)["v"]? ≠ some "9007199254740993" := by
    decide +kernel
  exact hvalue hprints.value

end LabelPress
