import LabelPress.Image.DataUrl
import LabelPress.Row.Batch
import Mathlib.Data.List.Induction
import Mathlib.Data.List.Nodup
import Mathlib.Data.String.Basic

/-!
# Which column supplies a variable

A column map may send several columns to one variable, and names are compared without the blanks
around them. The columns are taken in the order of their names, which is the order of their bytes,
so the last column that the row has decides.

* `utf8Bytes_lt_iff`: texts are in the order of their bytes (`utf8Bytes`).
* `getElem?_rowVariables_eq_some_iff`: the value of a variable is what the last of its columns
  shows (`Decides`).
* `resolvesColumns`: **collisions are resolved in one fixed way**, from the cells of the row alone.
-/

namespace LabelPress

open LabelPress.Text

/-! ## The order of texts -/

theorem byteArray_toList_loop (bytes : ByteArray) (i : Nat) (r : List UInt8) :
    ByteArray.toList.loop bytes i r = r.reverse ++ bytes.data.toList.drop i := by
  unfold ByteArray.toList.loop
  split
  · rename_i h
    have hi : i < bytes.data.toList.length := h
    have hget : bytes.get! i = bytes.data.toList[i] := getElem!_pos bytes.data i h
    rw [byteArray_toList_loop bytes (i + 1), hget, List.drop_eq_getElem_cons hi, List.reverse_cons,
      List.append_assoc, List.singleton_append]
  · rename_i h
    have hi : bytes.data.toList.length ≤ i := Nat.le_of_not_lt h
    rw [List.drop_of_length_le hi, List.append_nil]
termination_by bytes.size - i

theorem utf8Bytes_eq (s : String) :
    utf8Bytes s = s.toList.flatMap String.utf8EncodeChar := by
  conv => lhs; rw [← String.ofList_toList (s := s)]
  rw [utf8Bytes, String.toUTF8_eq_toByteArray, String.toByteArray_ofList, ByteArray.toList,
    byteArray_toList_loop, List.utf8Encode, List.data_toByteArray]
  rfl

/-- The bytes of the lesser character are less, whatever follows: a longer encoding begins with a
greater byte, and one of the same length holds the digits of the code point to a fixed base. -/
theorem utf8EncodeChar_append_lt {c d : Char} (h : c < d) (s t : List UInt8) :
    String.utf8EncodeChar c ++ s < String.utf8EncodeChar d ++ t := by
  have hlt : c.val.toNat < d.val.toNat := h
  have hmax : d.val.toNat < 0x110000 := by
    have := d.valid
    unfold UInt32.isValidChar Nat.isValidChar at this
    omega
  unfold String.utf8EncodeChar
  generalize c.val.toNat = m at hlt ⊢
  generalize d.val.toNat = n at hlt hmax ⊢
  dsimp only
  split_ifs
  all_goals
    simp (disch := omega) only [List.cons_append, List.nil_append, List.cons_lt_cons_iff,
      UInt8.lt_iff_toNat_lt, ← UInt8.toNat_inj, UInt8.toNat_ofNat', Nat.mod_eq_of_lt]
    omega

theorem flatMap_utf8EncodeChar_lt {s t : List Char} (h : s < t) :
    s.flatMap String.utf8EncodeChar < t.flatMap String.utf8EncodeChar := by
  induction h with
  | nil =>
    rename_i c s
    rw [List.flatMap_nil, List.flatMap_cons]
    have hne : String.utf8EncodeChar c ++ s.flatMap String.utf8EncodeChar ≠ [] := by
      simp [String.utf8EncodeChar_ne_nil]
    obtain ⟨b, bs, hb⟩ := List.exists_cons_of_ne_nil hne
    rw [hb]
    exact .nil
  | rel hcd =>
    rw [List.flatMap_cons, List.flatMap_cons]
    exact utf8EncodeChar_append_lt hcd _ _
  | cons _ ih =>
    rw [List.flatMap_cons, List.flatMap_cons]
    exact List.append_left_lt ih

/-- **Texts are in the order of their bytes.** -/
theorem utf8Bytes_lt_iff {s t : String} : utf8Bytes s < utf8Bytes t ↔ s < t := by
  rw [utf8Bytes_eq, utf8Bytes_eq, String.lt_iff_toList_lt]
  constructor
  · intro h
    rcases lt_trichotomy s.toList t.toList with hlt | heq | hgt
    · exact hlt
    · rw [heq] at h
      exact absurd h (List.lt_irrefl _)
    · exact absurd (flatMap_utf8EncodeChar_lt hgt) (List.lt_asymm h)
  · exact flatMap_utf8EncodeChar_lt

theorem utf8Bytes_le_iff {s t : String} : utf8Bytes s ≤ utf8Bytes t ↔ s ≤ t := by
  rw [← List.not_lt, ← String.not_lt, utf8Bytes_lt_iff]

/-! ## Maps filled one by one -/

/-- Where each step puts the value of an item, if it has one, under a key, the last item with a
value decides what stands there. -/
theorem getElem?_foldl {α β : Type} {step : Std.TreeMap String β → α → Std.TreeMap String β}
    {value? : α → Option β} {key : String}
    (hstep : ∀ m a, (step m a)[key]? = (value? a <|> m[key]?)) (items : List α) :
    (items.foldl step {})[key]? = items.reverse.findSome? value? := by
  induction items using List.reverseRecOn with
  | nil => rfl
  | append_singleton items a ih =>
    rw [List.foldl_append, List.foldl_cons, List.foldl_nil, List.reverse_concat,
      List.findSome?_cons, hstep, ih]
    cases value? a with
    | none => rfl
    | some b => rfl

/-! ## Columns -/

/-- The row has the column, with this cell, and the map sends the column to the variable. -/
def Supplies (row : Row) (map : ColumnMap) (variableName column : String) (cell : Cell) : Prop :=
  row[column]? = some cell ∧ ∃ name, map[column]? = some name ∧ trim name = variableName

/-- The column supplies the variable, and no other column that does has a greater name. -/
structure Decides (row : Row) (map : ColumnMap) (variableName column : String) (cell : Cell) :
    Prop where
  supplies : Supplies row map variableName column cell
  last : ∀ column' cell', Supplies row map variableName column' cell' →
    utf8Bytes column' ≤ utf8Bytes column

/-- What an entry of the map gives the variable. -/
def entryValue? (row : Row) (variableName : String) (entry : String × String) : Option String :=
  if trim entry.2 = variableName then row[entry.1]?.map Cell.display else none

variable {row : Row} {map : ColumnMap} {variableName column text : String} {cell : Cell}

theorem entryValue?_eq_some_iff {entry : String × String} :
    entryValue? row variableName entry = some text ↔
      trim entry.2 = variableName ∧ ∃ cell, row[entry.1]? = some cell ∧ cell.display = text := by
  unfold entryValue?
  split_ifs with h <;> simp [h]

/-- The last entry of the map that has a value gives it. -/
theorem getElem?_rowVariables (row : Row) (map : ColumnMap) (variableName : String) :
    (rowVariables row map)[variableName]? =
      map.toList.reverse.findSome? (entryValue? row variableName) := by
  refine getElem?_foldl (fun values entry => ?_) _
  obtain ⟨column, name⟩ := entry
  dsimp only [entryValue?]
  cases row[column]? with
  | none => simp
  | some cell =>
    dsimp only
    rw [Std.TreeMap.getElem?_insert]
    by_cases hname : trim name = variableName <;> simp [hname]

theorem supplies_iff : Supplies row map variableName column cell ↔
    ∃ name, (column, name) ∈ map.toList ∧ trim name = variableName ∧ row[column]? = some cell := by
  simp only [Supplies, Std.TreeMap.mem_toList_iff_getElem?_eq_some]
  tauto

theorem pairwise_toList (map : ColumnMap) : map.toList.Pairwise fun a b => a.1 < b.1 :=
  map.ordered_keys_toList.imp compareOfLessAndEq_eq_lt.1

/-- A value comes from the column that decides: the entries behind it give none. -/
theorem exists_decides (h : (rowVariables row map)[variableName]? = some text) :
    ∃ column cell, Decides row map variableName column cell ∧ text = cell.display := by
  rw [getElem?_rowVariables, List.findSome?_eq_some_iff] at h
  obtain ⟨later, ⟨column, name⟩, earlier, hsplit, hvalue, hnone⟩ := h
  obtain ⟨hname, cell, hcell, rfl⟩ := entryValue?_eq_some_iff.1 hvalue
  have hlist : map.toList = earlier.reverse ++ (column, name) :: later.reverse := by
    rw [← List.reverse_inj, hsplit]
    simp
  have horder := pairwise_toList map
  rw [hlist, List.pairwise_append] at horder
  refine ⟨column, cell, ⟨?_, fun column' cell' h' => ?_⟩, rfl⟩
  · exact supplies_iff.2 ⟨name, by simp [hlist], hname, hcell⟩
  · obtain ⟨name', hmem, hname', hcell'⟩ := supplies_iff.1 h'
    rw [hlist, List.mem_append, List.mem_cons] at hmem
    rw [utf8Bytes_le_iff]
    rcases hmem with hmem | hmem | hmem
    · exact String.not_lt.1 (String.lt_asymm (horder.2.2 _ hmem _ List.mem_cons_self))
    · obtain ⟨rfl, -⟩ := Prod.mk.inj hmem
      exact String.le_refl _
    · have hgives : entryValue? row variableName (column', name') = some cell'.display :=
        entryValue?_eq_some_iff.2 ⟨hname', cell', hcell', rfl⟩
      rw [hnone _ (List.mem_reverse.1 hmem)] at hgives
      cases hgives

theorem Supplies.mem_rowVariables (h : Supplies row map variableName column cell) :
    variableName ∈ rowVariables row map := by
  obtain ⟨name, hmem, hname, hcell⟩ := supplies_iff.1 h
  rw [Std.TreeMap.mem_iff_isSome_getElem?, getElem?_rowVariables, List.isSome_findSome?,
    List.any_reverse, List.any_eq_true]
  exact ⟨_, hmem, Option.isSome_iff_exists.2
    ⟨_, entryValue?_eq_some_iff.2 ⟨hname, cell, hcell, rfl⟩⟩⟩

theorem Decides.unique {column' : String} {cell' : Cell}
    (h : Decides row map variableName column cell)
    (h' : Decides row map variableName column' cell') : column = column' ∧ cell = cell' := by
  have hle := utf8Bytes_le_iff.1 (h.last _ _ h'.supplies)
  have hge := utf8Bytes_le_iff.1 (h'.last _ _ h.supplies)
  obtain rfl := String.le_antisymm hge hle
  exact ⟨rfl, Option.some.inj (h.supplies.1.symm.trans h'.supplies.1)⟩

/-- **The value of a variable is what the last of its columns shows.** -/
theorem getElem?_rowVariables_eq_some_iff :
    (rowVariables row map)[variableName]? = some text ↔
      ∃ column cell, Decides row map variableName column cell ∧ text = cell.display := by
  constructor
  · exact exists_decides
  · rintro ⟨column, cell, h, rfl⟩
    have hmem := h.supplies.mem_rowVariables
    rw [Std.TreeMap.mem_iff_isSome_getElem?, Option.isSome_iff_exists] at hmem
    obtain ⟨text, htext⟩ := hmem
    -- what stands there comes from a column that decides, and there is only one
    obtain ⟨column', cell', h', rfl⟩ := exists_decides htext
    rw [htext, (h.unique h').2]

theorem mem_rowVariables_iff :
    variableName ∈ rowVariables row map ↔
      ∃ column cell, Supplies row map variableName column cell := by
  constructor
  · intro h
    rw [Std.TreeMap.mem_iff_isSome_getElem?, Option.isSome_iff_exists] at h
    obtain ⟨text, htext⟩ := h
    obtain ⟨column, cell, hdecides, -⟩ := exists_decides htext
    exact ⟨column, cell, hdecides.supplies⟩
  · rintro ⟨column, cell, h⟩
    exact h.mem_rowVariables

/-! ## Rows in any order -/

/-- A row is read by its columns only. -/
theorem rowVariables_congr {row' : Row} (h : ∀ column : String, row[column]? = row'[column]?)
    (map : ColumnMap) : rowVariables row map = rowVariables row' map := by
  unfold rowVariables
  simp only [h]

/-- The last field of a name is the cell. -/
theorem getElem?_rowOfFields (fields : List (String × Cell)) (column : String) :
    (rowOfFields fields)[column]? = fields.reverse.lookup column := by
  rw [List.lookup_eq_findSome?]
  refine getElem?_foldl (fun row field => ?_) fields
  rw [Std.TreeMap.getElem?_insert]
  by_cases hcolumn : column = field.1
  · simp [hcolumn]
  · simp [hcolumn, Ne.symm hcolumn]

/-- Of fields with different names, each is a cell of the row. -/
theorem getElem?_rowOfFields_eq_some_iff {fields : List (String × Cell)}
    (hnodup : (fields.map Prod.fst).Nodup) :
    (rowOfFields fields)[column]? = some cell ↔ (column, cell) ∈ fields := by
  rw [getElem?_rowOfFields, List.lookup_eq_some_iff]
  constructor
  · rintro ⟨later, earlier, hsplit, -⟩
    rw [← List.mem_reverse, hsplit]
    simp
  · intro hmem
    obtain ⟨later, earlier, hsplit⟩ := List.append_of_mem (List.mem_reverse.2 hmem)
    refine ⟨later, earlier, hsplit, fun field hfield => ?_⟩
    rw [bne_iff_ne]
    rintro rfl
    -- the name would stand in the list twice
    rw [← List.nodup_reverse, ← List.map_reverse, hsplit, List.map_append, List.map_cons] at hnodup
    exact List.disjoint_of_nodup_append hnodup (List.mem_map_of_mem hfield) List.mem_cons_self

/-- The cells of a row do not depend on the order in which they are given. -/
theorem getElem?_rowOfFields_perm {fields fields' : List (String × Cell)}
    (hperm : fields.Perm fields') (hnodup : (fields.map Prod.fst).Nodup) (column : String) :
    (rowOfFields fields)[column]? = (rowOfFields fields')[column]? := by
  refine Option.ext fun cell => ?_
  rw [getElem?_rowOfFields_eq_some_iff hnodup,
    getElem?_rowOfFields_eq_some_iff ((hperm.map _).nodup hnodup), hperm.mem_iff]

/-! ## Collisions -/

/-- Several columns for one variable are resolved by their names, among those that the row has. -/
structure ResolvesColumns (row : Row) (map : ColumnMap) : Prop where
  /-- A variable has a value exactly if a column of the row supplies it. -/
  mem_iff : ∀ variableName : String, variableName ∈ rowVariables row map ↔
    ∃ column cell, Supplies row map variableName column cell
  /-- The value is what the cell of the column with the greatest name shows. -/
  value_iff : ∀ variableName text : String, (rowVariables row map)[variableName]? = some text ↔
    ∃ column cell, Decides row map variableName column cell ∧ text = cell.display
  /-- There is no more than one such column. -/
  unique : ∀ variableName column cell column' cell', Decides row map variableName column cell →
    Decides row map variableName column' cell' → column = column' ∧ cell = cell'
  /-- A column that the row does not have takes no value away. -/
  missing : ∀ column, column ∉ row → ∀ variableName : String,
    (rowVariables row map)[variableName]? = (rowVariables row (map.erase column))[variableName]?
  /-- An empty cell sets the empty text. -/
  empty : ∀ variableName column : String, Decides row map variableName column .empty →
    (rowVariables row map)[variableName]? = some ""
  /-- Only the cells matter, -/
  cells : ∀ row' : Row, (∀ column : String, row'[column]? = row[column]?) →
    rowVariables row' map = rowVariables row map
  /-- and not the order in which they are given. -/
  order : ∀ fields fields' : List (String × Cell), (fields.map Prod.fst).Nodup →
    row = rowOfFields fields → fields.Perm fields' →
    rowVariables (rowOfFields fields') map = rowVariables row map

/-- A column that the row does not have supplies nothing. -/
theorem supplies_erase_iff {missing : String} (h : missing ∉ row) :
    Supplies row (map.erase missing) variableName column cell ↔
      Supplies row map variableName column cell := by
  refine and_congr_right fun hcell => ?_
  have hne : missing ≠ column := by
    rintro rfl
    rw [Std.TreeMap.mem_iff_isSome_getElem?, hcell] at h
    exact h rfl
  simp [Std.TreeMap.getElem?_erase, hne]

/-- **Collisions of columns are resolved in one fixed way**: of the columns that the row has, the
one with the greatest name decides. -/
theorem resolvesColumns (row : Row) (map : ColumnMap) : ResolvesColumns row map := by
  constructor
  case mem_iff => exact fun variableName => mem_rowVariables_iff
  case value_iff => exact fun variableName text => getElem?_rowVariables_eq_some_iff
  case unique => exact fun variableName column cell column' cell' h h' => h.unique h'
  case missing =>
    intro missing hmissing variableName
    have hdecides : ∀ column cell, Decides row (map.erase missing) variableName column cell ↔
        Decides row map variableName column cell := by
      intro column cell
      constructor
      · rintro ⟨hsupplies, hlast⟩
        exact ⟨(supplies_erase_iff hmissing).1 hsupplies,
          fun column' cell' h => hlast column' cell' ((supplies_erase_iff hmissing).2 h)⟩
      · rintro ⟨hsupplies, hlast⟩
        exact ⟨(supplies_erase_iff hmissing).2 hsupplies,
          fun column' cell' h => hlast column' cell' ((supplies_erase_iff hmissing).1 h)⟩
    refine Option.ext fun text => ?_
    simp only [getElem?_rowVariables_eq_some_iff, hdecides]
  case empty =>
    exact fun variableName column h => getElem?_rowVariables_eq_some_iff.2 ⟨column, _, h, rfl⟩
  case cells => exact fun row' h => rowVariables_congr h map
  case order =>
    rintro fields fields' hnodup rfl hperm
    exact rowVariables_congr (fun column => (getElem?_rowOfFields_perm hperm hnodup column).symm) map

-- A missing column keeps the value of the others, and an empty cell replaces it.
example : (rowVariables (.ofList [("a", Cell.text "1"), ("b", Cell.empty)])
    (.ofList [("a", "v"), ("b", " v "), ("c", "v")])).toList = [("v", "")] := by
  decide +kernel

end LabelPress
