import LabelPress.Proofs.Carets
import LabelPress.Row.Batch
import Mathlib.Data.List.Infix

/-!
# What data from rows can do to a document

A row fills the placeholders of a document and puts lines for the tag behind the start of the label.
A caret starts a command, so carets tell how many commands that adds.

* `count_caret_substitute`: **filling keeps the carets outside the placeholders** (`outside`) and
  adds none.
* `exists_of_placeOf?`, `not_infix_of_placeOf?`: where a text is first found in another.
* `injected_injectBlock`: **a block of lines goes after a start of label, or nowhere**
  (`Injected`).
* `IsTagLine`: a line that writes digits to a tag. Every line for a tag is one and has three carets
  (`isTagLine_of_line?`).
* `caretsKept`: **a row adds no command** to a document but the lines for its tag.
-/

namespace LabelPress

open LabelPress.Number LabelPress.Text LabelPress.Zpl LabelPress.Piece

/-! ## Filling -/

/-- What stays of a piece whatever it is filled with. -/
def Piece.kept : Piece → List Char
  | char c => [c]
  | hole _ => []

/-- The characters of a document outside its placeholders. -/
def outside (document : String) : List Char := (pieces document.toList).flatMap kept

theorem mem_outside_iff {document : String} {c : Char} :
    c ∈ outside document ↔ char c ∈ pieces document.toList := by
  rw [outside, List.mem_flatMap]
  constructor
  · rintro ⟨p, hp, hc⟩
    cases p with
    | char d =>
      obtain rfl := List.mem_singleton.1 hc
      exact hp
    | hole name => cases hc
  · intro h
    exact ⟨_, h, List.mem_singleton_self c⟩

theorem outside_subset (document : String) : outside document ⊆ document.toList := by
  intro c hc
  rw [← flatMap_source_pieces document.toList]
  exact List.mem_flatMap.2 ⟨_, mem_outside_iff.1 hc, List.mem_singleton_self c⟩

theorem count_caret_fill (values : Variables) (p : Piece) :
    (p.fill values).count '^' = p.kept.count '^' := by
  cases p with
  | char c => rfl
  | hole name =>
    simp only [Piece.fill, kept, List.count_nil]
    split
    · exact List.count_eq_zero.2 (caret_not_mem_escapeChars _)
    · rfl

/-- **Filling a document adds no caret** and takes none away, outside the placeholders. -/
theorem count_caret_substitute (document : String) (values : Variables) :
    (substitute document values).toList.count '^' = (outside document).count '^' := by
  rw [substitute, toList_onChars, outside]
  exact count_flatMap_congr fun p _ => count_caret_fill values p

/-! ## Finding a text -/

theorem dropText?_eq_some_iff {start s rest : List Char} :
    dropText? start s = some rest ↔ s = start ++ rest := by
  induction start generalizing s with
  | nil => simp [dropText?]
  | cons c start ih =>
    cases s with
    | nil => simp [dropText?]
    | cons d s =>
      unfold dropText?
      split
      · rename_i h
        subst h
        rw [ih, List.cons_append, List.cons.injEq, eq_self_iff_true, true_and]
      · rename_i h
        simp [Ne.symm h]

/-- The place that is found is that of an occurrence, and no other is further in front. -/
theorem exists_of_placeOf? {pattern s : List Char} {place n : Nat}
    (h : placeOf? pattern place s = some n) :
    ∃ front tail, s = front ++ pattern ++ tail ∧ n = place + front.length ∧
      ∀ front' tail', s = front' ++ pattern ++ tail' → front.length ≤ front'.length := by
  induction s generalizing place with
  | nil =>
    unfold placeOf? at h
    split at h
    · rename_i hp
      subst hp
      exact ⟨[], [], rfl, (Option.some.inj h).symm, fun _ _ _ => Nat.zero_le _⟩
    · cases h
  | cons c s ih =>
    unfold placeOf? at h
    split at h
    · rename_i hfound
      obtain ⟨rest, hrest⟩ := Option.isSome_iff_exists.1 hfound
      exact ⟨[], rest, dropText?_eq_some_iff.1 hrest, (Option.some.inj h).symm,
        fun _ _ _ => Nat.zero_le _⟩
    · rename_i hnot
      obtain ⟨front, tail, rfl, rfl, hfirst⟩ := ih h
      refine ⟨c :: front, tail, rfl, by rw [List.length_cons]; omega, fun front' tail' h' => ?_⟩
      cases front' with
      | nil =>
        -- an occurrence at the front is found first
        rw [List.nil_append] at h'
        rw [dropText?_eq_some_iff.2 h'] at hnot
        exact absurd rfl hnot
      | cons d front' =>
        have hlater := hfirst front' tail' (List.cons.inj h').2
        rw [List.length_cons, List.length_cons]
        omega

/-- A place is found if there is an occurrence. -/
theorem not_infix_of_placeOf? {pattern s : List Char} {place : Nat}
    (h : placeOf? pattern place s = none) : ¬ pattern <:+: s := by
  induction s generalizing place with
  | nil =>
    intro hinfix
    unfold placeOf? at h
    rw [if_pos (List.infix_nil.1 hinfix)] at h
    cases h
  | cons c s ih =>
    unfold placeOf? at h
    split at h
    · cases h
    · rename_i hnot
      rw [List.infix_cons_iff, not_or]
      refine ⟨?_, ih h⟩
      rintro ⟨rest, hrest⟩
      rw [dropText?_eq_some_iff.2 hrest.symm] at hnot
      exact hnot rfl

/-! ## Lines for the tag -/

theorem joinLines_ne_empty {lines : List String} (hne : lines ≠ [])
    (hlines : ∀ line ∈ lines, line ≠ "") : joinLines lines ≠ "" := by
  obtain ⟨line, lines, rfl⟩ := List.exists_cons_of_ne_nil hne
  have hline := hlines line (by simp)
  simp [joinLines, hline]

/-- The document with lines put on lines of their own after a start of label. -/
inductive Injected : (document : String) → (lines : List String) → (result : String) → Prop where
  | none (document : String) : Injected document [] document
  | block (front tail : String) (lines : List String) (hne : lines ≠ []) :
      Injected (front ++ "^XA" ++ tail) lines
        (front ++ "^XA" ++ "\n" ++ joinLines lines ++ "\n" ++ tail)

/-- The lines that get into a document: none if it starts no label. -/
def injectedLines (document : String) (lines : List String) : List String :=
  if startFormat <:+: document.toList then lines else []

theorem Injected.of_startFormat {document : String} {lines : List String} (hne : lines ≠ [])
    (hblock : joinLines lines ≠ "") (h : startFormat <:+: document.toList) :
    Injected document lines (injectBlock document (joinLines lines)) := by
  rw [injectBlock, if_neg hblock]
  cases hplace : placeOf? startFormat 0 document.toList with
  | none => exact absurd h (not_infix_of_placeOf? hplace)
  | some place =>
    obtain ⟨front, tail, hdoc, rfl, -⟩ := exists_of_placeOf? hplace
    have hlen : 0 + front.length + startFormat.length = (front ++ startFormat).length := by
      rw [List.length_append, Nat.zero_add]
    have hstart : String.ofList startFormat = "^XA" := rfl
    have hdocument : document = String.ofList front ++ "^XA" ++ String.ofList tail := by
      rw [← String.toList_inj, hdoc]
      simp [startFormat]
    dsimp only
    rw [hdoc, hlen, List.take_left, List.drop_left, String.ofList_append, hstart]
    conv => arg 1; rw [hdocument]
    exact .block _ _ lines hne

/-- **A block of lines goes after a start of label, or nowhere.** -/
theorem injected_injectBlock (document : String) {lines : List String}
    (hlines : ∀ line ∈ lines, line ≠ "") :
    Injected document (injectedLines document lines) (injectBlock document (joinLines lines)) := by
  unfold injectedLines
  cases lines with
  | nil =>
    rw [ite_self]
    exact .none document
  | cons line lines =>
    have hblock : joinLines (line :: lines) ≠ "" := joinLines_ne_empty (by simp) hlines
    split
    · rename_i h
      exact .of_startFormat (by simp) hblock h
    · rename_i h
      have hplace : placeOf? startFormat 0 document.toList = none := by
        rw [Option.eq_none_iff_forall_ne_some]
        intro place hsome
        obtain ⟨front, tail, hdoc, -⟩ := exists_of_placeOf? hsome
        exact h ⟨front, tail, hdoc.symm⟩
      rw [injectBlock, if_neg hblock, hplace]
      exact .none document

/-- A line that writes hexadecimal digits to a tag. -/
def IsTagLine (line : String) : Prop :=
  ∃ parameters digits, line = "^RFW," ++ parameters ++ "^FD" ++ digits ++ "^FS" ∧
    IsParameters parameters ∧ digits ≠ "" ∧ ∀ c ∈ digits.toList, (hexDigit? c).isSome = true

theorem isParameterChar_writeFormat {bank : MemoryBank} {parameters : WriteParameters}
    (h : (RfidScheme.standard.access bank).write = some parameters) :
    isParameterChar parameters.format = true := by
  cases bank with
  | epc => cases h; decide
  | userData => cases h; decide
  | tid => cases h

/-- Behind the letter of the format there are digits and commas only. -/
theorem WriteParameters.exists_render (p : WriteParameters) (value : String) :
    ∃ rest, p.render value = p.format.toString ++ rest ∧ IsParameters rest := by
  have hcomma : IsParameters "," := by decide
  have hstart := isParameters_nat p.start.toNat
  have hlength := isParameters_nat (p.length.forValue value).toNat
  unfold WriteParameters.render
  cases p.bank with
  | none =>
    refine ⟨"," ++ toString p.start.toNat ++ "," ++ toString (p.length.forValue value).toNat,
      by simp [String.append_assoc], ?_⟩
    simp only [Nat.toString_eq_repr, isParameters_append]
    exact ⟨⟨⟨hcomma, hstart⟩, hcomma⟩, hlength⟩
  | some bank =>
    refine ⟨"," ++ toString p.start.toNat ++ "," ++ toString (p.length.forValue value).toNat ++ ","
      ++ toString bank.toNat, by simp [String.append_assoc], ?_⟩
    simp only [Nat.toString_eq_repr, isParameters_append]
    exact ⟨⟨⟨⟨⟨hcomma, hstart⟩, hcomma⟩, hlength⟩, hcomma⟩, isParameters_nat _⟩

theorem isParameters_render {parameters : WriteParameters}
    (h : isParameterChar parameters.format = true) (value : String) :
    IsParameters (parameters.render value) := by
  obtain ⟨rest, hrender, hrest⟩ := WriteParameters.exists_render parameters value
  have hformat : IsParameters parameters.format.toString := by simpa [IsParameters] using h
  rw [hrender, isParameters_append]
  exact ⟨hformat, hrest⟩

/-- A line for a tag writes digits, and has the three carets of its command. -/
theorem isTagLine_of_line? {write : TagWrite} {line : String}
    (h : write.line? .standard = some line) :
    IsTagLine line ∧ line.toList.count '^' = 3 := by
  obtain ⟨hne, hhex, parameters, hwrite, rfl⟩ := TagWrite.line?_eq_some_iff.1 h
  generalize normalizeHex write.value = value at hne hhex
  have hformat := isParameterChar_writeFormat hwrite
  have hvalue : IsParameters value := fun c hc => isParameterChar_of_hexDigit? (hhex c hc)
  have hrender : writeTag parameters value = (Command.rfidWrite parameters value).render := rfl
  constructor
  · exact ⟨parameters.render value, value, rfl, isParameters_render hformat value, hne, hhex⟩
  · rw [hrender, Command.count_caret_render (Command.plain_rfidWrite hformat hvalue) rfl]
    rfl

/-! ## Rows -/

/-- The lines for the tag of a row. -/
def TagColumns.lines (columns : TagColumns) (scheme : RfidScheme) (row : Row) : List String :=
  (columns.writes row).filterMap (TagWrite.line? scheme)

theorem TagColumns.isTagLine_of_mem_lines {columns : TagColumns} {row : Row} {line : String}
    (h : line ∈ columns.lines .standard row) : IsTagLine line ∧ line.toList.count '^' = 3 := by
  obtain ⟨write, -, hwrite⟩ := List.mem_filterMap.1 h
  exact isTagLine_of_line? hwrite

theorem Injected.count_caret {document result : String} {lines : List String}
    (h : Injected document lines result) (hlines : ∀ line ∈ lines, line.toList.count '^' = 3) :
    result.toList.count '^' = document.toList.count '^' + 3 * lines.length := by
  cases h with
  | none => rfl
  | block front tail lines hne =>
    have hblock : (joinLines lines).toList.count '^' = 3 * lines.length := by
      rw [count_joinLines (by decide), List.map_congr_left hlines, List.map_const',
        List.sum_replicate_nat, Nat.mul_comm]
    have hfeed : "\n".toList.count '^' = 0 := rfl
    simp only [String.toList_append, List.count_append, hblock, hfeed]
    omega

/-- The lines for the tag that a row puts into a document. -/
def rowLines (document : String) (map : ColumnMap) (columns : TagColumns) (row : Row) :
    List String :=
  injectedLines (fillRow document map row) (columns.lines .standard row)

/-- What becomes of a document for a row: it is filled and gets lines for the tag, and these have
the only carets that the document has not outside its placeholders. -/
structure RowResult (document : String) (map : ColumnMap) (columns : TagColumns) (row : Row)
    (result : String) : Prop where
  injected : Injected (fillRow document map row) (rowLines document map columns row) result
  isTagLine : ∀ line ∈ rowLines document map columns row, IsTagLine line
  carets : result.toList.count '^' =
    (outside document).count '^' + 3 * (rowLines document map columns row).length

theorem rowResult_fillRowWithTags (document : String) (map : ColumnMap) (columns : TagColumns)
    (row : Row) :
    RowResult document map columns row (fillRowWithTags document map columns .standard row) := by
  have hline : ∀ line ∈ rowLines document map columns row,
      IsTagLine line ∧ line.toList.count '^' = 3 := by
    intro line hmem
    rw [rowLines, injectedLines] at hmem
    split at hmem
    · exact columns.isTagLine_of_mem_lines hmem
    · simp at hmem
  have hne : ∀ line ∈ columns.lines .standard row, line ≠ "" := by
    rintro line hmem rfl
    exact absurd (columns.isTagLine_of_mem_lines hmem).2 (by decide)
  have hinjected := injected_injectBlock (fillRow document map row) hne
  constructor
  case injected => exact hinjected
  case isTagLine => exact fun line hmem => (hline line hmem).1
  case carets =>
    have hcount := hinjected.count_caret fun line hmem => (hline line hmem).2
    rw [fillRow, count_caret_substitute] at hcount
    exact hcount

/-- What a document is filled with does not change its carets: they are those outside the
placeholders, and rows add those of the lines for their tags. -/
structure CaretsKept (document : String) : Prop where
  alike : ∀ values values' : Variables,
    (substitute document values).toList.count '^' = (substitute document values').toList.count '^'
  outside : ∀ values : Variables,
    (substitute document values).toList.count '^' = (outside document).count '^'
  rows : ∀ (rows : List Row) (map : ColumnMap) (columns : TagColumns),
    List.Forall₂ (RowResult document map columns) rows
      (batchWithTags document rows map columns .standard)

/-- **Data from rows adds no command to a document**, except the lines for the tags. -/
theorem caretsKept (document : String) : CaretsKept document := by
  constructor
  case alike =>
    intro values values'
    rw [count_caret_substitute, count_caret_substitute]
  case outside => exact count_caret_substitute document
  case rows =>
    intro rows map columns
    rw [batchWithTags, List.forall₂_map_right_iff, List.forall₂_same]
    exact fun row _ => rowResult_fillRowWithTags document map columns row

end LabelPress
