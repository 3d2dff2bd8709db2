import LabelPress.Proofs.RowData
import LabelPress.Proofs.TagDigits
import Mathlib.Data.List.Forall2
import Mathlib.Order.Bounds.Defs

/-!
# Blocks of lines for tags

The block of several writes has a line for each that can be written, and nothing for the others.

* `WriteParameters.render_eq_intercalate`: the parameters of a line, in order.
* `exists_writeBlock`: **a block joins the lines of the writes that can be written**
  (`IsWritten`, `IsLineOf`), in the order of the writes.
* `writeBlock_append`: the block of two lists of writes is made of their blocks.
* `blankless_writeBlock`: a block has no empty line, whatever the letter of a format is.
* `exactBlocks`: the whole statement.
* `leastWords`: a line whose value decides covers **the fewest words that hold the value**.
-/

namespace LabelPress.Zpl

/-- The parameters for a value, one by one. -/
def WriteParameters.toStrings (p : WriteParameters) (value : String) : List String :=
  [p.format.toString, toString p.start.toNat, toString (p.length.forValue value).toNat] ++
    (p.bank.map fun bank => toString bank.toNat).toList

theorem WriteParameters.render_eq_intercalate (p : WriteParameters) (value : String) :
    p.render value = ",".intercalate (p.toStrings value) := by
  unfold render toStrings
  cases p.bank with
  | none => simp [String.append_assoc]
  | some bank => simp [String.append_assoc]

end LabelPress.Zpl

namespace LabelPress

open LabelPress.Number LabelPress.Text LabelPress.Zpl

/-! ## Lines -/

/-- The write has a line: without blanks and in upper case its value is not empty and made of
hexadecimal digits, and its bank can be written. -/
def IsWritten (scheme : RfidScheme) (write : TagWrite) : Prop :=
  normalizeHex write.value ≠ "" ∧ (∀ c ∈ (normalizeHex write.value).toList, c ∈ hexDigits) ∧
    (scheme.access write.bank).write ≠ none

instance (scheme : RfidScheme) (write : TagWrite) : Decidable (IsWritten scheme write) :=
  inferInstanceAs (Decidable (_ ∧ _ ∧ _))

/-- The line of a write: the parameters of its bank and the digits of its value. -/
def IsLineOf (scheme : RfidScheme) (write : TagWrite) (line : String) : Prop :=
  ∃ parameters digits, (scheme.access write.bank).write = some parameters ∧
    digits = normalizeHex write.value ∧ digits ≠ "" ∧ (∀ c ∈ digits.toList, c ∈ upperHexDigits) ∧
    line = "^RFW," ++ ",".intercalate (parameters.toStrings digits) ++ "^FD" ++ digits ++ "^FS"

/-- Digits that are left after the change to upper case are in upper case. -/
theorem mem_upperHexDigits_of_mem_normalizeHex {value : String}
    (h : ∀ c ∈ (normalizeHex value).toList, c ∈ hexDigits) :
    ∀ c ∈ (normalizeHex value).toList, c ∈ upperHexDigits := by
  have hvalue : (normalizeHex value).toList = upper (dropBlanks value.toList) := toList_onChars _ _
  rw [hvalue] at h ⊢
  have hall := forall_mem_upper_iff.1 h
  rw [upper_eq_flatMap hall]
  intro d hd
  obtain ⟨c, hc, hd⟩ := List.mem_flatMap.1 hd
  exact mem_upperHexDigits_of_mem_tagDigits (hall c hc) hd

theorem TagWrite.isLineOf_of_line? {scheme : RfidScheme} {write : TagWrite} {line : String}
    (h : write.line? scheme = some line) : IsWritten scheme write ∧ IsLineOf scheme write line := by
  obtain ⟨hne, hhex, parameters, hwrite, rfl⟩ := line?_eq_some_iff.1 h
  simp only [isSome_hexDigit?_iff] at hhex
  refine ⟨⟨hne, hhex, by simp [hwrite]⟩, parameters, _, hwrite, rfl, hne,
    mem_upperHexDigits_of_mem_normalizeHex hhex, ?_⟩
  rw [writeTag, WriteParameters.render_eq_intercalate]

theorem TagWrite.line?_eq_none_iff {scheme : RfidScheme} {write : TagWrite} :
    write.line? scheme = none ↔ ¬ IsWritten scheme write := by
  rw [iff_not_comm, ← ne_eq, ← Option.isSome_iff_ne_none, Option.isSome_iff_exists]
  constructor
  · rintro ⟨hne, hhex, hwrite⟩
    obtain ⟨parameters, hparameters⟩ := Option.ne_none_iff_exists'.1 hwrite
    simp only [← isSome_hexDigit?_iff] at hhex
    exact ⟨_, line?_eq_some_iff.2 ⟨hne, hhex, parameters, hparameters, rfl⟩⟩
  · rintro ⟨line, hline⟩
    exact (isLineOf_of_line? hline).1

/-! ## Blocks -/

theorem joinLines_eq_intercalate (lines : List String) :
    joinLines lines = "\n".intercalate lines := by
  cases lines with
  | nil => rfl
  | cons line lines =>
    induction lines generalizing line with
    | nil => simp [joinLines, onNewLines]
    | cons next lines ih =>
      rw [String.intercalate_cons_cons, ← ih next]
      simp [joinLines, onNewLines, String.append_assoc]

/-- **A block joins the lines of the writes that can be written.** -/
theorem exists_writeBlock (scheme : RfidScheme) (writes : List TagWrite) :
    ∃ lines, List.Forall₂ (IsLineOf scheme) (writes.filter (IsWritten scheme)) lines ∧
      writeBlock scheme writes = "\n".intercalate lines := by
  refine ⟨writes.filterMap (TagWrite.line? scheme), ?_, joinLines_eq_intercalate _⟩
  induction writes with
  | nil => exact .nil
  | cons write writes ih =>
    cases hline : write.line? scheme with
    | none =>
      have hnot := TagWrite.line?_eq_none_iff.1 hline
      simpa [List.filter_cons, List.filterMap_cons, hline, hnot] using ih
    | some line =>
      obtain ⟨hwritten, hlineOf⟩ := TagWrite.isLineOf_of_line? hline
      simpa [List.filter_cons, List.filterMap_cons, hline, hwritten] using ⟨hlineOf, ih⟩

theorem IsLineOf.ne_empty {scheme : RfidScheme} {write : TagWrite} {line : String}
    (h : IsLineOf scheme write line) : line ≠ "" := by
  obtain ⟨parameters, digits, -, -, -, -, rfl⟩ := h
  simp

theorem lines_eq_nil_iff {scheme : RfidScheme} {writes : List TagWrite} :
    writes.filterMap (TagWrite.line? scheme) = [] ↔ writeBlock scheme writes = "" := by
  constructor
  · intro hnil
    rw [writeBlock, hnil, joinLines]
  · intro hblock
    by_contra hne
    refine joinLines_ne_empty hne (fun line hline => ?_) hblock
    obtain ⟨write, -, hwrite⟩ := List.mem_filterMap.1 hline
    exact (TagWrite.isLineOf_of_line? hwrite).2.ne_empty

/-- The block of two lists is made of their blocks, where there are any. -/
theorem writeBlock_append (scheme : RfidScheme) (before after : List TagWrite) :
    writeBlock scheme (before ++ after) = "\n".intercalate
      ([writeBlock scheme before, writeBlock scheme after].filter (· ≠ "")) := by
  have hblock : ∀ writes, writeBlock scheme writes =
      "\n".intercalate (writes.filterMap (TagWrite.line? scheme)) :=
    fun writes => joinLines_eq_intercalate _
  rw [hblock (before ++ after), List.filterMap_append]
  by_cases hbefore : writeBlock scheme before = ""
  · rw [lines_eq_nil_iff.2 hbefore, List.nil_append, ← hblock]
    by_cases hafter : writeBlock scheme after = "" <;> simp [hbefore, hafter]
  · by_cases hafter : writeBlock scheme after = ""
    · rw [lines_eq_nil_iff.2 hafter, List.append_nil, ← hblock]
      simp [hbefore, hafter]
    · rw [String.intercalate_append_of_ne_nil (mt lines_eq_nil_iff.1 hbefore)
        (mt lines_eq_nil_iff.1 hafter), ← hblock, ← hblock]
      simp [hbefore, hafter]

theorem writeBlock_eq_empty_iff {scheme : RfidScheme} {writes : List TagWrite} :
    writeBlock scheme writes = "" ↔ ∀ write ∈ writes, ¬ IsWritten scheme write := by
  rw [← lines_eq_nil_iff, List.filterMap_eq_nil_iff]
  exact forall₂_congr fun write _ => TagWrite.line?_eq_none_iff

/-- A write that cannot be written leaves no trace, such as an empty line. -/
theorem writeBlock_skip {scheme : RfidScheme} {write : TagWrite} (h : ¬ IsWritten scheme write)
    (before after : List TagWrite) :
    writeBlock scheme (before ++ write :: after) = writeBlock scheme (before ++ after) := by
  rw [writeBlock, writeBlock, List.filterMap_append, List.filterMap_append,
    List.filterMap_cons_none (TagWrite.line?_eq_none_iff.2 h)]

/-! ## Empty lines -/

/-- Every line of the text has something in it. -/
def Blankless (s : List Char) : Prop := [] ∉ List.splitOn '\n' s

theorem Blankless.append {s t : List Char} (hs : Blankless s) (ht : Blankless t) :
    Blankless (s ++ '\n' :: t) := by
  unfold Blankless
  rw [List.splitOn_append_cons_self, List.mem_append, not_or]
  exact ⟨hs, ht⟩

theorem blankless_of_not_mem {s : List Char} (hne : s ≠ []) (h : '\n' ∉ s) : Blankless s := by
  unfold Blankless
  rw [List.splitOn_eq_singleton h, List.mem_singleton]
  exact hne.symm

theorem newline_not_mem_of_isParameters {s : String} (h : IsParameters s) : '\n' ∉ s.toList :=
  fun hm => absurd (h _ hm) (by decide)

/-- Even where the letter of the format is a line feed, there is something on both sides of it. -/
theorem IsLineOf.blankless {scheme : RfidScheme} {write : TagWrite} {line : String}
    (h : IsLineOf scheme write line) : Blankless line.toList := by
  obtain ⟨parameters, digits, -, -, -, hdigits, rfl⟩ := h
  obtain ⟨rest, hrender, hrest⟩ := WriteParameters.exists_render parameters digits
  have hdigit : ∀ c ∈ upperHexDigits, c ≠ '\n' := List.all_iff_forall_prop.1 (by decide)
  have hrest' : '\n' ∉ rest.toList ++ ("^FD".toList ++ (digits.toList ++ "^FS".toList)) := by
    simp only [List.mem_append, not_or]
    exact ⟨newline_not_mem_of_isParameters hrest, by decide, fun hm => hdigit _ (hdigits _ hm) rfl,
      by decide⟩
  rw [← WriteParameters.render_eq_intercalate, hrender]
  simp only [String.toList_append, List.append_assoc, Char.toString_eq_singleton,
    String.toList_singleton, List.singleton_append]
  by_cases hformat : parameters.format = '\n'
  · rw [hformat]
    exact (blankless_of_not_mem (by decide) (by decide)).append
      (blankless_of_not_mem (by simp) hrest')
  · refine blankless_of_not_mem (by simp) ?_
    rw [List.mem_append, List.cons_append, List.mem_cons, not_or, not_or]
    exact ⟨by decide, Ne.symm hformat, hrest'⟩

theorem blankless_intercalate {lines : List String} (hne : lines ≠ [])
    (h : ∀ line ∈ lines, Blankless line.toList) : Blankless ("\n".intercalate lines).toList := by
  induction lines with
  | nil => exact absurd rfl hne
  | cons line lines ih =>
    have hline := h line List.mem_cons_self
    cases lines with
    | nil => simpa using hline
    | cons next lines =>
      rw [String.intercalate_cons_cons, String.append_assoc, String.toList_append,
        String.toList_append]
      exact hline.append (ih (by simp) fun l hl => h l (List.mem_cons_of_mem _ hl))

theorem blankless_writeBlock {scheme : RfidScheme} {writes : List TagWrite}
    (h : writeBlock scheme writes ≠ "") : Blankless (writeBlock scheme writes).toList := by
  have hne := mt lines_eq_nil_iff.1 h
  rw [writeBlock, joinLines_eq_intercalate]
  refine blankless_intercalate hne fun line hline => ?_
  obtain ⟨write, -, hwrite⟩ := List.mem_filterMap.1 hline
  exact (TagWrite.isLineOf_of_line? hwrite).2.blankless

/-! ## Exact blocks -/

/-- Where the value decides, a line covers a word for each four of its digits, a begun word
included, within the bound of the bank and never zero. -/
theorem toNat_forValue_digits (bound : UInt16) (value : String) :
    ((WriteLength.digits bound).forValue value).toNat =
      max (min ((value.length + 3) / 4) bound.toNat) 1 := by
  have hbound : min ((value.length + 3) / 4) bound.toNat < 65536 :=
    (Nat.min_le_right _ _).trans_lt bound.toNat_lt
  have hwords : (UInt16.ofNat (min ((value.length + 3) / 4) bound.toNat)).toNat =
      min ((value.length + 3) / 4) bound.toNat := by
    rw [UInt16.toNat_ofNat', Nat.mod_eq_of_lt hbound]
  have hone : (1 : UInt16).toNat = 1 := rfl
  have hmax : ∀ words : UInt16, (max words 1).toNat = max words.toNat 1 := by
    intro words
    change (if words ≤ 1 then 1 else words).toNat = _
    split_ifs with hle <;> rw [UInt16.le_iff_toNat_le, hone] at hle <;> omega
  rw [WriteLength.forValue, hmax, hwords]

/-- What is written for writes of values. -/
structure ExactBlocks (scheme : RfidScheme) : Prop where
  /-- There is a line for each write that can be written, in their order. -/
  lines : ∀ writes, ∃ lines,
    List.Forall₂ (IsLineOf scheme) (writes.filter (IsWritten scheme)) lines ∧
    writeBlock scheme writes = "\n".intercalate lines
  /-- No line is empty. -/
  blankless : ∀ writes, writeBlock scheme writes ≠ "" →
    Blankless (writeBlock scheme writes).toList
  empty_iff : ∀ writes, writeBlock scheme writes = "" ↔ ∀ write ∈ writes, ¬ IsWritten scheme write
  append : ∀ before after, writeBlock scheme (before ++ after) = "\n".intercalate
    ([writeBlock scheme before, writeBlock scheme after].filter (· ≠ ""))
  /-- Other writes leave no trace, -/
  skipped : ∀ before write after, ¬ IsWritten scheme write →
    writeBlock scheme (before ++ write :: after) = writeBlock scheme (before ++ after)
  /-- as the identifier, if the addressing is the standard one. -/
  identifier : scheme = .standard → ∀ before value after,
    writeBlock scheme (before ++ ⟨.tid, value⟩ :: after) = writeBlock scheme (before ++ after)
  /-- The words that a line covers. -/
  words : ∀ length value, (WriteLength.forValue length value).toNat = match length with
    | .fixed words => words.toNat
    | .digits bound => max (min ((value.length + 3) / 4) bound.toNat) 1

/-- **Blocks are exact**: they hold the lines of the writes that can be written, and nothing
else. -/
theorem exactBlocks (scheme : RfidScheme) : ExactBlocks scheme := by
  constructor
  case lines => exact exists_writeBlock scheme
  case blankless => exact fun writes => blankless_writeBlock
  case empty_iff => exact fun writes => writeBlock_eq_empty_iff
  case append => exact writeBlock_append scheme
  case skipped => exact fun before write after h => writeBlock_skip h before after
  case identifier =>
    rintro rfl before value after
    have hread : (RfidScheme.standard.access .tid).write = none := rfl
    exact writeBlock_skip (fun h => h.2.2 hread) before after
  case words =>
    intro length value
    cases length with
    | fixed words => rfl
    | digits bound => exact toNat_forValue_digits bound value

/-! ## Words -/

section Words

variable {bound : UInt16} {value value' : String}

/-- The words for a value are ordered like its characters. -/
theorem forValue_digits_le (h : value.toList.length ≤ value'.toList.length) :
    (WriteLength.digits bound).forValue value ≤ (WriteLength.digits bound).forValue value' := by
  rw [UInt16.le_iff_toNat_le, toNat_forValue_digits, toNat_forValue_digits]
  rw [String.length_toList, String.length_toList] at h
  omega

theorem one_le_forValue_digits : 1 ≤ (WriteLength.digits bound).forValue value := by
  have hone : (1 : UInt16).toNat = 1 := rfl
  rw [UInt16.le_iff_toNat_le, toNat_forValue_digits, hone]
  exact Nat.le_max_right _ _

theorem forValue_digits_le_bound (hbound : 1 ≤ bound) :
    (WriteLength.digits bound).forValue value ≤ bound := by
  have hone : 1 ≤ bound.toNat := UInt16.le_iff_toNat_le.1 hbound
  rw [UInt16.le_iff_toNat_le, toNat_forValue_digits]
  exact Nat.max_le.2 ⟨Nat.min_le_right _ _, hone⟩

/-- Where the bound allows it, the words are as few as hold the characters. -/
theorem isLeast_forValue_digits (hbound : 1 ≤ bound)
    (hfits : value.toList.length ≤ 4 * bound.toNat) :
    IsLeast {words : ℕ | 1 ≤ words ∧ value.toList.length ≤ 4 * words}
      ((WriteLength.digits bound).forValue value).toNat := by
  have hone : 1 ≤ bound.toNat := UInt16.le_iff_toNat_le.1 hbound
  rw [String.length_toList] at hfits ⊢
  rw [toNat_forValue_digits]
  constructor
  · constructor <;> omega
  · rintro words ⟨hwords, hhold⟩
    omega

/-- A value that needs more words than the bound takes them all. -/
theorem forValue_digits_of_lt (hbound : 1 ≤ bound)
    (hlong : 4 * bound.toNat < value.toList.length) :
    (WriteLength.digits bound).forValue value = bound := by
  have hone : 1 ≤ bound.toNat := UInt16.le_iff_toNat_le.1 hbound
  rw [String.length_toList] at hlong
  rw [← UInt16.toNat_inj, toNat_forValue_digits]
  omega

/-- How many words a write covers where its value decides, up to a bound. -/
structure LeastWords (bound : UInt16) : Prop where
  /-- As few as hold the characters of the value, four in each, and never none. -/
  least : ∀ value : String, value.toList.length ≤ 4 * bound.toNat →
    IsLeast {words : ℕ | 1 ≤ words ∧ value.toList.length ≤ 4 * words}
      ((WriteLength.digits bound).forValue value).toNat
  /-- All that there are, for a value that they do not hold. -/
  full : ∀ value : String, 4 * bound.toNat < value.toList.length →
    (WriteLength.digits bound).forValue value = bound
  one_le : ∀ value, 1 ≤ (WriteLength.digits bound).forValue value
  le_bound : ∀ value, (WriteLength.digits bound).forValue value ≤ bound
  mono : ∀ value value' : String, value.toList.length ≤ value'.toList.length →
    (WriteLength.digits bound).forValue value ≤ (WriteLength.digits bound).forValue value'
  /-- Sixteen bits hold the number: it is that of the arithmetic without bounds. -/
  exact : ∀ value : String, ((WriteLength.digits bound).forValue value).toNat =
    max (min ((value.toList.length + 3) / 4) bound.toNat) 1
  /-- Bytes do not count: as many of them may take one word or two. -/
  bytes : 1 < bound → ∃ value value' : String, value.utf8ByteSize = value'.utf8ByteSize ∧
    (WriteLength.digits bound).forValue value < (WriteLength.digits bound).forValue value'

/-- **Values are written in the fewest words that hold them**, up to the bound. -/
theorem leastWords (hbound : 1 ≤ bound) : LeastWords bound := by
  constructor
  case least => exact fun value => isLeast_forValue_digits hbound
  case full => exact fun value => forValue_digits_of_lt hbound
  case one_le => exact fun value => one_le_forValue_digits
  case le_bound => exact fun value => forValue_digits_le_bound hbound
  case mono => exact fun value value' => forValue_digits_le
  case exact =>
    intro value
    rw [toNat_forValue_digits, String.length_toList]
  case bytes =>
    intro htwo
    refine ⟨"ÿÿÿ", "FFFFFF", by decide, ?_⟩
    have hlength : "ÿÿÿ".length = 3 ∧ "FFFFFF".length = 6 := by decide
    have hone : (1 : UInt16).toNat = 1 := rfl
    rw [UInt16.lt_iff_toNat_lt, hone] at htwo
    rw [UInt16.lt_iff_toNat_lt, toNat_forValue_digits, toNat_forValue_digits, hlength.1, hlength.2]
    omega

/-- Five characters of two bytes each take two words. -/
theorem leastWords_sixtyFour : (1 : UInt16) ≤ 64 ∧ LeastWords 64 ∧
    (WriteLength.digits 64).forValue "ÿÿÿÿÿ" = 2 :=
  ⟨by decide, leastWords (by decide), by decide⟩

end Words

end LabelPress
