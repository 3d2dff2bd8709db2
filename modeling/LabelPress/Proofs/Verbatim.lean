import LabelPress.Image.Source
import LabelPress.Proofs.Spans
import LabelPress.Proofs.TagReads
import LabelPress.TagWrite

/-!
# Texts that are printed as they are

Data and remarks are escaped when they are printed. A few texts are not: the parameters of a bitmap,
the letter of the format of a bank, and the digits that are written to a bank. None of them is text
that somebody entered, and all keep to letters, digits and commas (`IsParameters`).

* `Command.Plain`: whatever the command prints as it is keeps to these characters.
* `plain_compileProgram`: **all commands of a program are plain**, if the options are
  (`CompileOptions.Plain`); they are with the standard addressing and the parameters of any bitmaps
  (`plain_ofBitmaps`).
* `TagWrite.line?_eq_some_iff`: which line, if any, is made for a value that goes to a tag.
-/

namespace LabelPress.Zpl

open LabelPress.Number LabelPress.Text

/-! ## Parameters -/

def isParameterChar (c : Char) : Bool := c.isAlphanum || c == ','

/-- Letters, digits and commas. -/
def IsParameters (s : String) : Prop := ∀ c ∈ s.toList, isParameterChar c = true

instance (s : String) : Decidable (IsParameters s) :=
  decidable_of_iff (s.toList.all isParameterChar = true) List.all_eq_true

theorem isCommandChar_of_isParameterChar {c : Char} (h : isParameterChar c = true) :
    isCommandChar c = true := by
  simp only [isParameterChar, Bool.or_eq_true, beq_iff_eq] at h
  rcases h with h | rfl
  · simp [isCommandChar, h]
  · decide

theorem caret_not_mem_of_isParameters {s : String} (h : IsParameters s) : '^' ∉ s.toList :=
  fun hm => absurd (h _ hm) (by decide)

theorem isParameters_append {s t : String} :
    IsParameters (s ++ t) ↔ IsParameters s ∧ IsParameters t := by
  simp only [IsParameters, String.toList_append, List.mem_append, or_imp, forall_and]

theorem isParameters_nat (n : Nat) : IsParameters n.repr := by
  intro c hc
  rw [Nat.toList_repr] at hc
  have hdigit := Nat.isDigit_of_mem_toDigits (by decide) (by decide) hc
  simp [isParameterChar, Char.isAlphanum, hdigit]

/-! ## Bitmaps -/

theorem isParameterChar_digitChar : ∀ n < 16, isParameterChar (Nat.digitChar n) = true := by
  decide

theorem isParameters_hex (b : Bitmap) : IsParameters b.hex := by
  intro c hc
  rw [Bitmap.hex, String.toList_ofList, List.mem_flatMap] at hc
  obtain ⟨byte, -, hc⟩ := hc
  have hlt := byte.toNat_lt
  simp only [hexByte, List.mem_cons, List.not_mem_nil, or_false] at hc
  rcases hc with rfl | rfl
  · exact isParameterChar_digitChar _ (by omega)
  · exact isParameterChar_digitChar _ (by omega)

/-- A bitmap is given by numbers and hexadecimal digits. -/
theorem isParameters_fragment (b : Bitmap) : IsParameters b.fragment := by
  have htotal := isParameters_nat b.totalBytes
  have hrow := isParameters_nat b.bytesPerRow
  have hcomma : IsParameters "," := by decide
  have hformat : IsParameters "0," := by decide
  simp only [Bitmap.fragment, Nat.toString_eq_repr, isParameters_append]
  exact ⟨⟨⟨⟨⟨⟨⟨hformat, htotal⟩, hcomma⟩, hrow⟩, hcomma⟩, htotal⟩, hcomma⟩, isParameters_hex b⟩

/-! ## Plain commands -/

/-- What the command prints as it is has only letters, digits and commas. -/
def Command.Plain (c : Command) : Prop :=
  ∀ text, .own .verbatim text ∈ c.spans → IsParameters text

namespace Command

theorem plain_of_data? {c : Command} {data : FieldData} (h : c.data? = some data) : c.Plain := by
  intro text htext
  cases c with
  | text x y font d => cases d <;> simp [spans, FieldData.spans] at htext
  | linearBarcode x y code d => cases d <;> simp [spans, FieldData.spans] at htext
  | qrCode x y magnification d => cases d <;> simp [spans, FieldData.spans] at htext
  | _ => cases h

theorem plain_of_isFrame {c : Command} (h : c.isFrame = true) : c.Plain := by
  intro text htext
  cases c with
  | startFormat | endFormat | printWidth | labelLength | labelHome | rfidSetup =>
    simp [spans] at htext
  | _ => cases h

/-- Of the figures, only a bitmap prints a text as it is. -/
theorem plain_of_isFigure {c : Command} (h : c.isFigure = true)
    (hbitmap : ∀ x y fragment, c = .graphicField x y fragment → IsParameters fragment) :
    c.Plain := by
  intro text htext
  cases c with
  | graphicField x y fragment =>
    obtain rfl : text = fragment := by simpa [spans] using htext
    exact hbitmap x y text rfl
  | box | ellipse | diagonal | comment => simp [spans] at htext
  | _ => cases h

theorem plain_rfidRead {access : BankAccess}
    (h : isParameterChar access.read.format = true) : (rfidRead access).Plain := by
  intro text htext
  obtain rfl : text = access.read.format.toString := by simpa [spans] using htext
  simpa [IsParameters] using h

theorem plain_rfidWrite {parameters : WriteParameters} {value : String}
    (hformat : isParameterChar parameters.format = true) (hvalue : IsParameters value) :
    (rfidWrite parameters value).Plain := by
  intro text htext
  have htext : text = parameters.format.toString ∨ text = value := by simpa [spans] using htext
  rcases htext with rfl | rfl
  · simpa [IsParameters] using hformat
  · exact hvalue

end Command

end LabelPress.Zpl

namespace LabelPress

open LabelPress.Number LabelPress.Text LabelPress.Zpl

/-! ## Programs -/

/-- The addressing and the bitmaps of a compilation keep to letters, digits and commas. -/
structure CompileOptions.Plain (options : CompileOptions) : Prop where
  format : ∀ bank, isParameterChar (options.scheme.access bank).read.format = true
  fragment : ∀ (id fragment : String), options.imageCache[id]? = some fragment →
    IsParameters fragment

/-- A compilation with the standard addressing of tags and given bitmaps. -/
def CompileOptions.ofBitmaps (placeholders : Bool) (bitmaps : Std.TreeMap String Bitmap) :
    CompileOptions where
  placeholders := placeholders
  imageCache := LabelPress.imageCache bitmaps

theorem CompileOptions.plain_ofBitmaps (placeholders : Bool)
    (bitmaps : Std.TreeMap String Bitmap) : (ofBitmaps placeholders bitmaps).Plain where
  format bank := by
    show isParameterChar (RfidScheme.standard.access bank).read.format = true
    cases bank <;> decide
  fragment id fragment h := by
    rw [ofBitmaps, LabelPress.imageCache, Std.TreeMap.getElem?_map] at h
    obtain ⟨bitmap, -, rfl⟩ := Option.map_eq_some_iff.1 h
    exact isParameters_fragment bitmap

section Compile

variable {options : CompileOptions} {dpi : Nat}

/-- A bitmap that is printed was found among those of the options. -/
theorem Element.mem_imageCache {e : Element} {x y : Int} {fragment : String}
    (h : .graphicField x y fragment ∈ e.commands dpi options) :
    options.imageCache[e.frame.id]? = some fragment := by
  cases hf : e.field? dpi with
  | some field =>
    -- a field and the reading of a bank are no bitmap
    rw [commands_of_field hf] at h
    have hdata := data?_of_field? hf (e.source options).data
    unfold withReads at h
    split at h <;> simp at h <;> rw [← h] at hdata <;> cases hdata
  | none =>
    unfold commands at h
    cases hk : e.kind with
    | text | slot | barcode => simp [field?, hk] at hf
    | rectangle | ellipse | unknown =>
      simp [hk, RectangleElement.command, EllipseElement.command] at h
    | line l =>
      simp only [hk, LineElement.commands] at h
      repeat' split at h
      all_goals simp at h
    | image i =>
      simp only [hk, ImageElement.command, List.mem_singleton] at h
      repeat' split at h
      all_goals simp_all [notCached]

theorem Element.plain_of_mem_commands (hoptions : options.Plain) {e : Element} :
    ∀ c ∈ e.commands dpi options, c.Plain := by
  intro c hc
  cases hf : e.field? dpi with
  | none =>
    refine Command.plain_of_isFigure (commands_of_no_field hf c hc) fun x y fragment hbitmap => ?_
    subst hbitmap
    exact hoptions.fragment _ _ (mem_imageCache hc)
  | some field =>
    rcases mem_commands_of_field hf hc with rfl | ⟨access, hread, rfl⟩
    · exact Command.plain_of_data? (data?_of_field? hf _)
    · obtain ⟨bank, rfl⟩ := exists_bank_of_read hread
      exact Command.plain_rfidRead (hoptions.format bank)

/-- **All commands of a program are plain** if the options are. -/
theorem plain_compileProgram (hoptions : options.Plain) (canvas : Canvas)
    (elements : List Element) :
    ∀ c ∈ (compileProgram canvas elements options).commands, c.Plain := by
  intro c hc
  dsimp only [compileProgram] at hc
  rw [List.mem_append, List.mem_append, List.mem_flatMap, List.mem_singleton] at hc
  rcases hc with (hc | ⟨e, -, hc⟩) | rfl
  · exact Command.plain_of_isFrame (isFrame_of_mem_front hc)
  · exact Element.plain_of_mem_commands hoptions c hc
  · exact Command.plain_of_isFrame rfl

end Compile

/-! ## Writing tags -/

/-- Hexadecimal digits are among the first 128 characters. -/
theorem toNat_lt_of_hexDigit? {c : Char} (h : (hexDigit? c).isSome = true) : c.toNat < 128 := by
  have hle : ∀ d : Char, d.toNat < 128 → c ≤ d → c.toNat < 128 :=
    fun d hd hcd => Nat.lt_of_le_of_lt (UInt32.le_iff_toNat_le.1 hcd) hd
  unfold hexDigit? at h
  split at h
  · rename_i hc
    exact hle '9' (by decide) hc.2
  · split at h
    · rename_i hc
      exact hle 'f' (by decide) hc.2
    · split at h
      · rename_i hc
        exact hle 'F' (by decide) hc.2
      · cases h

theorem isParameterChar_of_hexDigit? {c : Char} (h : (hexDigit? c).isSome = true) :
    isParameterChar c = true := by
  have hdigits : ∀ n < 128, (hexDigit? (Char.ofNat n)).isSome = true →
      isParameterChar (Char.ofNat n) = true := by
    decide
  have hascii := toNat_lt_of_hexDigit? h
  rw [← Char.ofNat_toNat c] at h ⊢
  exact hdigits _ hascii h

/-- A value is written if it has a hexadecimal digit and nothing else, blanks apart, and if its
bank can be written. -/
theorem TagWrite.line?_eq_some_iff {scheme : RfidScheme} {write : TagWrite} {line : String} :
    write.line? scheme = some line ↔
      normalizeHex write.value ≠ "" ∧
      (∀ c ∈ (normalizeHex write.value).toList, (hexDigit? c).isSome = true) ∧
      ∃ parameters, (scheme.access write.bank).write = some parameters ∧
        line = writeTag parameters (normalizeHex write.value) := by
  dsimp only [line?]
  split
  · rename_i h
    obtain ⟨hne, hhex⟩ := h
    rw [List.all_eq_true] at hhex
    rw [Option.map_eq_some_iff]
    constructor
    · rintro ⟨parameters, hwrite, rfl⟩
      exact ⟨hne, hhex, parameters, hwrite, rfl⟩
    · rintro ⟨-, -, parameters, hwrite, rfl⟩
      exact ⟨parameters, hwrite, rfl⟩
  · rename_i h
    rw [List.all_eq_true] at h
    constructor
    · intro hnone
      cases hnone
    · rintro ⟨hne, hhex, -⟩
      exact absurd ⟨hne, hhex⟩ h

end LabelPress
