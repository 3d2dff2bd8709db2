import LabelPress.Proofs.Verbatim
import Mathlib.Data.Bool.AllAny

/-!
# Digits that are written to tags

A value goes to a tag in upper case and without its blanks, and only if nothing but hexadecimal
digits is left. The digits are looked for after the change to upper case, and there is one character
besides the digits that becomes digits: the ligature of two letters `f`.

* `mem_hexDigits_of_upperChar`: **only a digit or the ligature becomes digits** in upper case.
* `TagWrite.line?_eq_some_iff_tagDigits`: which values are written, and with which digits.
* `writesDigits`: **a written value is a value of digits, and they are written as they are**,
  exactly if it has no ligature.
-/

namespace LabelPress

open LabelPress.Number LabelPress.Text LabelPress.Zpl

/-! ## Characters -/

/-- The hexadecimal digits in either case. -/
def hexDigits : List Char := "0123456789abcdefABCDEF".toList

/-- The hexadecimal digits in upper case. -/
def upperHexDigits : List Char := "0123456789ABCDEF".toList

/-- Two letters `f` in one character. -/
def digitLigature : Char := '\ufb00'

theorem isSome_hexDigit?_iff {c : Char} : (hexDigit? c).isSome = true ↔ c ∈ hexDigits := by
  constructor
  · intro h
    have hdigits : ∀ n < 128, (hexDigit? (Char.ofNat n)).isSome = true →
        Char.ofNat n ∈ hexDigits := by
      decide
    rw [← Char.ofNat_toNat c] at h ⊢
    exact hdigits _ (toNat_lt_of_hexDigit? (by rwa [Char.ofNat_toNat] at h)) h
  · have hdigits : ∀ d ∈ hexDigits, (hexDigit? d).isSome = true :=
      List.all_eq_true.1 (by decide)
    exact hdigits c

/-- The code points of the digits. -/
theorem range_of_ofNat_mem_hexDigits {n : Nat} (h : Char.ofNat n ∈ hexDigits) :
    48 ≤ n ∧ n ≤ 57 ∨ 65 ≤ n ∧ n ≤ 70 ∨ 97 ≤ n ∧ n ≤ 102 := by
  have hrange : ∀ d ∈ hexDigits, 48 ≤ d.toNat ∧ d.toNat ≤ 57 ∨ 65 ≤ d.toNat ∧ d.toNat ≤ 70 ∨
      97 ≤ d.toNat ∧ d.toNat ≤ 102 :=
    List.all_iff_forall_prop.1 (by decide)
  have hn := hrange _ h
  unfold Char.ofNat at hn
  by_cases hvalid : n.isValidChar
  · rw [dif_pos hvalid] at hn
    exact hn
  · rw [dif_neg hvalid] at hn
    exact absurd hn (by decide)

theorem upperChar_of_mem_hexDigits : ∀ c ∈ hexDigits, upperChar c = [c.toUpper] :=
  List.all_iff_forall_prop.1 (by decide)

theorem toUpper_mem_upperHexDigits : ∀ c ∈ hexDigits, c.toUpper ∈ upperHexDigits :=
  List.all_iff_forall_prop.1 (by decide)

theorem upperChar_digitLigature : upperChar digitLigature = ['F', 'F'] := by
  decide

/-- Of the characters that become several, only the ligature becomes digits alone. -/
theorem upperSpecial_spec : ∀ entry ∈ upperSpecial,
    entry.1 = digitLigature.toNat ∨ ∃ code ∈ entry.2, Char.ofNat code ∉ hexDigits := by
  decide +kernel

/-- Apart from the Latin letters, no run leads to a digit: its first member already goes beyond
them, or it is a single character that becomes a letter behind `F`. -/
theorem upperRuns_spec : ∀ run ∈ upperRuns,
    run.first = 97 ∧ run.last = 122 ∧ run.distance = -32 ∨
    102 < run.first + run.distance ∨
    run.first = run.last ∧ 70 < run.first + run.distance ∧ run.first + run.distance < 97 := by
  decide +kernel

/-- **Only a digit or the ligature becomes digits** in upper case. -/
theorem mem_hexDigits_of_upperChar {c : Char} (h : ∀ d ∈ upperChar c, d ∈ hexDigits) :
    c ∈ hexDigits ∨ c = digitLigature := by
  unfold upperChar at h
  split at h
  · rename_i codes hlookup
    right
    obtain ⟨before, after, hsplit, -⟩ := List.lookup_eq_some_iff.1 hlookup
    have hmem : (c.toNat, codes) ∈ upperSpecial := by simp [hsplit]
    rcases upperSpecial_spec _ hmem with hc | ⟨code, hcode, hnot⟩
    · exact Char.toNat_inj.1 hc
    · exact absurd (h _ (List.mem_map_of_mem hcode)) hnot
  · left
    split at h
    · rename_i run hfind
      have hrun := range_of_ofNat_mem_hexDigits (h _ (List.mem_singleton_self _))
      have hcontains := List.find?_some hfind
      simp only [CaseRun.contains, Bool.and_eq_true, decide_eq_true_eq] at hcontains
      rcases upperRuns_spec run (List.mem_of_find?_eq_some hfind) with hlatin | hfar | hsingle
      · -- the letters from `a` to `f`
        have hletters : ∀ n < 103, 97 ≤ n → Char.ofNat n ∈ hexDigits := by decide
        rw [← Char.ofNat_toNat c]
        exact hletters _ (by omega) (by omega)
      · omega
      · omega
    · exact h c (List.mem_singleton_self c)

/-! ## Values -/

/-- What a character becomes on a tag: the ligature becomes two digits. -/
def tagDigits (c : Char) : List Char :=
  if c = digitLigature then ['F', 'F'] else [c.toUpper]

theorem upperChar_eq_tagDigits {c : Char} (h : c ∈ hexDigits ∨ c = digitLigature) :
    upperChar c = tagDigits c := by
  unfold tagDigits
  split
  · rename_i hc
    rw [hc, upperChar_digitLigature]
  · rename_i hc
    exact upperChar_of_mem_hexDigits c (h.resolve_right hc)

theorem mem_upperHexDigits_of_mem_tagDigits {c d : Char} (h : c ∈ hexDigits ∨ c = digitLigature)
    (hd : d ∈ tagDigits c) : d ∈ upperHexDigits := by
  unfold tagDigits at hd
  split at hd
  · obtain rfl : d = 'F' := by simpa using hd
    decide
  · rename_i hc
    obtain rfl := List.mem_singleton.1 hd
    exact toUpper_mem_upperHexDigits c (h.resolve_right hc)

theorem upperHexDigits_subset : upperHexDigits ⊆ hexDigits := by
  decide

/-- In upper case a text is made of digits exactly if it is made of digits and ligatures. -/
theorem forall_mem_upper_iff {s : List Char} :
    (∀ d ∈ upper s, d ∈ hexDigits) ↔ ∀ c ∈ s, c ∈ hexDigits ∨ c = digitLigature := by
  constructor
  · exact fun h c hc => mem_hexDigits_of_upperChar fun d hd => h d (List.mem_flatMap.2 ⟨c, hc, hd⟩)
  · intro h d hd
    obtain ⟨c, hc, hd⟩ := List.mem_flatMap.1 hd
    rw [upperChar_eq_tagDigits (h c hc)] at hd
    exact upperHexDigits_subset (mem_upperHexDigits_of_mem_tagDigits (h c hc) hd)

theorem upper_eq_flatMap {s : List Char} (h : ∀ c ∈ s, c ∈ hexDigits ∨ c = digitLigature) :
    upper s = s.flatMap tagDigits :=
  List.flatMap_congr fun c hc => upperChar_eq_tagDigits (h c hc)

theorem flatMap_tagDigits {s : List Char} (h : digitLigature ∉ s) :
    s.flatMap tagDigits = s.map Char.toUpper := by
  rw [List.map_eq_flatMap]
  refine List.flatMap_congr fun c hc => if_neg ?_
  rintro rfl
  exact h hc

theorem mem_dropBlanks_iff {c : Char} {s : List Char} :
    c ∈ dropBlanks s ↔ c ∈ s ∧ isBlank c = false := by
  simp [dropBlanks]

/-- The ligature is no blank, so it stays in a value. -/
theorem digitLigature_mem_dropBlanks_iff {s : List Char} :
    digitLigature ∈ dropBlanks s ↔ digitLigature ∈ s := by
  have hblank : isBlank digitLigature = false := by decide
  simp [mem_dropBlanks_iff, hblank]

/-! ## Lines -/

/-- The line writes the digits to the bank. -/
def WritesTo (scheme : RfidScheme) (bank : MemoryBank) (digits : List Char) (line : String) :
    Prop :=
  ∃ parameters, (scheme.access bank).write = some parameters ∧
    line = "^RFW," ++ parameters.render (String.ofList digits) ++ "^FD" ++ String.ofList digits
      ++ "^FS"

theorem upper_ne_nil_iff {s : List Char} (h : ∀ c ∈ s, c ∈ hexDigits ∨ c = digitLigature) :
    upper s ≠ [] ↔ s ≠ [] := by
  rw [upper_eq_flatMap h, ne_eq, ne_eq, not_iff_not, List.flatMap_eq_nil_iff]
  constructor
  · intro hnil
    refine List.eq_nil_iff_forall_not_mem.2 fun c hc => ?_
    have hdigits := hnil c hc
    unfold tagDigits at hdigits
    split at hdigits <;> cases hdigits
  · rintro rfl c hc
    cases hc

/-- A value is written if it has a character that is not blank, and all of those are digits or
ligatures. -/
theorem TagWrite.line?_eq_some_iff_tagDigits {scheme : RfidScheme} {write : TagWrite}
    {line : String} :
    write.line? scheme = some line ↔
      dropBlanks write.value.toList ≠ [] ∧
      (∀ c ∈ dropBlanks write.value.toList, c ∈ hexDigits ∨ c = digitLigature) ∧
      WritesTo scheme write.bank ((dropBlanks write.value.toList).flatMap tagDigits) line := by
  have hvalue : normalizeHex write.value = String.ofList (upper (dropBlanks write.value.toList)) :=
    rfl
  rw [line?_eq_some_iff, hvalue, ne_eq, String.ofList_eq_empty_iff, String.toList_ofList]
  simp only [isSome_hexDigit?_iff, forall_mem_upper_iff]
  generalize dropBlanks write.value.toList = s
  constructor
  · rintro ⟨hne, hall, hwrites⟩
    rw [upper_eq_flatMap hall] at hwrites
    exact ⟨(upper_ne_nil_iff hall).1 hne, hall, hwrites⟩
  · rintro ⟨hne, hall, hwrites⟩
    rw [← upper_eq_flatMap hall] at hwrites
    exact ⟨(upper_ne_nil_iff hall).2 hne, hall, hwrites⟩

/-- The line writes the value as it is given: blanks apart it is made of digits, and these are
written in upper case, one for each character. -/
structure AsGiven (scheme : RfidScheme) (write : TagWrite) (line : String) : Prop where
  digits : ∀ c ∈ write.value.toList, isBlank c = false → c ∈ hexDigits
  line : ∃ data, WritesTo scheme write.bank data line ∧
    data = (dropBlanks write.value.toList).map Char.toUpper ∧
    data.length = write.value.toList.countP (!isBlank ·)

/-- What is written for a value. -/
structure WritesDigits (scheme : RfidScheme) (write : TagWrite) : Prop where
  /-- A block for the value alone is its line, or nothing. -/
  block : writeBlock scheme [write] = (write.line? scheme).getD ""
  /-- The value is written if, blanks apart, there is something in it, all of it digits and
  ligatures, and if the bank can be written. -/
  line_iff : ∀ line, write.line? scheme = some line ↔
    dropBlanks write.value.toList ≠ [] ∧
    (∀ c ∈ dropBlanks write.value.toList, c ∈ hexDigits ∨ c = digitLigature) ∧
    WritesTo scheme write.bank ((dropBlanks write.value.toList).flatMap tagDigits) line
  /-- A written value is written as it is given exactly if it has no ligature. -/
  asGiven_iff : ∀ line, write.line? scheme = some line →
    (AsGiven scheme write line ↔ digitLigature ∉ write.value.toList)
  /-- A value with another character is skipped. -/
  skipped : ∀ c ∈ write.value.toList, isBlank c = false → c ∉ hexDigits → c ≠ digitLigature →
    write.line? scheme = none

/-- **Only hexadecimal digits are written, and as they are given**, except for values with the
ligature. -/
theorem writesDigits (scheme : RfidScheme) (write : TagWrite) : WritesDigits scheme write := by
  constructor
  case block =>
    cases hline : write.line? scheme <;> simp [writeBlock, joinLines, onNewLines, hline]
  case line_iff => exact fun line => TagWrite.line?_eq_some_iff_tagDigits
  case asGiven_iff =>
    intro line hline
    obtain ⟨-, hall, hwrites⟩ := TagWrite.line?_eq_some_iff_tagDigits.1 hline
    constructor
    · intro h hmem
      exact absurd (h.digits digitLigature hmem (by decide)) (by decide)
    · intro hnot
      rw [flatMap_tagDigits (mt digitLigature_mem_dropBlanks_iff.1 hnot)] at hwrites
      refine ⟨fun c hc hblank => ?_, _, hwrites, rfl, ?_⟩
      · refine (hall c (mem_dropBlanks_iff.2 ⟨hc, hblank⟩)).resolve_right ?_
        rintro rfl
        exact hnot hc
      · rw [List.length_map, dropBlanks, List.countP_eq_length_filter]
  case skipped =>
    intro c hc hblank hdigit hligature
    rw [Option.eq_none_iff_forall_ne_some]
    intro line hline
    obtain ⟨-, hall, -⟩ := TagWrite.line?_eq_some_iff_tagDigits.1 hline
    exact (hall c (mem_dropBlanks_iff.2 ⟨hc, hblank⟩)).elim hdigit hligature

/-- A value that is no hexadecimal number is written: the ligature becomes two digits. -/
theorem writesDigits_ligature :
    writeBlock .standard [⟨.epc, "\ufb00"⟩] = "^RFW,H,1,12^FDFF^FS" ∧
      ¬ ∀ scheme write line, write.line? scheme = some line → AsGiven scheme write line := by
  refine ⟨by decide +kernel, fun h => ?_⟩
  have hline : TagWrite.line? .standard ⟨.epc, "\ufb00"⟩ = some "^RFW,H,1,12^FDFF^FS" := by
    decide +kernel
  exact absurd ((h _ _ _ hline).digits digitLigature (by decide) (by decide)) (by decide)

end LabelPress
