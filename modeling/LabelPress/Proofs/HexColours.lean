import LabelPress.Colour
import LabelPress.Proofs.TagDigits

/-!
# Colours by hexadecimal digits

A colour that begins with `#` is spelled by three, six or eight hexadecimal digits in either case.
The reader takes one thing more: where a channel has two characters, the first may be a plus sign.

* `Colour.Spells`: which characters spell which colour, by what counts as a pair of them.
* `Colour.ofHex?_eq_some_iff`: the reader takes pairs of digits and **digits behind a sign**.
* `Colour.exists_spells_twoDigits_iff`: digits alone spell a colour if there are three, six or eight.
* `readsHex`: **a colour is what its digits spell**, exactly if no sign is among them.
-/

namespace LabelPress

open LabelPress.Number LabelPress.Text

/-! ## Digits in either case -/

theorem toLower_eq_self_or_lt (c : Char) : c.toLower = c ∨ c.toNat < 128 := by
  by_cases h : 'A'.val ≤ c.val ∧ c.val ≤ 'Z'.val
  · exact .inr (Nat.lt_of_le_of_lt (UInt32.le_iff_toNat_le.1 h.2) (by decide))
  · exact .inl (dif_neg h)

/-- A digit has the same value in lower case. -/
theorem hexDigit?_toLower (c : Char) : hexDigit? c.toLower = hexDigit? c := by
  have hascii : ∀ n < 128, hexDigit? (Char.ofNat n).toLower = hexDigit? (Char.ofNat n) := by
    decide
  rcases toLower_eq_self_or_lt c with hc | hc
  · rw [hc]
  · rw [← Char.ofNat_toNat c]
    exact hascii _ hc

theorem toLower_eq_plus_iff {c : Char} : c.toLower = '+' ↔ c = '+' := by
  have hascii : ∀ n < 128, (Char.ofNat n).toLower = '+' ↔ Char.ofNat n = '+' := by
    decide
  rcases toLower_eq_self_or_lt c with hc | hc
  · rw [hc]
  · rw [← Char.ofNat_toNat c]
    exact hascii _ hc

/-- The value of a digit is its place among the sixteen digits. -/
def HasValue (d : Char) (n : Nat) : Prop :=
  "0123456789abcdef".toList[n]? = some d ∨ "0123456789ABCDEF".toList[n]? = some d

theorem HasValue.lt {d : Char} {n : Nat} (h : HasValue d n) : n < 16 := by
  rcases h with h | h
  · exact (List.getElem?_eq_some_iff.1 h).1
  · exact (List.getElem?_eq_some_iff.1 h).1

theorem mem_hexDigits_iff {d : Char} : d ∈ hexDigits ↔ ∃ n, hexDigit? d = some n := by
  rw [← isSome_hexDigit?_iff, Option.isSome_iff_exists]

theorem hexDigit?_eq_some_iff {d : Char} {n : Nat} : hexDigit? d = some n ↔ HasValue d n := by
  constructor
  · intro h
    have hdigits : ∀ d ∈ hexDigits, ∀ n ∈ hexDigit? d, "0123456789abcdef".toList[n]? = some d ∨
        "0123456789ABCDEF".toList[n]? = some d :=
      List.all_iff_forall_prop.1 (by decide)
    exact hdigits d (mem_hexDigits_iff.2 ⟨n, h⟩) n h
  · intro h
    have hlower : ∀ digit ∈ "0123456789abcdef".toList.zipIdx, hexDigit? digit.1 = some digit.2 :=
      List.all_iff_forall_prop.1 (by decide)
    have hupper : ∀ digit ∈ "0123456789ABCDEF".toList.zipIdx, hexDigit? digit.1 = some digit.2 :=
      List.all_iff_forall_prop.1 (by decide)
    rcases h with h | h
    · exact hlower (d, n) (List.mk_mem_zipIdx_iff_getElem?.2 h)
    · exact hupper (d, n) (List.mk_mem_zipIdx_iff_getElem?.2 h)

theorem exists_hasValue_iff {d : Char} : (∃ n, HasValue d n) ↔ d ∈ hexDigits := by
  simp only [mem_hexDigits_iff, hexDigit?_eq_some_iff]

theorem ofNat_eq_iff {n : Nat} (h : n < 256) {x : UInt8} : UInt8.ofNat n = x ↔ x.toNat = n := by
  rw [← UInt8.toNat_inj, UInt8.toNat_ofNat', Nat.mod_eq_of_lt h, eq_comm]

namespace Colour

variable {d d₁ d₀ : Char} {x : UInt8} {digits : List Char} {c : Rgba}

/-! ## Channels -/

/-- A channel in one digit, which counts twice. -/
def OneDigit (d : Char) (x : UInt8) : Prop :=
  ∃ n, HasValue d n ∧ x.toNat = 17 * n

/-- A channel in two digits. -/
def TwoDigits (d₁ d₀ : Char) (x : UInt8) : Prop :=
  ∃ n₁ n₀, HasValue d₁ n₁ ∧ HasValue d₀ n₀ ∧ x.toNat = 16 * n₁ + n₀

/-- A channel in two characters: two digits, or a digit behind a sign. -/
def DigitsOrSign (d₁ d₀ : Char) (x : UInt8) : Prop :=
  TwoDigits d₁ d₀ x ∨ d₁ = '+' ∧ HasValue d₀ x.toNat

theorem oneDigit_iff : OneDigit d x ↔ ∃ n, hexDigit? d = some n ∧ UInt8.ofNat (17 * n) = x := by
  simp only [hexDigit?_eq_some_iff]
  refine exists_congr fun n => and_congr_right fun hn => ?_
  have hlt := hn.lt
  exact (ofNat_eq_iff (by omega)).symm

theorem natOfHex?_one (d : Char) : natOfHex? [d] = hexDigit? d := by
  simp [natOfHex?]

theorem natOfHex?_two (d₁ d₀ : Char) : natOfHex? [d₁, d₀] =
    (hexDigit? d₁).bind fun n₁ => (hexDigit? d₀).map fun n₀ => 16 * n₁ + n₀ := by
  simp [natOfHex?]

theorem map_ofNat_eq_some_iff {n? : Option Nat} (h : ∀ n ∈ n?, n < 256) :
    n?.map UInt8.ofNat = some x ↔ n? = some x.toNat := by
  rw [Option.map_eq_some_iff]
  constructor
  · rintro ⟨n, hn, hx⟩
    rw [(ofNat_eq_iff (h n hn)).1 hx, hn]
  · intro hx
    exact ⟨x.toNat, hx, UInt8.ofNat_toNat⟩

theorem natOfHex?_eq_some_iff : natOfHex? [d₁, d₀] = some x.toNat ↔ TwoDigits d₁ d₀ x := by
  rw [natOfHex?_two, Option.bind_eq_some_iff]
  simp only [Option.map_eq_some_iff, hexDigit?_eq_some_iff]
  constructor
  · rintro ⟨n₁, h₁, n₀, h₀, hx⟩
    exact ⟨n₁, n₀, h₁, h₀, hx.symm⟩
  · rintro ⟨n₁, n₀, h₁, h₀, hx⟩
    exact ⟨n₁, h₁, n₀, h₀, hx.symm⟩

theorem natOfHex?_lt {n : Nat} (h : natOfHex? [d₁, d₀] = some n) : n < 256 := by
  rw [natOfHex?_two, Option.bind_eq_some_iff] at h
  obtain ⟨n₁, h₁, h⟩ := h
  obtain ⟨n₀, h₀, rfl⟩ := Option.map_eq_some_iff.1 h
  have hlt₁ := (hexDigit?_eq_some_iff.1 h₁).lt
  have hlt₀ := (hexDigit?_eq_some_iff.1 h₀).lt
  omega

theorem not_twoDigits_plus : ¬ TwoDigits '+' d₀ x := by
  rintro ⟨n₁, n₀, h₁, -⟩
  exact absurd (exists_hasValue_iff.1 ⟨n₁, h₁⟩) (by decide)

theorem hexChannel?_eq_some_iff : hexChannel? [d₁, d₀] = some x ↔ DigitsOrSign d₁ d₀ x := by
  unfold DigitsOrSign
  by_cases hsign : d₁ = '+'
  · subst hsign
    have hlt : ∀ n ∈ natOfHex? [d₀], n < 256 := by
      intro n hn
      rw [natOfHex?_one] at hn
      have hdigit := (hexDigit?_eq_some_iff.1 hn).lt
      omega
    rw [hexChannel?, map_ofNat_eq_some_iff hlt, natOfHex?_one, hexDigit?_eq_some_iff]
    simp [not_twoDigits_plus]
  · have hpair : hexChannel? [d₁, d₀] = (natOfHex? [d₁, d₀]).map UInt8.ofNat := by
      unfold hexChannel?
      split
      · simp_all
      · rfl
    rw [hpair, map_ofNat_eq_some_iff fun n hn => natOfHex?_lt hn, natOfHex?_eq_some_iff]
    simp [hsign]

theorem hexChannel?_toLower : hexChannel? [d₁.toLower, d₀.toLower] = hexChannel? [d₁, d₀] := by
  refine Option.ext fun x => ?_
  rw [hexChannel?_eq_some_iff, hexChannel?_eq_some_iff]
  simp only [DigitsOrSign, TwoDigits, ← hexDigit?_eq_some_iff, hexDigit?_toLower,
    toLower_eq_plus_iff]

/-! ## Colours -/

/-- Characters that spell a colour: one for each channel, or a pair for each, and one more pair for
the opacity if it is not full. -/
inductive Spells (pair : Char → Char → UInt8 → Prop) : List Char → Rgba → Prop
  | three {r g b : Char} {x y z : UInt8} : OneDigit r x → OneDigit g y → OneDigit b z →
      Spells pair [r, g, b] ⟨x, y, z, 255⟩
  | six {r₁ r₀ g₁ g₀ b₁ b₀ : Char} {x y z : UInt8} : pair r₁ r₀ x → pair g₁ g₀ y → pair b₁ b₀ z →
      Spells pair [r₁, r₀, g₁, g₀, b₁, b₀] ⟨x, y, z, 255⟩
  | eight {r₁ r₀ g₁ g₀ b₁ b₀ a₁ a₀ : Char} {x y z a : UInt8} : pair r₁ r₀ x → pair g₁ g₀ y →
      pair b₁ b₀ z → pair a₁ a₀ a → Spells pair [r₁, r₀, g₁, g₀, b₁, b₀, a₁, a₀] ⟨x, y, z, a⟩

/-- **The reader takes digits and digits behind a sign**, and nothing else. -/
theorem ofHex?_eq_some_iff : ofHex? digits = some c ↔ Spells DigitsOrSign digits c := by
  constructor
  · intro h
    unfold ofHex? at h
    split at h
    · simp only [Option.bind_eq_bind, Option.bind_eq_some_iff] at h
      obtain ⟨x, hx, y, hy, z, hz, h⟩ := h
      cases h
      exact .three (oneDigit_iff.2 ⟨x, hx, rfl⟩) (oneDigit_iff.2 ⟨y, hy, rfl⟩)
        (oneDigit_iff.2 ⟨z, hz, rfl⟩)
    · simp only [Option.bind_eq_bind, Option.bind_eq_some_iff, hexChannel?_eq_some_iff] at h
      obtain ⟨x, hx, y, hy, z, hz, h⟩ := h
      cases h
      exact .six hx hy hz
    · simp only [Option.bind_eq_bind, Option.bind_eq_some_iff, hexChannel?_eq_some_iff] at h
      obtain ⟨x, hx, y, hy, z, hz, a, ha, h⟩ := h
      cases h
      exact .eight hx hy hz ha
    · cases h
  · intro h
    cases h with
    | three hr hg hb =>
      obtain ⟨x, hx, rfl⟩ := oneDigit_iff.1 hr
      obtain ⟨y, hy, rfl⟩ := oneDigit_iff.1 hg
      obtain ⟨z, hz, rfl⟩ := oneDigit_iff.1 hb
      rw [ofHex?, hx, hy, hz]
      rfl
    | six hr hg hb =>
      rw [ofHex?, hexChannel?_eq_some_iff.2 hr, hexChannel?_eq_some_iff.2 hg,
        hexChannel?_eq_some_iff.2 hb]
      rfl
    | eight hr hg hb ha =>
      rw [ofHex?, hexChannel?_eq_some_iff.2 hr, hexChannel?_eq_some_iff.2 hg,
        hexChannel?_eq_some_iff.2 hb, hexChannel?_eq_some_iff.2 ha]
      rfl

theorem ofHex?_lowerLatin (digits : List Char) : ofHex? (lowerLatin digits) = ofHex? digits := by
  unfold lowerLatin
  match digits with
  | [] => rfl
  | [_] => rfl
  | [_, _] => rfl
  | [r, g, b] => simp only [List.map_cons, List.map_nil, ofHex?, hexDigit?_toLower]
  | [_, _, _, _] => rfl
  | [_, _, _, _, _] => rfl
  | [_, _, _, _, _, _] => simp only [List.map_cons, List.map_nil, ofHex?, hexChannel?_toLower]
  | [_, _, _, _, _, _, _] => rfl
  | [_, _, _, _, _, _, _, _] => simp only [List.map_cons, List.map_nil, ofHex?, hexChannel?_toLower]
  | _ :: _ :: _ :: _ :: _ :: _ :: _ :: _ :: _ :: _ => rfl

/-! ## Digits alone -/

theorem exists_oneDigit_iff : (∃ x, OneDigit d x) ↔ d ∈ hexDigits := by
  rw [← exists_hasValue_iff]
  constructor
  · rintro ⟨x, n, hn, -⟩
    exact ⟨n, hn⟩
  · rintro ⟨n, hn⟩
    have hlt := hn.lt
    exact ⟨UInt8.ofNat (17 * n), n, hn, (ofNat_eq_iff (by omega)).1 rfl⟩

theorem exists_twoDigits_iff : (∃ x, TwoDigits d₁ d₀ x) ↔ d₁ ∈ hexDigits ∧ d₀ ∈ hexDigits := by
  rw [← exists_hasValue_iff, ← exists_hasValue_iff]
  constructor
  · rintro ⟨x, n₁, n₀, h₁, h₀, -⟩
    exact ⟨⟨n₁, h₁⟩, n₀, h₀⟩
  · rintro ⟨⟨n₁, h₁⟩, n₀, h₀⟩
    have hlt₁ := h₁.lt
    have hlt₀ := h₀.lt
    exact ⟨UInt8.ofNat (16 * n₁ + n₀), n₁, n₀, h₁, h₀, (ofNat_eq_iff (by omega)).1 rfl⟩

theorem Spells.mem_hexDigits (h : Spells TwoDigits digits c) : ∀ d ∈ digits, d ∈ hexDigits := by
  have hone : ∀ {d x}, OneDigit d x → d ∈ hexDigits := fun h => exists_oneDigit_iff.1 ⟨_, h⟩
  have htwo : ∀ {d₁ d₀ x}, TwoDigits d₁ d₀ x → d₁ ∈ hexDigits ∧ d₀ ∈ hexDigits :=
    fun h => exists_twoDigits_iff.1 ⟨_, h⟩
  cases h with
  | three hr hg hb => simp [hone hr, hone hg, hone hb]
  | six hr hg hb => simp [htwo hr, htwo hg, htwo hb]
  | eight hr hg hb ha => simp [htwo hr, htwo hg, htwo hb, htwo ha]

/-- **Digits alone spell a colour if there are three, six or eight of them.** -/
theorem exists_spells_twoDigits_iff : (∃ c, Spells TwoDigits digits c) ↔
    (digits.length = 3 ∨ digits.length = 6 ∨ digits.length = 8) ∧ ∀ d ∈ digits, d ∈ hexDigits := by
  constructor
  · rintro ⟨c, h⟩
    refine ⟨?_, h.mem_hexDigits⟩
    cases h <;> simp
  · rintro ⟨hlength, hall⟩
    have htwo : ∀ d₁ ∈ digits, ∀ d₀ ∈ digits, ∃ x, TwoDigits d₁ d₀ x :=
      fun d₁ h₁ d₀ h₀ => exists_twoDigits_iff.2 ⟨hall d₁ h₁, hall d₀ h₀⟩
    rcases hlength with hlength | hlength | hlength
    · obtain ⟨r, g, b, rfl⟩ := List.length_eq_three.1 hlength
      obtain ⟨x, hx⟩ := exists_oneDigit_iff.2 (hall r (by simp))
      obtain ⟨y, hy⟩ := exists_oneDigit_iff.2 (hall g (by simp))
      obtain ⟨z, hz⟩ := exists_oneDigit_iff.2 (hall b (by simp))
      exact ⟨_, .three hx hy hz⟩
    · match digits, hlength with
      | [r₁, r₀, g₁, g₀, b₁, b₀], _ =>
        obtain ⟨x, hx⟩ := htwo r₁ (by simp) r₀ (by simp)
        obtain ⟨y, hy⟩ := htwo g₁ (by simp) g₀ (by simp)
        obtain ⟨z, hz⟩ := htwo b₁ (by simp) b₀ (by simp)
        exact ⟨_, .six hx hy hz⟩
    · match digits, hlength with
      | [r₁, r₀, g₁, g₀, b₁, b₀, a₁, a₀], _ =>
        obtain ⟨x, hx⟩ := htwo r₁ (by simp) r₀ (by simp)
        obtain ⟨y, hy⟩ := htwo g₁ (by simp) g₀ (by simp)
        obtain ⟨z, hz⟩ := htwo b₁ (by simp) b₀ (by simp)
        obtain ⟨a, ha⟩ := htwo a₁ (by simp) a₀ (by simp)
        exact ⟨_, .eight hx hy hz ha⟩

theorem DigitsOrSign.twoDigits (h : DigitsOrSign d₁ d₀ x) (hsign : '+' ≠ d₁) : TwoDigits d₁ d₀ x :=
  h.resolve_right fun hplus => hsign hplus.1.symm

/-- Without a sign, pairs are pairs of digits. -/
theorem spells_twoDigits_iff :
    Spells TwoDigits digits c ↔ Spells DigitsOrSign digits c ∧ '+' ∉ digits := by
  constructor
  · intro h
    refine ⟨?_, fun hplus => absurd (h.mem_hexDigits _ hplus) (by decide)⟩
    cases h with
    | three hr hg hb => exact .three hr hg hb
    | six hr hg hb => exact .six (.inl hr) (.inl hg) (.inl hb)
    | eight hr hg hb ha => exact .eight (.inl hr) (.inl hg) (.inl hb) (.inl ha)
  · rintro ⟨h, hplus⟩
    cases h with
    | three hr hg hb => exact .three hr hg hb
    | six hr hg hb =>
      simp only [List.mem_cons, not_or] at hplus
      obtain ⟨hr₁, -, hg₁, -, hb₁, -⟩ := hplus
      exact .six (hr.twoDigits hr₁) (hg.twoDigits hg₁) (hb.twoDigits hb₁)
    | eight hr hg hb ha =>
      simp only [List.mem_cons, not_or] at hplus
      obtain ⟨hr₁, -, hg₁, -, hb₁, -, ha₁, -⟩ := hplus
      exact .eight (hr.twoDigits hr₁) (hg.twoDigits hg₁) (hb.twoDigits hb₁) (ha.twoDigits ha₁)

/-! ## Texts -/

variable {text : String}

theorem parse?_hash (h : trimChars text.toList = '#' :: digits) : parse? text = ofHex? digits := by
  have hlower : lowerLatin (trimChars text.toList) = '#' :: lowerLatin digits := by
    rw [h]
    rfl
  rw [parse?, hlower]
  exact ofHex?_lowerLatin digits

/-- How a text is read as a colour in which `digits` follow on `#`. -/
structure ReadsHex (text : String) (digits : List Char) : Prop where
  /-- The text is a colour exactly if digits spell it; of two for a channel, the first may be a plus
  sign. -/
  parse_iff : ∀ c, parse? text = some c ↔ Spells DigitsOrSign digits c
  /-- Digits alone spell a colour if there are three, six or eight of them. -/
  wellFormed_iff : (∃ c, Spells TwoDigits digits c) ↔
    (digits.length = 3 ∨ digits.length = 6 ∨ digits.length = 8) ∧ ∀ d ∈ digits, d ∈ hexDigits
  /-- The text is read as its digits alone spell it, unless it has a sign and is a colour all the
  same. -/
  exact_iff : (∀ c, parse? text = some c ↔ Spells TwoDigits digits c) ↔
    ¬ ('+' ∈ digits ∧ ∃ c, Spells DigitsOrSign digits c)
  /-- The text fills a shape if it is a dark colour that is at least half opaque. -/
  dark_iff : isDarkFill (some text) = true ↔
    ∃ c, Spells DigitsOrSign digits c ∧ 128 ≤ c.alpha ∧ c.isDark = true
  /-- Digits alone spell this colour exactly if there is no sign. -/
  dark_exact_iff : isDarkFill (some text) = true →
    ((∃ c, Spells TwoDigits digits c ∧ 128 ≤ c.alpha ∧ c.isDark = true) ↔ '+' ∉ digits)

/-- **A colour is what its digits spell**, exactly if no sign is among them. -/
theorem readsHex (h : trimChars text.toList = '#' :: digits) : ReadsHex text digits := by
  have hparse : ∀ c, parse? text = some c ↔ Spells DigitsOrSign digits c := by
    intro c
    rw [parse?_hash h, ofHex?_eq_some_iff]
  have hdark : isDarkFill (some text) = true ↔
      ∃ c, Spells DigitsOrSign digits c ∧ 128 ≤ c.alpha ∧ c.isDark = true := by
    simp only [← hparse]
    unfold isDarkFill
    cases hcolour : parse? text with
    | none => simp [hcolour]
    | some c => simp [hcolour]
  constructor
  case parse_iff => exact hparse
  case wellFormed_iff => exact exists_spells_twoDigits_iff
  case exact_iff =>
    simp only [hparse, spells_twoDigits_iff]
    constructor
    · rintro hexact ⟨hplus, c, hc⟩
      exact ((hexact c).1 hc).2 hplus
    · intro hnot c
      exact ⟨fun hc => ⟨hc, fun hplus => hnot ⟨hplus, c, hc⟩⟩, And.left⟩
  case dark_iff => exact hdark
  case dark_exact_iff =>
    intro hfill
    obtain ⟨c, hc, hfill⟩ := hdark.1 hfill
    constructor
    · rintro ⟨c, hc, -⟩
      exact (spells_twoDigits_iff.1 hc).2
    · intro hplus
      exact ⟨c, spells_twoDigits_iff.2 ⟨hc, hplus⟩, hfill⟩

/-- Blanks around the text and the case of the digits do not matter. -/
theorem readsHex_blank :
    trimChars " #1aF ".toList = ['#', '1', 'a', 'F'] ∧ ReadsHex " #1aF " ['1', 'a', 'F'] := by
  have htrim : trimChars " #1aF ".toList = ['#', '1', 'a', 'F'] := by decide
  exact ⟨htrim, readsHex htrim⟩

/-- A text that is no colour fills a shape: digits behind signs are read as black. -/
theorem readsHex_signs : isDarkFill (some "#+0+0+0") = true ∧
    ¬ ∀ text digits, trimChars text.toList = '#' :: digits →
      ∀ c, parse? text = some c ↔ Spells TwoDigits digits c := by
  refine ⟨by decide +kernel, fun h => ?_⟩
  have hcolour : parse? "#+0+0+0" = some ⟨0, 0, 0, 255⟩ := by decide
  have hspells := (h "#+0+0+0" "+0+0+0".toList (by decide) _).1 hcolour
  exact absurd (hspells.mem_hexDigits '+' (by decide)) (by decide)

end Colour

end LabelPress
