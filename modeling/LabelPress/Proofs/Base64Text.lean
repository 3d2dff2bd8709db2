import LabelPress.Image.Base64
import Mathlib.Data.List.Forall2
import Mathlib.Data.List.Basic
import Mathlib.Data.Nat.Bitwise

/-!
# Base 64 as bits

The bits of the bytes are cut into sixes, the last six are filled up with zeros, and padding fills
the text up to groups of four digits (`Spells`). That leaves no choice, so bytes have one text.

* `bits_add`: the bits of a number are those of its two parts, wherever it is cut.
* `bits_sextets`: the digits that are written hold the bits of the bytes.
* `Spells.unique`: bytes are spelled in one way.
* `spells_iff`: **the text that is written is the one that spells the bytes**.
-/

namespace LabelPress.Base64

/-! ## Bits -/

/-- The last bits of a number, the most significant one first. -/
def bits : (width n : Nat) → List Bool
  | 0, _ => []
  | width + 1, n => n.testBit width :: bits width n

theorem length_bits (width n : Nat) : (bits width n).length = width := by
  induction width with
  | zero => rfl
  | succ width ih => rw [bits, List.length_cons, ih]

theorem bits_eq_iff {width m n : Nat} :
    bits width m = bits width n ↔ ∀ i < width, m.testBit i = n.testBit i := by
  induction width with
  | zero => exact ⟨fun _ i hi => absurd hi (Nat.not_lt_zero i), fun _ => rfl⟩
  | succ width ih =>
    rw [bits, bits, List.cons_eq_cons, ih, Nat.forall_lt_succ_right, and_comm]

/-- Cut anywhere, a number has the bits of its two parts. -/
theorem bits_add (m n x : Nat) {y : Nat} (hy : y < 2 ^ n) :
    bits (m + n) (2 ^ n * x + y) = bits m x ++ bits n y := by
  induction m with
  | zero =>
    rw [Nat.zero_add, bits, List.nil_append, bits_eq_iff]
    intro i hi
    rw [Nat.testBit_two_pow_mul_add x hy, if_pos hi]
  | succ m ih =>
    rw [Nat.succ_add, bits, ih, bits, Nat.testBit_two_pow_mul_add x hy, if_neg (by omega),
      Nat.add_sub_cancel, List.cons_append]

theorem bits_inj {width m n : Nat} (hm : m < 2 ^ width) (hn : n < 2 ^ width)
    (h : bits width m = bits width n) : m = n := by
  refine Nat.eq_of_testBit_eq fun i => ?_
  rcases Nat.lt_or_ge i width with hi | hi
  · exact bits_eq_iff.1 h i hi
  · have hpow := Nat.pow_le_pow_right Nat.two_pos hi
    rw [Nat.testBit_lt_two_pow (hm.trans_le hpow), Nat.testBit_lt_two_pow (hn.trans_le hpow)]

/-- Numbers of one width can be read back from their bits. -/
theorem flatMap_bits_inj {width : Nat} {xs ys : List Nat} (hx : ∀ x ∈ xs, x < 2 ^ width)
    (hy : ∀ y ∈ ys, y < 2 ^ width) (hlength : xs.length = ys.length)
    (h : xs.flatMap (bits width) = ys.flatMap (bits width)) : xs = ys := by
  induction xs generalizing ys with
  | nil => exact (List.length_eq_zero_iff.1 hlength.symm).symm
  | cons x xs ih =>
    cases ys with
    | nil => cases hlength
    | cons y ys =>
      rw [List.forall_mem_cons] at hx hy
      rw [List.flatMap_cons, List.flatMap_cons] at h
      obtain ⟨hfirst, hrest⟩ := List.append_inj h (by rw [length_bits, length_bits])
      rw [bits_inj hx.1 hy.1 hfirst, ih hx.2 hy.2 (Nat.succ.inj hlength) hrest]

theorem length_flatMap_bits (width : Nat) (xs : List Nat) :
    (xs.flatMap (bits width)).length = width * xs.length := by
  induction xs with
  | nil => rfl
  | cons x xs ih =>
    rw [List.flatMap_cons, List.length_append, length_bits, ih, List.length_cons, Nat.mul_succ,
      Nat.add_comm]

/-! ## Digits -/

/-- The digits in the order of their values. -/
def alphabet : List Char :=
  "ABCDEFGHIJKLMNOPQRSTUVWXYZabcdefghijklmnopqrstuvwxyz0123456789+/".toList

/-- The characters with these bytes. -/
def chars (bytes : Bytes) : List Char := bytes.map fun b => Char.ofNat b.toNat

theorem forall_uint8 {p : UInt8 → Prop} (bound : Nat) (h : ∀ n < bound, p (UInt8.ofNat n))
    {x : UInt8} (hx : x.toNat < bound) : p x := by
  have hp := h x.toNat hx
  rwa [UInt8.ofNat_toNat] at hp

theorem alphabet_digit {n : UInt8} (hn : n.toNat < 64) :
    alphabet[n.toNat]? = some (Char.ofNat (digit n).toNat) :=
  forall_uint8 (p := fun n => alphabet[n.toNat]? = some (Char.ofNat (digit n).toNat)) 64
    (by decide +kernel) hn

theorem value?_digit {n : UInt8} (hn : n.toNat < 64) : value? (digit n) = some n :=
  forall_uint8 (p := fun n => value? (digit n) = some n) 64 (by decide) hn

theorem digit_ne_padding {n : UInt8} (hn : n.toNat < 64) : digit n ≠ padding :=
  forall_uint8 (p := fun n => digit n ≠ padding) 64 (by decide) hn

theorem value?_eq_some_iff {c n : UInt8} : value? c = some n ↔ n.toNat < 64 ∧ c = digit n := by
  constructor
  · have hvalues : ∀ n < 256, ∀ v ∈ value? (UInt8.ofNat n), v.toNat < 64 ∧
        UInt8.ofNat n = digit v := by
      decide +kernel
    exact fun h => forall_uint8 (p := fun c => ∀ v ∈ value? c, v.toNat < 64 ∧ c = digit v) 256
      hvalues c.toNat_lt n h
  · rintro ⟨hn, rfl⟩
    exact value?_digit hn

/-! ## Values -/

section Values

variable (a b : UInt8)

/-- The value of the first digit for a group of bytes. -/
def first : UInt8 := a / 4

/-- The value of the second digit, for the first two bytes. -/
def second : UInt8 := a % 4 * 16 + b / 16

/-- The value of the third digit, for the last two bytes. -/
def third : UInt8 := a % 16 * 4 + b / 64

/-- The value of the fourth digit, for the last byte. -/
def fourth : UInt8 := a % 64

theorem toNat_first : (first a).toNat = a.toNat / 4 := by
  rw [first, UInt8.toNat_div]
  rfl

theorem toNat_second : (second a b).toNat = 2 ^ 4 * (a.toNat % 4) + b.toNat / 16 := by
  have hb := b.toNat_lt
  simp only [second, UInt8.toNat_add, UInt8.toNat_mul, UInt8.toNat_div, UInt8.toNat_mod,
    UInt8.reduceToNat]
  omega

theorem toNat_third : (third a b).toNat = 2 ^ 2 * (a.toNat % 16) + b.toNat / 64 := by
  have hb := b.toNat_lt
  simp only [third, UInt8.toNat_add, UInt8.toNat_mul, UInt8.toNat_div, UInt8.toNat_mod,
    UInt8.reduceToNat]
  omega

theorem toNat_fourth : (fourth a).toNat = a.toNat % 64 := by
  rw [fourth, UInt8.toNat_mod]
  rfl

theorem second_zero : second a 0 = a % 4 * 16 := UInt8.add_zero _

theorem third_zero : third a 0 = a % 16 * 4 := UInt8.add_zero _

theorem first_lt : (first a).toNat < 64 := by
  have ha := a.toNat_lt
  rw [toNat_first]
  omega

theorem second_lt : (second a b).toNat < 64 := by
  have hb := b.toNat_lt
  rw [toNat_second]
  omega

theorem third_lt : (third a b).toNat < 64 := by
  have hb := b.toNat_lt
  rw [toNat_third]
  omega

theorem fourth_lt : (fourth a).toNat < 64 := by
  rw [toNat_fourth]
  exact Nat.mod_lt _ (by decide)

end Values

/-- The values of the digits of a text. What the last group lacks counts as zero. -/
def sextets : Bytes → List UInt8
  | a :: b :: c :: bytes => first a :: second a b :: third b c :: fourth c :: sextets bytes
  | [a, b] => [first a, second a b, third b 0]
  | [a] => [first a, second a 0]
  | [] => []

/-- The number of padding characters. -/
def padCount (bytes : Bytes) : Nat := (3 - bytes.length % 3) % 3

theorem padCount_group (a b c : UInt8) (bytes : Bytes) :
    padCount (a :: b :: c :: bytes) = padCount bytes := by
  unfold padCount
  rw [List.length_cons, List.length_cons, List.length_cons]
  omega

theorem encode_eq (bytes : Bytes) :
    encode bytes = (sextets bytes).map digit ++ List.replicate (padCount bytes) padding := by
  induction bytes using sextets.induct with
  | case1 a b c bytes ih =>
    rw [encode, ih, sextets, padCount_group]
    rfl
  | case2 a b =>
    rw [sextets, third_zero]
    rfl
  | case3 a =>
    rw [sextets, second_zero]
    rfl
  | case4 => rfl

theorem lt_of_mem_sextets (bytes : Bytes) : ∀ v ∈ sextets bytes, v.toNat < 64 := by
  induction bytes using sextets.induct with
  | case1 a b c bytes ih =>
    simp only [sextets, List.forall_mem_cons]
    exact ⟨first_lt a, second_lt a b, third_lt b c, fourth_lt c, ih⟩
  | case2 a b =>
    simp only [sextets, List.forall_mem_cons]
    exact ⟨first_lt a, second_lt a b, third_lt b 0, List.forall_mem_nil _⟩
  | case3 a =>
    simp only [sextets, List.forall_mem_cons]
    exact ⟨first_lt a, second_lt a 0, List.forall_mem_nil _⟩
  | case4 => exact List.forall_mem_nil _

theorem length_sextets (bytes : Bytes) :
    3 * (sextets bytes).length + 3 * padCount bytes = 4 * (bytes.length + padCount bytes) := by
  induction bytes using sextets.induct with
  | case1 a b c bytes ih =>
    rw [padCount_group, sextets]
    simp only [List.length_cons]
    omega
  | case2 a b => rfl
  | case3 a => rfl
  | case4 => rfl

/-! ## Bits of the digits -/

/-- A number cut in two. -/
theorem bits_cut (m n x : Nat) : bits (m + n) x = bits m (x / 2 ^ n) ++ bits n (x % 2 ^ n) := by
  rw [← bits_add m n (x / 2 ^ n) (Nat.mod_lt x (Nat.two_pow_pos n)), Nat.div_add_mod]

section Bits

variable (a b c : UInt8)

/-- The first digit has six bits of the first byte, and the second digit the two others and four of
the second byte. -/
theorem bits_first_second : bits 6 (first a).toNat ++ bits 6 (second a b).toNat =
    bits 8 a.toNat ++ bits 4 (b.toNat / 16) := by
  have hb : b.toNat / 16 < 2 ^ 4 := Nat.div_lt_of_lt_mul b.toNat_lt
  have hdigit : bits 6 (2 ^ 4 * (a.toNat % 4) + b.toNat / 16) =
      bits 2 (a.toNat % 4) ++ bits 4 (b.toNat / 16) := bits_add 2 4 _ hb
  have hbyte : bits 8 a.toNat = bits 6 (a.toNat / 4) ++ bits 2 (a.toNat % 4) := bits_cut 6 2 _
  rw [toNat_first, toNat_second, hdigit, hbyte, List.append_assoc]

/-- The third digit has the other four bits of the second byte and two of the third. -/
theorem bits_third : bits 4 (b.toNat / 16) ++ bits 6 (third b c).toNat =
    bits 8 b.toNat ++ bits 2 (c.toNat / 64) := by
  have hc : c.toNat / 64 < 2 ^ 2 := Nat.div_lt_of_lt_mul c.toNat_lt
  have hdigit : bits 6 (2 ^ 2 * (b.toNat % 16) + c.toNat / 64) =
      bits 4 (b.toNat % 16) ++ bits 2 (c.toNat / 64) := bits_add 4 2 _ hc
  have hbyte : bits 8 b.toNat = bits 4 (b.toNat / 16) ++ bits 4 (b.toNat % 16) := bits_cut 4 4 _
  rw [toNat_third, hdigit, hbyte, List.append_assoc]

/-- The fourth digit has the other six bits of the third byte. -/
theorem bits_fourth : bits 2 (c.toNat / 64) ++ bits 6 (fourth c).toNat = bits 8 c.toNat := by
  rw [toNat_fourth]
  exact (bits_cut 2 6 _).symm

end Bits

/-- The digits hold the bits of the bytes and then zeros, two for each padding character. -/
theorem bits_sextets (bytes : Bytes) : ((sextets bytes).map UInt8.toNat).flatMap (bits 6) =
    (bytes.map UInt8.toNat).flatMap (bits 8) ++ List.replicate (2 * padCount bytes) false := by
  induction bytes using sextets.induct with
  | case1 a b c bytes ih =>
    simp only [sextets, List.map_cons, List.flatMap_cons, ih, padCount_group, ← List.append_assoc]
    rw [bits_first_second, List.append_assoc (bits 8 _), bits_third, ← List.append_assoc,
      List.append_assoc _ (bits 2 _), bits_fourth]
  | case2 a b =>
    simp only [sextets, List.map_cons, List.flatMap_cons, ← List.append_assoc]
    rw [bits_first_second, List.append_assoc (bits 8 _), bits_third, ← List.append_assoc]
    rfl
  | case3 a =>
    simp only [sextets, List.map_cons, List.flatMap_cons, ← List.append_assoc]
    rw [bits_first_second]
    rfl
  | case4 => rfl

/-! ## The text of bytes -/

/-- The text spells the bytes by these digits with these values, by zero bits after those of the
bytes and by padding. -/
structure Spelling (bytes : Bytes) (text : List Char) (values : List Nat) (digits : List Char)
    (zeros pads : Nat) : Prop where
  digits_eq : values.map (alphabet[·]?) = digits.map some
  bits_eq : values.flatMap (bits 6) =
    (bytes.map UInt8.toNat).flatMap (bits 8) ++ List.replicate zeros false
  zeros_lt : zeros < 6
  text_eq : text = digits ++ List.replicate pads '='
  pads_lt : pads < 4
  groups : 4 ∣ text.length

/-- The text is that of the bytes in base 64: their bits, six to a digit, the last digit filled up
with zeros and the text with padding, to whole groups of four. -/
def Spells (bytes : Bytes) (text : List Char) : Prop :=
  ∃ values digits zeros pads, Spelling bytes text values digits zeros pads

variable {bytes : Bytes} {text text' digits : List Char} {values : List Nat} {zeros pads : Nat}

theorem Spelling.lt_of_mem (h : Spelling bytes text values digits zeros pads) :
    ∀ n ∈ values, n < 2 ^ 6 := by
  intro n hn
  have hmem := List.mem_map_of_mem (f := (alphabet[·]?)) hn
  rw [h.digits_eq, List.mem_map] at hmem
  obtain ⟨c, -, hc⟩ := hmem
  exact (List.getElem?_eq_some_iff.1 hc.symm).1

/-- Nothing about a spelling is left open. -/
theorem Spells.unique (h : Spells bytes text) (h' : Spells bytes text') : text = text' := by
  obtain ⟨values, digits, zeros, pads, h⟩ := h
  obtain ⟨values', digits', zeros', pads', h'⟩ := h'
  have hlength := congrArg List.length h.bits_eq
  have hlength' := congrArg List.length h'.bits_eq
  have hzeros := h.zeros_lt
  have hzeros' := h'.zeros_lt
  rw [length_flatMap_bits, List.length_append, length_flatMap_bits, List.length_replicate]
    at hlength hlength'
  have hbits : values.flatMap (bits 6) = values'.flatMap (bits 6) := by
    rw [h.bits_eq, h'.bits_eq, show zeros = zeros' by omega]
  have hvalues := flatMap_bits_inj h.lt_of_mem h'.lt_of_mem (by omega) hbits
  have hdigits : digits = digits' := by
    have hsome := h.digits_eq.symm.trans ((congrArg _ hvalues).trans h'.digits_eq)
    exact List.map_injective_iff.2 (Option.some_injective Char) hsome
  have hpads : pads = pads' := by
    have hgroups := h.groups
    have hgroups' := h'.groups
    have hlt := h.pads_lt
    have hlt' := h'.pads_lt
    rw [h.text_eq, List.length_append, List.length_replicate] at hgroups
    rw [h'.text_eq, List.length_append, List.length_replicate, ← hdigits] at hgroups'
    omega
  rw [h.text_eq, h'.text_eq, hdigits, hpads]

/-- The text that is written spells the bytes. -/
theorem spells_encode (bytes : Bytes) : Spells bytes (chars (encode bytes)) := by
  refine ⟨(sextets bytes).map UInt8.toNat, chars ((sextets bytes).map digit), 2 * padCount bytes,
    padCount bytes, ?_⟩
  have hpads : padCount bytes < 3 := Nat.mod_lt _ (by decide)
  constructor
  case digits_eq =>
    rw [chars, List.map_map, List.map_map, List.map_map]
    exact List.map_congr_left fun v hv => alphabet_digit (lt_of_mem_sextets bytes v hv)
  case bits_eq => exact bits_sextets bytes
  case zeros_lt => omega
  case text_eq =>
    rw [encode_eq, chars, List.map_append, List.map_replicate]
    rfl
  case pads_lt => omega
  case groups =>
    have hlength := length_sextets bytes
    rw [chars, List.length_map, encode_eq, List.length_append, List.length_map,
      List.length_replicate]
    omega

/-- **The text that is written is the one that spells the bytes.** -/
theorem spells_iff : Spells bytes text ↔ text = chars (encode bytes) :=
  ⟨fun h => h.unique (spells_encode bytes), fun h => h ▸ spells_encode bytes⟩

end LabelPress.Base64
