import LabelPress.Image.Bitmap
import Mathlib.Data.List.FinRange
import Mathlib.Data.Nat.Bitwise

/-!
# What a bitmap says of a picture

A bitmap is packed row by row, and each reader of it finds a dot by its place again. Here the bytes
are tied to the dots they were made of, for pictures of any size.

* `testBit_packByte`: a byte has the dots it was packed from, by induction on how many of them are
  in it.
* `bit?_ofDots`: **the bits of a bitmap are its dots**, and zero behind the last dot of a row.
* `toList_data_ofDots`: the bytes are those of the packed rows, one row after the other.
* `bytesOfHex?_flatMap_hexByte`: the digits of the bytes read back as the bytes.
* `encodesInk_ofPixels`: **the bitmap of a picture says which pixels print**, and nothing else.
-/

namespace LabelPress

open LabelPress.Number

/-! ## Bytes -/

/-- The number whose binary digits are the first `n` dots, the first one leading. -/
def leadingDots (dot : Nat → Bool) : Nat → Nat
  | 0 => 0
  | n + 1 => Nat.bit (dot n) (leadingDots dot n)

theorem leadingDots_lt (dot : Nat → Bool) (n : Nat) : leadingDots dot n < 2 ^ n := by
  induction n with
  | zero => exact Nat.one_pos
  | succ n ih =>
    have hbit := Bool.toNat_le (dot n)
    rw [leadingDots, Nat.bit_val, Nat.pow_succ]
    omega

/-- Dot `k` of `n` has `n - 1 - k` dots behind it. -/
theorem testBit_leadingDots (dot : Nat → Bool) {n k : Nat} (hk : k < n) :
    (leadingDots dot n).testBit (n - 1 - k) = dot k := by
  induction n with
  | zero => omega
  | succ n ih =>
    rw [leadingDots]
    by_cases hlast : k = n
    · subst hlast
      rw [Nat.add_sub_cancel, Nat.sub_self, Nat.testBit_bit_zero]
    · have hplace : n + 1 - 1 - k = (n - 1 - k) + 1 := by omega
      rw [hplace, Nat.testBit_bit_succ, ih (by omega)]

theorem toNat_foldl_dots (dot : Nat → Bool) {n : Nat} (hn : n ≤ 8) :
    ((List.range n).foldl (fun byte k => 2 * byte + if dot k then 1 else 0) (0 : UInt8)).toNat =
      leadingDots dot n := by
  induction n with
  | zero => rfl
  | succ n ih =>
    have hlt := leadingDots_lt dot (n + 1)
    have hpow : 2 ^ (n + 1) ≤ 2 ^ 8 := Nat.pow_le_pow_right (by decide) hn
    have hdot : (if dot n then 1 else 0 : UInt8).toNat = (dot n).toNat := by
      cases dot n <;> rfl
    -- as long as there are no more than eight, no dot is pushed out of the byte
    rw [leadingDots, Nat.bit_val] at hlt ⊢
    rw [List.range_succ, List.foldl_append, List.foldl_cons, List.foldl_nil, UInt8.toNat_add,
      UInt8.toNat_mul, ih (by omega), hdot]
    have htwo : (2 : UInt8).toNat = 2 := rfl
    rw [htwo]
    omega

/-- **A byte has the dots it was packed from.** -/
theorem testBit_packByte (dot : Nat → Bool) {k : Nat} (hk : k < 8) :
    (packByte dot).toNat.testBit (7 - k) = dot k := by
  rw [packByte, toNat_foldl_dots dot (Nat.le_refl 8)]
  exact testBit_leadingDots dot hk

theorem packByte_congr {f g : Nat → Bool} (h : ∀ k < 8, f k = g k) : packByte f = packByte g := by
  unfold packByte
  refine List.foldl_ext _ _ _ fun byte k hk => ?_
  rw [h k (List.mem_range.1 hk)]

/-! ## Grids -/

theorem ofFn_val {α : Type} (n : Nat) (f : Nat → α) :
    List.ofFn (fun i : Fin n => f i) = (List.range n).map f := by
  rw [List.ofFn_eq_map, ← List.map_coe_finRange_eq_range, List.map_map]
  rfl

/-- A grid given by places, row by row. -/
theorem ofFn_grid {α : Type} (width height : Nat) (f : (x y : Nat) → α) :
    List.ofFn (fun i : Fin (width * height) => f (i % width) (i / width)) =
      (List.range height).flatMap fun y => (List.range width).map fun x => f x y := by
  rw [List.ofFn_mul', List.flatMap_def, ← ofFn_val]
  refine congrArg List.flatten (congrArg List.ofFn (funext fun y => ?_))
  rw [← ofFn_val]
  refine congrArg List.ofFn (funext fun x => ?_)
  show f ((width * y + x) % width) ((width * y + x) / width) = f x y
  rw [Nat.mul_comm width y, rowMajor_div x.isLt, rowMajor_mod x.isLt]

/-! ## Rows of bytes -/

theorem bytesFor_eq (dots : Nat) : bytesFor dots = (dots + 7) / 8 := rfl

theorem div_lt_bytesFor {x width : Nat} (hx : x < width) : x / 8 < bytesFor width := by
  unfold bytesFor
  omega

namespace Bitmap

variable {width height : Nat} {dot : (x y : Nat) → Bool}

/-- The bit for the dot in column `x` of row `y`, in rows of `rowBytes` bytes. -/
def bit? (bytes : List UInt8) (rowBytes x y : Nat) : Option Bool :=
  bytes[y * rowBytes + x / 8]?.map fun byte => byte.toNat.testBit (7 - x % 8)

theorem length_data_ofDots (width height : Nat) (dot : (x y : Nat) → Bool) :
    (ofDots width height dot).data.toList.length = bytesFor width * height := by
  simp [ofDots]

theorem getElem?_data_ofDots {j y : Nat} (hj : j < bytesFor width) (hy : y < height) :
    (ofDots width height dot).data[y * bytesFor width + j]? =
      some (packByte fun k => 8 * j + k < width && dot (8 * j + k) y) := by
  rw [ofDots, Array.getElem?_ofFn, dif_pos (rowMajor_lt hj hy)]
  simp only [rowMajor_div hj, rowMajor_mod hj]

/-- **The bits of a bitmap are its dots**, and zero behind the last dot of a row. -/
theorem bit?_ofDots {x y : Nat} (hx : x < 8 * bytesFor width) (hy : y < height) :
    bit? (ofDots width height dot).data.toList (bytesFor width) x y =
      some (x < width && dot x y) := by
  have hbit : x % 8 < 8 := Nat.mod_lt x (by decide)
  rw [bit?, Array.getElem?_toList, getElem?_data_ofDots (by omega) hy, Option.map_some,
    testBit_packByte _ hbit, Nat.div_add_mod]

/-- **The bytes are those of the packed rows**, from the top to the bottom. -/
theorem toList_data_ofDots (width height : Nat) (dot : (x y : Nat) → Bool) :
    (ofDots width height dot).data.toList =
      (List.range height).flatMap fun y => packRow (Array.ofFn (n := width) fun x => dot x y) := by
  rw [ofDots, Array.toList_ofFn,
    ofFn_grid _ _ fun j y => packByte fun k => 8 * j + k < width && dot (8 * j + k) y]
  refine List.flatMap_congr fun y _ => ?_
  rw [packRow, Array.size_ofFn]
  refine List.map_congr_left fun j _ => packByte_congr fun k _ => ?_
  by_cases hx : 8 * j + k < width
  · simp [hx]
  · simp [hx]

theorem ofDots_congr {f g : (x y : Nat) → Bool}
    (h : ∀ x y, x < width → y < height → f x y = g x y) :
    ofDots width height f = ofDots width height g := by
  rw [ofDots, ofDots, mk.injEq]
  refine ⟨rfl, rfl, congrArg Array.ofFn (funext fun i => packByte_congr fun k _ => ?_)⟩
  have hy : i / bytesFor width < height := Nat.div_lt_of_lt_mul i.isLt
  by_cases hx : 8 * (i % bytesFor width) + k < width
  · simp [h _ _ hx hy]
  · simp [hx]

theorem isSet_ofDots (width height : Nat) (dot : (x y : Nat) → Bool) (x y : Nat) :
    (ofDots width height dot).isSet x y = (decide (x < width ∧ y < height) && dot x y) := by
  have hwidth : (ofDots width height dot).width = width := rfl
  have hheight : (ofDots width height dot).height = height := rfl
  rw [isSet, hwidth, hheight]
  split
  · rename_i h
    have hbit : x % 8 < 8 := Nat.mod_lt x (by decide)
    rw [Array.getD_eq_getD_getElem?, bytesPerRow, hwidth,
      getElem?_data_ofDots (div_lt_bytesFor h.1) h.2, Option.getD_some, dotOf,
      testBit_packByte _ hbit, Nat.div_add_mod]
    simp [h]
  · rename_i h
    simp [h]

theorem getElem?_gray {b : Bitmap} {x y : Nat} (hx : x < b.width) (hy : y < b.height) :
    b.gray[y * b.width + x]? = some (if b.isSet x y then 0 else 255) := by
  rw [gray, Array.getElem?_ofFn, dif_pos (rowMajor_lt hx hy)]
  simp only [rowMajor_div hx, rowMajor_mod hx]

theorem size_gray (b : Bitmap) : b.gray.size = b.width * b.height := by
  rw [gray, Array.size_ofFn]

end Bitmap

/-! ## Digits -/

/-- The digits in which bytes are written. -/
def writtenHexDigits : List Char := "0123456789abcdef".toList

theorem digitChar_mem_writtenHexDigits : ∀ n < 16, Nat.digitChar n ∈ writtenHexDigits := by
  decide

/-- The bytes of which a text gives the digits, two for each. -/
def bytesOfHex? : List Char → Option (List UInt8)
  | [] => some []
  | [_] => none
  | high :: low :: digits => do
    let byte ← natOfHex? [high, low]
    let bytes ← bytesOfHex? digits
    return UInt8.ofNat byte :: bytes

/-- **The digits of bytes read back as the bytes.** -/
theorem bytesOfHex?_flatMap_hexByte (bytes : List UInt8) :
    bytesOfHex? (bytes.flatMap hexByte) = some bytes := by
  induction bytes with
  | nil => rfl
  | cons byte bytes ih =>
    have hbyte := natOfHex?_hexByte byte
    rw [hexByte] at hbyte
    rw [List.flatMap_cons, hexByte, List.cons_append, List.cons_append, List.nil_append,
      bytesOfHex?, hbyte, ih]
    simp

theorem length_flatMap_hexByte (bytes : List UInt8) :
    (bytes.flatMap hexByte).length = 2 * bytes.length := by
  induction bytes with
  | nil => rfl
  | cons byte bytes ih =>
    rw [List.flatMap_cons, List.length_append, ih, List.length_cons, hexByte]
    simp only [List.length_cons, List.length_nil]
    omega

theorem mem_writtenHexDigits {bytes : List UInt8} {c : Char} (h : c ∈ bytes.flatMap hexByte) :
    c ∈ writtenHexDigits := by
  obtain ⟨byte, -, hc⟩ := List.mem_flatMap.1 h
  have hlt := byte.toNat_lt
  simp only [hexByte, List.mem_cons, List.not_mem_nil, or_false] at hc
  rcases hc with rfl | rfl
  · exact digitChar_mem_writtenHexDigits _ (by omega)
  · exact digitChar_mem_writtenHexDigits _ (by omega)

/-! ## Pictures -/

/-- Whether the pixel in column `x` of row `y` prints. -/
def Pixels.inkAt (p : Pixels) (x y : Nat) : Bool := (p.pixel x y).isInk

/-- Bytes that hold a bit for each pixel, row by row. Eight pixels share a byte, the leftmost in the
highest bit; a bit is set exactly if its pixel prints, and none is set behind the last pixel of a
row. -/
structure HoldsInk (p : Pixels) (bytes : List UInt8) : Prop where
  length_eq : bytes.length = (p.width + 7) / 8 * p.height
  ink : ∀ x y, x < p.width → y < p.height →
    Bitmap.bit? bytes ((p.width + 7) / 8) x y = some (p.inkAt x y)
  padding : ∀ x y, p.width ≤ x → x < 8 * ((p.width + 7) / 8) → y < p.height →
    Bitmap.bit? bytes ((p.width + 7) / 8) x y = some false

theorem holdsInk_ofPixels (p : Pixels) : HoldsInk p (Bitmap.ofPixels p).data.toList := by
  constructor
  case length_eq =>
    rw [← bytesFor_eq]
    exact Bitmap.length_data_ofDots ..
  case ink =>
    intro x y hx hy
    have hroom := div_lt_bytesFor hx
    rw [← bytesFor_eq, Bitmap.ofPixels, Bitmap.bit?_ofDots (by omega) hy]
    simp [hx, Pixels.inkAt]
  case padding =>
    intro x y hx hroom hy
    rw [← bytesFor_eq] at hroom
    rw [← bytesFor_eq, Bitmap.ofPixels, Bitmap.bit?_ofDots hroom hy]
    simp [Nat.not_lt.2 hx]

theorem HoldsInk.inkAt_eq {p q : Pixels} {bytes : List UInt8} (hp : HoldsInk p bytes)
    (hq : HoldsInk q bytes) (hwidth : q.width = p.width) (hheight : q.height = p.height) {x y : Nat}
    (hx : x < p.width) (hy : y < p.height) : p.inkAt x y = q.inkAt x y := by
  have hink := hq.ink x y (hwidth ▸ hx) (hheight ▸ hy)
  rw [hwidth, hp.ink x y hx hy] at hink
  exact Option.some.inj hink

theorem fragment_ofPixels (p : Pixels) :
    (Bitmap.ofPixels p).fragment =
      "0," ++ toString ((p.width + 7) / 8 * p.height) ++ "," ++ toString ((p.width + 7) / 8) ++ ","
        ++ toString ((p.width + 7) / 8 * p.height) ++ "," ++ (Bitmap.ofPixels p).hex := by
  rw [← bytesFor_eq]
  rfl

theorem toList_hex (b : Bitmap) : b.hex.toList = b.data.toList.flatMap hexByte := by
  rw [Bitmap.hex, String.toList_ofList]

/-- Pictures of one size with the same parameters have the same bytes. -/
theorem data_eq_of_fragment_eq {p q : Pixels} (hwidth : q.width = p.width)
    (hheight : q.height = p.height)
    (h : (Bitmap.ofPixels p).fragment = (Bitmap.ofPixels q).fragment) :
    (Bitmap.ofPixels p).data.toList = (Bitmap.ofPixels q).data.toList := by
  rw [fragment_ofPixels, fragment_ofPixels, hwidth, hheight, String.append_right_inj] at h
  have hread := congrArg (fun hex => bytesOfHex? hex.toList) h
  simpa only [toList_hex, bytesOfHex?_flatMap_hexByte, Option.some.injEq] using hread

/-- What the bitmap of a picture says, by each way of reading it. -/
structure EncodesInk (p : Pixels) (b : Bitmap) : Prop where
  /-- The parameters are the number of bytes, the bytes of a row, the number again, and as many
  bytes in digits, and these hold the picture. -/
  fragment : ∃ hex : String,
    b.fragment = "0," ++ toString ((p.width + 7) / 8 * p.height) ++ ","
      ++ toString ((p.width + 7) / 8) ++ "," ++ toString ((p.width + 7) / 8 * p.height) ++ ","
      ++ hex ∧
    hex.length = 2 * ((p.width + 7) / 8 * p.height) ∧
    (∀ c ∈ hex.toList, c ∈ writtenHexDigits) ∧
    ∃ bytes, bytesOfHex? hex.toList = some bytes ∧ HoldsInk p bytes
  packed : b.data.toList =
    (List.range p.height).flatMap fun y => packRow (Array.ofFn (n := p.width) fun x => p.inkAt x y)
  isSet : ∀ x y, b.isSet x y = true ↔ x < p.width ∧ y < p.height ∧ p.inkAt x y = true
  gray : b.gray.size = p.width * p.height ∧ ∀ x y, x < p.width → y < p.height →
    b.gray[y * p.width + x]? = some (if p.inkAt x y then 0 else 255)
  /-- Of pictures of its size, it has the parameters of those that print like it. -/
  fragment_eq_iff : ∀ q : Pixels, q.width = p.width → q.height = p.height →
    (b.fragment = (Bitmap.ofPixels q).fragment ↔
      ∀ x y, x < p.width → y < p.height → p.inkAt x y = q.inkAt x y)

/-- **The bitmap of a picture says which pixels print, and nothing else.** -/
theorem encodesInk_ofPixels (p : Pixels) : EncodesInk p (Bitmap.ofPixels p) := by
  have hisSet : ∀ x y, (Bitmap.ofPixels p).isSet x y =
      (decide (x < p.width ∧ y < p.height) && p.inkAt x y) := fun _ _ => Bitmap.isSet_ofDots ..
  have hlength := (holdsInk_ofPixels p).length_eq
  constructor
  case fragment =>
    refine ⟨_, fragment_ofPixels p, ?_, fun c hc => ?_, _, ?_, holdsInk_ofPixels p⟩
    · rw [← String.length_toList, toList_hex, length_flatMap_hexByte, hlength]
    · rw [toList_hex] at hc
      exact mem_writtenHexDigits hc
    · rw [toList_hex, bytesOfHex?_flatMap_hexByte]
  case packed => exact Bitmap.toList_data_ofDots ..
  case isSet =>
    intro x y
    rw [hisSet, Bool.and_eq_true, decide_eq_true_eq, and_assoc]
  case gray =>
    refine ⟨Bitmap.size_gray _, fun x y hx hy => ?_⟩
    have hgray := Bitmap.getElem?_gray (b := Bitmap.ofPixels p) hx hy
    rw [hisSet, decide_eq_true ⟨hx, hy⟩, Bool.true_and] at hgray
    exact hgray
  case fragment_eq_iff =>
    intro q hwidth hheight
    constructor
    · -- the digits of both read back as one list of bytes, which holds both pictures
      intro h x y hx hy
      have hq := holdsInk_ofPixels q
      rw [← data_eq_of_fragment_eq hwidth hheight h] at hq
      exact (holdsInk_ofPixels p).inkAt_eq hq hwidth hheight hx hy
    · intro h
      rw [Bitmap.ofPixels, Bitmap.ofPixels, hwidth, hheight]
      exact congrArg Bitmap.fragment (Bitmap.ofDots_congr h)

end LabelPress
