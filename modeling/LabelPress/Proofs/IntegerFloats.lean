import LabelPress.Proofs.FloatRounding

/-!
# Integers as floats

An integer becomes a float in one of two ways: up to 53 bits are put in place, and longer ones are
rounded. Either way the float covers the integer, so two integers become the same float exactly if
the float of one covers the other.

* `ofFloat?_ofParts`, `unpack_pack_finite`: the bits of a float hold its parts.
* `exists_ofNat`, `exists_ofInt`: the parts of the float that an integer becomes (`PartsOf`).
* `floatOf_of_ofFloat?`: it covers the integer, has its sign and is whole (`FloatOf`).
* `ofInt_eq_iff`: **which integers become the same float**.
-/

namespace LabelPress.Number

open Float.Model Float.Model.UnpackedFloat Binary64

/-! ## Bits -/

theorem toNat_packComponents (sign : Sign) (e : BitVec 11) (m : BitVec 52) :
    (packComponents .binary64 sign e m).toNat =
      sign.toBitVec.toNat * 2 ^ 63 + e.toNat * 2 ^ 52 + m.toNat := by
  unfold packComponents
  rw [BitVec.toNat_append, BitVec.toNat_append, ← Nat.shiftLeft_add_eq_or_of_lt e.isLt,
    ← Nat.shiftLeft_add_eq_or_of_lt m.isLt, Nat.shiftLeft_eq, Nat.shiftLeft_eq]
  ring

/-- The float with these parts. -/
def ofParts (sign : Sign) (m : Nat) (e : Int) (hm : 0 < m) : Float :=
  .ofModel (.pack (.finite sign m e hm))

def isNegative : Sign → Bool
  | .negative => true
  | .positive => false

variable {sign : Sign} {m : Nat} {e : Int} {hm : 0 < m}

/-- A mantissa with its leading bit set, and an exponent in range. -/
structure InRange (m : Nat) (e : Int) : Prop where
  le_mantissa : hiddenBit ≤ m
  mantissa_lt : m < 2 * hiddenBit
  le_exponent : -1073 ≤ e
  exponent_le : e ≤ 971

theorem pack_finite (h : InRange m e) : UnpackedFloat.pack .binary64 (.finite sign m e hm) =
    packComponents .binary64 sign (BitVec.ofNat 11 (e + 1075).toNat) (BitVec.ofNat 52 m) := by
  obtain ⟨hle, hlt, hemin, hemax⟩ := h
  have hlog : m.log2 = 52 := (Nat.log2_eq_iff hm.ne').2 ⟨hle, hlt⟩
  have hbias : (Format.binary64.exponentBias : Int) = 1023 := by decide
  have hbiased : e + Format.binary64.exponentBias + Format.binary64.mantissaBitsWithoutImplicit
      = e + 1075 := by
    rw [hbias]
    dsimp only
    omega
  unfold UnpackedFloat.pack
  dsimp only
  rw [hbiased, if_neg (by omega), if_pos (by rw [hlog]; rfl)]

theorem toNat_toBits_ofParts (h : InRange m e) : (ofParts sign m e hm).toBits.toNat =
    sign.toBitVec.toNat * 2 ^ 63 + (e + 1075).toNat * 2 ^ 52 + (m - hiddenBit) := by
  have hmantissa : m % 2 ^ 52 = m - hiddenBit := by
    have hle := h.le_mantissa
    have hlt := h.mantissa_lt
    unfold hiddenBit at *
    omega
  have hexponent : (e + 1075).toNat % 2 ^ 11 = (e + 1075).toNat := by
    have hle := h.exponent_le
    omega
  change (UnpackedFloat.pack .binary64 (.finite sign m e hm)).toNat = _
  rw [pack_finite h, toNat_packComponents, BitVec.toNat_ofNat, BitVec.toNat_ofNat, hmantissa,
    hexponent]

theorem ofFloat?_ofParts (h : InRange m e) :
    Binary64.ofFloat? (ofParts sign m e hm) = some (full (isNegative sign) m e) := by
  have hbits : (ofParts sign m e hm).toBits.toNat = _ := toNat_toBits_ofParts h
  have hsign : sign.toBitVec.toNat = if isNegative sign then 1 else 0 := by cases sign <;> rfl
  obtain ⟨hle, hlt, hemin, hemax⟩ := h
  unfold Binary64.ofFloat?
  rw [hbits, hsign]
  unfold full hiddenBit at *
  dsimp only
  have hexponent : ((if isNegative sign then 1 else 0) * 2 ^ 63 + (e + 1075).toNat * 2 ^ 52 +
      (m - 0x10000000000000)) / 0x10000000000000 % 2048 = (e + 1075).toNat := by
    split <;> omega
  have hfraction : ((if isNegative sign then 1 else 0) * 2 ^ 63 + (e + 1075).toNat * 2 ^ 52 +
      (m - 0x10000000000000)) % 0x10000000000000 = m - 0x10000000000000 := by
    split <;> omega
  rw [hexponent, hfraction, if_neg (by omega), if_neg (by omega), Option.some.injEq,
    Binary64.mk.injEq]
  refine ⟨?_, by omega, by omega, ?_⟩
  · cases isNegative sign
    · rw [decide_eq_false_iff_not, if_neg Bool.false_ne_true]
      omega
    · rw [decide_eq_true_eq, if_pos rfl]
      omega
  · rw [Bool.eq_iff_iff, Bool.and_eq_true, beq_iff_eq, beq_iff_eq, decide_eq_true_eq]
    omega

theorem unpackSign_packComponents (sign : Sign) (e : BitVec 11) (m : BitVec 52) :
    @unpackSign .binary64 (packComponents .binary64 sign e m) = sign.toBitVec := by
  have hsign := sign.toBitVec.isLt
  have he := e.isLt
  have hm := m.isLt
  apply BitVec.eq_of_toNat_eq
  change (BitVec.extractLsb 63 63 (packComponents .binary64 sign e m)).toNat = _
  rw [BitVec.extractLsb_toNat, toNat_packComponents, Nat.shiftRight_eq_div_pow]
  omega

theorem unpack_eq_finite {b : BitVec Format.binary64.numBits} {hm : 0 < m}
    (hfinite : unpackExponent b ≠ -1#11) (hnormal : unpackExponent b ≠ 0#11)
    (hsign : Sign.ofBitVec (unpackSign b) = sign) (hmantissa : (1#1 ++ unpackMantissa b).toNat = m)
    (hexponent : ((unpackExponent b).toNat : Int) - 1075 = e) :
    UnpackedFloat.unpack .binary64 b = .finite sign m e hm := by
  subst hsign hmantissa hexponent
  unfold UnpackedFloat.unpack
  dsimp only
  rw [if_neg hfinite, if_neg hnormal]
  rfl

/-- A finite float is what it was packed from. -/
theorem unpack_pack_finite (h : InRange m e) :
    (Float.Model.pack (.finite sign m e hm)).unpack = .finite sign m e hm := by
  change UnpackedFloat.unpack .binary64 (UnpackedFloat.pack .binary64 (.finite sign m e hm)) = _
  rw [pack_finite h]
  obtain ⟨hle, hlt, hemin, hemax⟩ := h
  have hsign : Sign.ofBitVec sign.toBitVec = sign := by cases sign <;> rfl
  have hexponent : (BitVec.ofNat 11 (e + 1075).toNat).toNat = (e + 1075).toNat := by
    rw [BitVec.toNat_ofNat]
    omega
  have hmantissa : (1#1 ++ BitVec.ofNat 52 m).toNat = m := by
    rw [BitVec.toNat_append, ← Nat.shiftLeft_add_eq_or_of_lt (BitVec.isLt _), BitVec.toNat_ofNat,
      Nat.shiftLeft_eq]
    unfold hiddenBit at hle hlt
    change 1 * 2 ^ 52 + m % 2 ^ 52 = m
    omega
  have hfinite : BitVec.ofNat 11 (e + 1075).toNat ≠ -1#11 := by
    rw [ne_eq, ← BitVec.toNat_inj, hexponent]
    change (e + 1075).toNat ≠ 2047
    omega
  have hnormal : BitVec.ofNat 11 (e + 1075).toNat ≠ 0#11 := by
    rw [ne_eq, ← BitVec.toNat_inj, hexponent]
    change (e + 1075).toNat ≠ 0
    omega
  refine unpack_eq_finite ?_ ?_ ?_ ?_ ?_
  · rwa [unpackExponent_packComponents]
  · rwa [unpackExponent_packComponents]
  · rw [unpackSign_packComponents, hsign]
  · rwa [unpackMantissa_packComponents]
  · rw [unpackExponent_packComponents, hexponent]
    omega

theorem neg_ofParts (h : InRange m e) : -ofParts sign m e hm = ofParts (-sign) m e hm := by
  change Float.ofModel (.pack (Float.Model.pack (.finite sign m e hm)).unpack.neg) = _
  rw [unpack_pack_finite h]
  rfl

/-! ## Integers -/

theorem ofNat_of_large {n : Nat} (h : 2 ^ 53 ≤ n) : Float.ofNat n =
    .ofModel (.pack (roundWithAccuracy .binary64 .positive (n * 2 ^ 53) (-53) .exact)) := by
  change Float.ofScientific n false 0 = _
  unfold Float.ofScientific
  rw [dif_neg (by omega)]
  change Float.ofModel (.pack (UnpackedFloat.ofScientific .binary64 n (Int.ofNat 0))) = _
  unfold UnpackedFloat.ofScientific
  have hlow : ¬ Int.ofNat 0 < -(2 ^ Format.binary64.exponentBits + (n.log2 : Int)) := by
    have hpow : (0 : Int) < 2 ^ Format.binary64.exponentBits := by decide
    change ¬ (0 : Int) < _
    omega
  rw [dif_neg (by omega), if_neg (by decide), if_neg hlow, if_pos (by decide)]
  change Float.ofModel (.pack (roundWithAccuracy .binary64 .positive (n <<< 53 * 1) (-53) .exact))
    = _
  rw [mul_one, Nat.shiftLeft_eq]

theorem ofNat_of_small {n : Nat} (h : n < 2 ^ 53) : Float.ofNat n =
    n.toUInt64.toFloat * Float.ofBits 0x3FF0000000000000 := by
  change Float.ofScientific n false 0 = _
  unfold Float.ofScientific
  rw [dif_pos ⟨h, by decide⟩]
  rfl

/-- The parts of the float that a natural number becomes. -/
structure PartsOf (n m : Nat) (e : Int) : Prop where
  le_mantissa : hiddenBit ≤ m
  mantissa_lt : m < 2 * hiddenBit
  le_exponent : -52 ≤ e
  exponent_le : e ≤ n.log2
  covers : ∀ negative, (full negative m e).Covers n
  whole : ∀ negative, OnGrid 0 (full negative m e).magnitude

theorem exists_ofNat_of_large {n : Nat} (hle : 2 ^ 53 ≤ n) :
    ∃ m e hm, PartsOf n m e ∧ Float.ofNat n = ofParts .positive m e hm := by
  have hn : n ≠ 0 := by omega
  have hlog : 53 ≤ n.log2 := (Nat.le_log2 hn).2 hle
  have hM : 2 ^ (52 + (n.log2 + 1)) ≤ n * 2 ^ 53 := by
    rw [show 52 + (n.log2 + 1) = n.log2 + 53 by omega, pow_add]
    exact Nat.mul_le_mul_right _ (Nat.log2_self_le hn)
  have hM' : n * 2 ^ 53 < 2 ^ (53 + (n.log2 + 1)) := by
    rw [show 53 + (n.log2 + 1) = n.log2 + 1 + 53 by omega, pow_add]
    exact Nat.mul_lt_mul_of_pos_right Nat.lt_log2_self (by decide)
  obtain ⟨m, e, hm, hround, hmle, hmlt, he, hcovers⟩ :=
    exists_roundWithAccuracy .positive (E := -53) hM hM' (by omega)
  refine ⟨m, e, hm, ⟨hmle, hmlt, by omega, by omega, fun negative => ?_, fun negative => ?_⟩, ?_⟩
  · have hvalue : ((n * 2 ^ 53 : ℕ) : ℚ) * 2 ^ (-53 : Int) = n := by
      push_cast
      rw [mul_assoc]
      norm_num
    rw [← hvalue]
    exact hcovers negative
  · obtain ⟨k, rfl⟩ := Int.eq_ofNat_of_zero_le (show 0 ≤ e by omega)
    exact ⟨m * 2 ^ k, by simp [magnitude, full]⟩
  · rw [ofNat_of_large hle, hround]
    rfl

/-- A number with so few digits is not changed. -/
theorem roundWithAccuracy_exact (sign : Sign) {m s : Nat} {E : Int} (hm : 0 < m)
    (h : InRange m (E + s)) : roundWithAccuracy .binary64 sign (m * 2 ^ s) E .exact =
      .finite sign m (E + s) hm := by
  have hM : 2 ^ (52 + s) ≤ m * 2 ^ s := by
    rw [pow_add]
    exact Nat.mul_le_mul_right _ h.le_mantissa
  have hM' : m * 2 ^ s < 2 ^ (53 + s) := by
    rw [pow_add]
    exact Nat.mul_lt_mul_of_pos_right h.mantissa_lt (Nat.two_pow_pos s)
  have hle := h.le_exponent
  obtain ⟨m', e', hm', hround, hmle, hmlt, -, hcovers⟩ :=
    exists_roundWithAccuracy sign (E := E) hM hM' (by omega)
  have hvalue : ((m * 2 ^ s : ℕ) : ℚ) * 2 ^ E = (full false m (E + s)).magnitude := by
    change _ = (m : ℚ) * 2 ^ (E + s)
    rw [zpow_add₀ (by norm_num), zpow_natCast]
    push_cast
    ring
  have hself := (full false m (E + s)).covers_magnitude
  rw [← hvalue] at hself
  obtain ⟨rfl, rfl⟩ :=
    full_unique hmle hmlt h.le_mantissa h.mantissa_lt (hcovers false) hself
  exact hround

section Small

variable {n : Nat} (hpos : 0 < n) (hlt : n < 2 ^ 53)
include hpos hlt

/-- The integer with its leading bit in place. -/
theorem inRange_shifted : InRange (n * 2 ^ (52 - n.log2)) ((n.log2 : Int) - 52) := by
  have hlog : n.log2 < 53 := (Nat.log2_lt hpos.ne').2 hlt
  have hself := Nat.log2_self_le hpos.ne'
  have hself' := Nat.lt_log2_self (n := n)
  have hpow : 2 ^ n.log2 * 2 ^ (52 - n.log2) = hiddenBit := by
    rw [← pow_add, show n.log2 + (52 - n.log2) = 52 by omega]
    rfl
  refine ⟨?_, ?_, by omega, by omega⟩
  · rw [← hpow]
    exact Nat.mul_le_mul_right _ hself
  · rw [← hpow, ← mul_assoc, ← pow_succ']
    exact Nat.mul_lt_mul_of_pos_right hself' (Nat.two_pow_pos _)

theorem magnitude_shifted (negative : Bool) :
    (full negative (n * 2 ^ (52 - n.log2)) ((n.log2 : Int) - 52)).magnitude = n := by
  have hlog : n.log2 < 53 := (Nat.log2_lt hpos.ne').2 hlt
  have hzero : ((52 - n.log2 : ℕ) : Int) + ((n.log2 : Int) - 52) = 0 := by omega
  simp only [magnitude, full]
  push_cast
  rw [mul_assoc, ← zpow_natCast, ← zpow_add₀ (by norm_num), hzero, zpow_zero, mul_one]

theorem round_eq (hm : 0 < n * 2 ^ (52 - n.log2)) :
    UnpackedFloat.round .binary64 .positive n 0 =
      .finite .positive (n * 2 ^ (52 - n.log2)) ((n.log2 : Int) - 52) hm := by
  have hlog : n.log2 < 53 := (Nat.log2_lt hpos.ne').2 hlt
  have hmin : Format.binary64.minExponent = -1074 := by decide
  have hbits : Format.binary64.mantissaBits = 53 := by decide
  have htarget : Format.binary64.targetExponent (totalExponent n 0) = (n.log2 : Int) - 52 := by
    rw [Format.targetExponent, totalExponent, hmin, hbits]
    omega
  have hshift : (0 - ((n.log2 : Int) - 52)).toNat = 52 - n.log2 := by omega
  have hexact := roundWithAccuracy_exact .positive (s := 0) (E := (n.log2 : Int) - 52) hm
    (by simpa using inRange_shifted hpos hlt)
  rw [pow_zero, mul_one, Nat.cast_zero, add_zero] at hexact
  unfold UnpackedFloat.round decreaseExponent
  dsimp only
  rw [htarget, hshift, Nat.shiftLeft_eq, show (0 : Int) - (52 - n.log2 : ℕ) = n.log2 - 52 by omega]
  exact hexact

theorem toFloat_eq (hm : 0 < n * 2 ^ (52 - n.log2)) : n.toUInt64.toFloat =
    ofParts .positive (n * 2 ^ (52 - n.log2)) ((n.log2 : Int) - 52) hm := by
  have htoNat : n.toUInt64.toNat = n := by
    change n % 2 ^ 64 = n
    omega
  change Float.ofModel
    (.pack (UnpackedFloat.normalize .binary64 (n.toUInt64.toNat : Int) 0 .positive)) = _
  rw [htoNat, UnpackedFloat.normalize, compare_gt_iff_gt.2 (Int.natCast_pos.2 hpos)]
  dsimp only
  rw [Int.toNat_natCast, round_eq hpos hlt hm]
  rfl

theorem exists_ofNat_of_small :
    ∃ m e hm, PartsOf n m e ∧ Float.ofNat n = ofParts .positive m e hm := by
  have hlog : n.log2 < 53 := (Nat.log2_lt hpos.ne').2 hlt
  have hm : 0 < n * 2 ^ (52 - n.log2) := by positivity
  have hrange := inRange_shifted hpos hlt
  refine ⟨_, (n.log2 : Int) - 52, hm, ⟨hrange.le_mantissa, hrange.mantissa_lt, by omega,
    by omega, fun negative => ?_, fun negative => ?_⟩, ?_⟩
  · have hself := covers_magnitude (full negative (n * 2 ^ (52 - n.log2)) ((n.log2 : Int) - 52))
    rwa [magnitude_shifted hpos hlt] at hself
  · exact ⟨n, by rw [magnitude_shifted hpos hlt, zpow_zero, mul_one]⟩
  · have hone : (Float.Model.ofBits 0x3FF0000000000000).unpack =
        .finite .positive hiddenBit (-52) (by decide) := by
      rfl
    have hexponent : (n.log2 : Int) - 52 + -52 + (52 : ℕ) = n.log2 - 52 := by omega
    have hexact := roundWithAccuracy_exact .positive (s := 52) (E := (n.log2 : Int) - 52 + -52) hm
      (by rwa [hexponent])
    rw [hexponent] at hexact
    rw [ofNat_of_small hlt, toFloat_eq hpos hlt hm]
    change Float.ofModel (.pack (UnpackedFloat.mul .binary64
      (Float.Model.pack (.finite .positive _ _ hm)).unpack _)) = _
    rw [unpack_pack_finite hrange]
    change Float.ofModel (.pack (UnpackedFloat.mul .binary64 _
      (Float.Model.ofBits 0x3FF0000000000000).unpack)) = _
    rw [hone]
    change Float.ofModel (.pack (roundWithAccuracy .binary64 .positive _ _ .exact)) = _
    rw [show hiddenBit = 2 ^ 52 from rfl, hexact]
    rfl

end Small

theorem exists_ofNat {n : Nat} (hpos : 0 < n) :
    ∃ m e hm, PartsOf n m e ∧ Float.ofNat n = ofParts .positive m e hm := by
  rcases Nat.lt_or_ge n (2 ^ 53) with hlt | hle
  · exact exists_ofNat_of_small hpos hlt
  · exact exists_ofNat_of_large hle

/-- Beyond the range a float is infinite. -/
theorem ofParts_of_gt {sign : Sign} {m : Nat} {e : Int} {hm : 0 < m} (he : 971 < e) :
    ofParts sign m e hm = .ofModel (.pack (.infinity sign)) := by
  have hbias : (Format.binary64.exponentBias : Int) = 1023 := by decide
  have hpack : UnpackedFloat.pack .binary64 (.finite sign m e hm) =
      UnpackedFloat.pack .binary64 (.infinity sign) := by
    unfold UnpackedFloat.pack
    dsimp only
    rw [hbias, if_pos (by omega)]
  unfold ofParts Float.Model.pack
  rw [Float.ofModel.injEq, Float.Model.mk.injEq, hpack]

/-- The sign of an integer. -/
def signOf (n : Int) : Sign := if n < 0 then .negative else .positive

theorem isNegative_signOf (n : Int) : isNegative (signOf n) = decide (n < 0) := by
  unfold signOf
  split <;> rename_i h <;> simp [isNegative, h]

theorem neg_infinity (sign : Sign) : -Float.ofModel (.pack (.infinity sign)) =
    .ofModel (.pack (.infinity (-sign))) := by
  cases sign <;> rfl

theorem exists_ofInt {n : Int} (hne : n ≠ 0) :
    ∃ m e hm, PartsOf n.natAbs m e ∧ Float.ofInt n = ofParts (signOf n) m e hm := by
  obtain ⟨m, e, hm, hparts, heq⟩ := exists_ofNat (Int.natAbs_pos.2 hne)
  refine ⟨m, e, hm, hparts, ?_⟩
  cases n with
  | ofNat k => exact heq
  | negSucc k =>
    change -Float.ofNat (k + 1) = _
    change Float.ofNat (k + 1) = _ at heq
    have hsign : signOf (.negSucc k) = .negative := if_pos (Int.negSucc_lt_zero k)
    rw [heq, hsign]
    by_cases he : 971 < e
    · rw [ofParts_of_gt he, ofParts_of_gt he, neg_infinity]
      rfl
    · have hle := hparts.le_exponent
      exact neg_ofParts ⟨hparts.le_mantissa, hparts.mantissa_lt, by omega, by omega⟩

theorem ofFloat?_infinity (sign : Sign) :
    ofFloat? (.ofModel (.pack (.infinity sign))) = none := by
  cases sign <;> rfl

variable {n z : Int} {x : Binary64}

/-- A finite float of an integer is put together from the parts of the integer. -/
theorem exists_of_ofFloat?_ofInt (hne : n ≠ 0) (hx : ofFloat? (Float.ofInt n) = some x) :
    ∃ m e hm, PartsOf n.natAbs m e ∧ Float.ofInt n = ofParts (signOf n) m e hm ∧
      x = full (decide (n < 0)) m e ∧ e ≤ 971 := by
  obtain ⟨m, e, hm, hparts, heq⟩ := exists_ofInt hne
  have hfinite : e ≤ 971 := by
    by_contra he
    rw [heq, ofParts_of_gt (by omega), ofFloat?_infinity] at hx
    cases hx
  have hle := hparts.le_exponent
  rw [heq, ofFloat?_ofParts ⟨hparts.le_mantissa, hparts.mantissa_lt, by omega, hfinite⟩,
    isNegative_signOf, Option.some.injEq] at hx
  exact ⟨m, e, hm, hparts, heq, hx.symm, hfinite⟩

theorem exists_ofFloat?_ofInt (hlt : n.natAbs < 2 ^ 128) :
    ∃ x, ofFloat? (Float.ofInt n) = some x := by
  by_cases hne : n = 0
  · subst hne
    exact ⟨_, rfl⟩
  · obtain ⟨m, e, hm, hparts, heq⟩ := exists_ofInt hne
    have hlog := (Nat.log2_lt (Int.natAbs_ne_zero.2 hne)).2 hlt
    have hle := hparts.le_exponent
    have hge := hparts.exponent_le
    rw [heq]
    exact ⟨_, ofFloat?_ofParts ⟨hparts.le_mantissa, hparts.mantissa_lt, by omega, by omega⟩⟩

/-- What is known of the float that an integer becomes. -/
structure FloatOf (n : Int) (x : Binary64) : Prop where
  atLeastOne : x.AtLeastOne
  negative : x.negative = decide (n < 0)
  covers : x.Covers n.natAbs
  whole : OnGrid 0 x.magnitude

theorem floatOf_of_ofFloat? (hne : n ≠ 0) (hx : ofFloat? (Float.ofInt n) = some x) :
    FloatOf n x := by
  obtain ⟨m, e, hm, hparts, -, rfl, hfinite⟩ := exists_of_ofFloat?_ofInt hne hx
  exact ⟨⟨hparts.le_mantissa, hparts.mantissa_lt, eq_of_beq, hparts.le_exponent,
    by dsimp only [full]; omega⟩, rfl, hparts.covers _, hparts.whole _⟩

/-- **Which integers become the same float**: those of the same sign that the float covers. -/
theorem ofInt_eq_iff (hne : n ≠ 0) (hx : ofFloat? (Float.ofInt n) = some x) :
    Float.ofInt z = Float.ofInt n ↔ z ≠ 0 ∧ (z < 0 ↔ n < 0) ∧ x.Covers z.natAbs := by
  have hn := floatOf_of_ofFloat? hne hx
  constructor
  · intro heq
    rw [← heq] at hx
    have hz : z ≠ 0 := by
      rintro rfl
      have hzero : ofFloat? (Float.ofInt 0) = some ⟨false, 0, -1074, false⟩ := by rfl
      rw [hzero, Option.some.injEq] at hx
      subst hx
      exact absurd hn.atLeastOne.mantissa_pos (by decide)
    have hzfloat := floatOf_of_ofFloat? hz hx
    refine ⟨hz, ?_, hzfloat.covers⟩
    have hnegative := hzfloat.negative.symm.trans hn.negative
    exact decide_eq_decide.1 hnegative
  · rintro ⟨hz, hsign, hcovers⟩
    obtain ⟨m, e, hm, hparts, heq, rfl, -⟩ := exists_of_ofFloat?_ofInt hne hx
    obtain ⟨m', e', hm', hparts', heq'⟩ := exists_ofInt hz
    obtain ⟨rfl, rfl⟩ := full_unique hparts'.le_mantissa hparts'.mantissa_lt hparts.le_mantissa
      hparts.mantissa_lt (hparts'.covers _) hcovers
    rw [heq, heq', signOf, signOf]
    simp only [hsign]

end LabelPress.Number
