import LabelPress.Proofs.IntegerFloats

/-!
# Exact sums

A sum of floats is the exact sum, rounded. Where the exact sum has few enough digits it is not
changed, so arithmetic on such floats is arithmetic on numbers.

* `unpacks`: both readings of the bits of a float agree.
* `round_full`: a number with few enough digits is not changed by rounding.
* `StandsFor.add`: **the sum of two floats stands for the sum**, if that has few enough digits.
* `standsFor_ofInt`, `isFull_half`: whole and half numbers are such.
* `Binary64.floorHalfUp_eq`: rounding halves upwards, as a floor.
-/

namespace LabelPress.Number

open Float.Model Float.Model.UnpackedFloat Binary64

/-! ## The parts of a float -/

section Bits

variable (b : BitVec Format.binary64.numBits)

theorem toNat_unpackExponent : (unpackExponent b).toNat = b.toNat / hiddenBit % 2048 := by
  change (BitVec.extractLsb 62 52 b).toNat = _
  rw [BitVec.extractLsb_toNat, Nat.shiftRight_eq_div_pow]
  rfl

theorem toNat_unpackMantissa : (unpackMantissa b).toNat = b.toNat % hiddenBit := by
  change (BitVec.extractLsb 51 0 b).toNat = _
  rw [BitVec.extractLsb_toNat, Nat.shiftRight_eq_div_pow]
  simp [hiddenBit]

theorem isNegative_unpackSign : isNegative (.ofBitVec (unpackSign b)) =
    decide (0x8000000000000000 ≤ b.toNat) := by
  have hsign : (unpackSign b).toNat = b.toNat / 2 ^ 63 % 2 := by
    change (BitVec.extractLsb 63 63 b).toNat = _
    rw [BitVec.extractLsb_toNat, Nat.shiftRight_eq_div_pow]
  have hlt : b.toNat < 2 ^ 64 := b.isLt
  unfold Sign.ofBitVec
  split
  · rename_i hzero
    rw [hzero] at hsign
    change false = _
    rw [eq_comm, decide_eq_false_iff_not]
    change 0 = _ at hsign
    omega
  · rename_i hone
    change true = _
    rw [eq_comm, decide_eq_true_eq]
    have hne : (unpackSign b).toNat ≠ 0 := fun h => hone (BitVec.eq_of_toNat_eq h)
    omega

end Bits

/-- What a float is taken apart into, by what it stands for. -/
inductive Unpacks : Option Binary64 → UnpackedFloat → Prop where
  | notANumber : Unpacks none .notANumber
  | infinity (sign : Sign) : Unpacks none (.infinity sign)
  | zero (sign : Sign) : Unpacks (some ⟨isNegative sign, 0, -1074, false⟩) (.zero sign)
  | finite (sign : Sign) (m : Nat) (e : Int) (narrow : Bool) (hm : 0 < m) (hlt : m < 2 * hiddenBit)
      (hemin : -1074 ≤ e) (hemax : e ≤ 971) (hfull : hiddenBit ≤ m ∨ e = -1074) :
      Unpacks (some ⟨isNegative sign, m, e, narrow⟩) (.finite sign m e hm)

theorem unpacks (x : Float) : Unpacks (ofFloat? x) x.toModel.unpack := by
  obtain ⟨bits, hbits⟩ : ∃ b : BitVec Format.binary64.numBits, x.toModel.toBits.toBitVec = b :=
    ⟨_, rfl⟩
  have htoNat : x.toBits.toNat = bits.toNat := by
    rw [← hbits]
    rfl
  have hexp := toNat_unpackExponent bits
  have hman := toNat_unpackMantissa bits
  have hsign := isNegative_unpackSign bits
  have hexplt : (unpackExponent bits).toNat < 2048 := (unpackExponent bits).isLt
  have hmanlt : (unpackMantissa bits).toNat < hiddenBit := (unpackMantissa bits).isLt
  have hbias : (Format.binary64.exponentBias : Int) + (52 : Nat) = 1075 := by decide
  unfold ofFloat? Float.Model.unpack UnpackedFloat.unpack
  rw [hbits, htoNat]
  dsimp only
  rw [← hexp, ← hman, ← hsign, hbias]
  by_cases hfinite : unpackExponent bits = -1#11
  · have hmax : (unpackExponent bits).toNat = 2047 := congrArg BitVec.toNat hfinite
    rw [if_pos hfinite, if_pos hmax]
    split
    · exact .infinity _
    · exact .notANumber
  · have hne : (unpackExponent bits).toNat ≠ 2047 := fun h => hfinite (BitVec.eq_of_toNat_eq h)
    rw [if_neg hfinite, if_neg hne]
    by_cases hnormal : unpackExponent bits = 0#11
    · have hzero : (unpackExponent bits).toNat = 0 := congrArg BitVec.toNat hnormal
      rw [if_pos hnormal, if_pos hzero]
      by_cases hmantissa : unpackMantissa bits = 0#52
      · rw [dif_pos hmantissa, hmantissa]
        exact .zero _
      · rw [dif_neg hmantissa, hzero]
        exact .finite _ _ _ _ _ (by omega) (by decide) (by decide) (.inr rfl)
    · have hpos : (unpackExponent bits).toNat ≠ 0 := fun h => hnormal (BitVec.eq_of_toNat_eq h)
      have hmantissa : (1#1 ++ unpackMantissa bits).toNat =
          hiddenBit + (unpackMantissa bits).toNat := by
        rw [BitVec.toNat_append, ← Nat.shiftLeft_add_eq_or_of_lt (BitVec.isLt _)]
        rfl
      have hfull : ∀ m hm, m = hiddenBit + (unpackMantissa bits).toNat →
          Unpacks (some ⟨isNegative (.ofBitVec (unpackSign bits)),
            hiddenBit + (unpackMantissa bits).toNat, (unpackExponent bits).toNat - 1075,
            (unpackMantissa bits).toNat == 0 && decide (1 < (unpackExponent bits).toNat)⟩)
            (.finite (.ofBitVec (unpackSign bits)) m ((unpackExponent bits).toNat - 1075) hm) := by
        rintro m hm rfl
        exact .finite _ _ _ _ hm (by omega) (by omega) (by omega) (.inl (by omega))
      rw [if_neg hnormal, if_neg hpos]
      exact hfull _ _ hmantissa

/-! ## The number that a float stands for -/

/-- The number itself, with its sign. -/
def Binary64.value (x : Binary64) : ℚ := x.signed * 2 ^ x.exponent

/-- The float is finite and stands for the number. -/
def StandsFor (x : Float) (q : ℚ) : Prop := ∃ v, ofFloat? x = some v ∧ v.value = q

theorem value_eq (sign : Sign) (m : Nat) (e : Int) (narrow : Bool) :
    Binary64.value ⟨isNegative sign, m, e, narrow⟩ = sign.apply m * 2 ^ e := by
  cases sign <;> rfl

/-- The float has parts that make the number. -/
inductive PartsFor (q : ℚ) : UnpackedFloat → Prop where
  | zero (sign : Sign) (h : q = 0) : PartsFor q (.zero sign)
  | finite (sign : Sign) (m : Nat) (e : Int) (hm : 0 < m) (hlt : m < 2 * hiddenBit)
      (hfull : hiddenBit ≤ m ∨ e = -1074) (h : q = sign.apply m * 2 ^ e) :
      PartsFor q (.finite sign m e hm)

theorem StandsFor.parts {x : Float} {q : ℚ} (h : StandsFor x q) : PartsFor q x.toModel.unpack := by
  obtain ⟨v, hv, rfl⟩ := h
  have hx := unpacks x
  rw [hv] at hx
  generalize x.toModel.unpack = u at hx
  cases hx with
  | zero sign => exact .zero sign (by rw [value_eq]; cases sign <;> simp [Sign.apply])
  | finite sign m e narrow hm hlt hemin hemax hfull =>
    exact .finite sign m e hm hlt hfull (value_eq sign m e narrow)

/-- The number has a full mantissa, or is zero. -/
def IsFull (q : ℚ) : Prop := q = 0 ∨ ∃ m e, InRange m e ∧ |q| = m * 2 ^ e

theorem isFull_half {n : Int} (h : n.natAbs < 2 ^ 53) : IsFull (n / 2) := by
  by_cases hne : n = 0
  · exact .inl (by rw [hne, Int.cast_zero, zero_div])
  · have hpos : 0 < n.natAbs := Int.natAbs_pos.2 hne
    have hlog : n.natAbs.log2 < 53 := (Nat.log2_lt hpos.ne').2 h
    have hrange := inRange_shifted hpos h
    have hvalue : ((n.natAbs * 2 ^ (52 - n.natAbs.log2) : ℕ) : ℚ) *
        2 ^ ((n.natAbs.log2 : Int) - 52) = n.natAbs := magnitude_shifted hpos h false
    refine .inr ⟨n.natAbs * 2 ^ (52 - n.natAbs.log2), (n.natAbs.log2 : Int) - 52 - 1,
      ⟨hrange.le_mantissa, hrange.mantissa_lt, by omega, by omega⟩, ?_⟩
    rw [zpow_sub_one₀ two_ne_zero, ← mul_assoc, hvalue, abs_div, abs_two, Nat.cast_natAbs,
      Int.cast_abs, div_eq_mul_inv]

/-! ## Rounding -/

section Rounding

variable {M m : Nat} {E e : Int}

/-- Both mantissas in the unit of the lesser exponent. -/
theorem mul_pow_eq_of_eq (h : (M : ℚ) * 2 ^ E = m * 2 ^ e) :
    M * 2 ^ (E - e).toNat = m * 2 ^ (e - E).toNat := by
  have hleft : (2 : ℚ) ^ (E - e).toNat = 2 ^ E * 2 ^ (-min E e) := by
    rw [← zpow_add₀ two_ne_zero, ← zpow_natCast]
    congr 1
    omega
  have hright : (2 : ℚ) ^ (e - E).toNat = 2 ^ e * 2 ^ (-min E e) := by
    rw [← zpow_add₀ two_ne_zero, ← zpow_natCast]
    congr 1
    omega
  have hcast : (M : ℚ) * 2 ^ (E - e).toNat = m * 2 ^ (e - E).toNat := by
    rw [hleft, hright, ← mul_assoc, h, mul_assoc]
  exact_mod_cast hcast

theorem log2_mul_pow {n : Nat} (hn : 0 < n) (k : Nat) : (n * 2 ^ k).log2 = n.log2 + k := by
  have hpos : 0 < 2 ^ k := Nat.two_pow_pos k
  refine (Nat.log2_eq_iff (Nat.mul_pos hn hpos).ne').2 ⟨?_, ?_⟩
  · rw [pow_add]
    exact Nat.mul_le_mul_right _ (Nat.log2_self_le hn.ne')
  · rw [add_right_comm, pow_add]
    exact Nat.mul_lt_mul_of_pos_right Nat.lt_log2_self hpos

theorem log2_add_eq_of_eq (hM : 0 < M) (hm : 0 < m) (h : (M : ℚ) * 2 ^ E = m * 2 ^ e) :
    (M.log2 : Int) + E = m.log2 + e := by
  have hlog := congrArg Nat.log2 (mul_pow_eq_of_eq h)
  rw [log2_mul_pow hM, log2_mul_pow hm] at hlog
  omega

theorem InRange.log2_eq (h : InRange m e) : m.log2 = 52 :=
  (Nat.log2_eq_iff (Nat.lt_of_lt_of_le (by decide) h.le_mantissa).ne').2
    ⟨h.le_mantissa, h.mantissa_lt⟩

/-- A number with a full mantissa is rounded to itself. -/
theorem round_full (sign : Sign) (hM : 0 < M) (hm : 0 < m) (hrange : InRange m e)
    (h : (M : ℚ) * 2 ^ E = m * 2 ^ e) :
    UnpackedFloat.round .binary64 sign M E = .finite sign m e hm := by
  have hlog := log2_add_eq_of_eq hM hm h
  rw [hrange.log2_eq] at hlog
  have hmin : Format.binary64.minExponent = -1074 := by decide
  have hbits : Format.binary64.mantissaBits = 53 := by decide
  have hle := hrange.le_exponent
  have htarget : Format.binary64.targetExponent (totalExponent M E) = e := by
    rw [Format.targetExponent, totalExponent, hmin, hbits]
    omega
  have hexponent : E - ((E - e).toNat : Int) + ((e - E).toNat : Int) = e := by omega
  have hexact := roundWithAccuracy_exact sign (s := (e - E).toNat)
    (E := E - ((E - e).toNat : Int)) hm (by rwa [hexponent])
  unfold UnpackedFloat.round decreaseExponent
  dsimp only
  rw [htarget, Nat.shiftLeft_eq, mul_pow_eq_of_eq h, hexact, hexponent]

end Rounding

/-! ## Sums -/

theorem standsFor_ofParts {sign : Sign} {m : Nat} {e : Int} {hm : 0 < m} (h : InRange m e) :
    StandsFor (ofParts sign m e hm) (sign.apply m * 2 ^ e) :=
  ⟨_, ofFloat?_ofParts h, value_eq sign m e _⟩

theorem standsFor_zero (sign : Sign) : StandsFor (.ofModel (.pack (.zero sign))) 0 := by
  refine ⟨⟨isNegative sign, 0, -1074, false⟩, ?_, ?_⟩
  · cases sign <;> rfl
  · rw [value_eq]
    cases sign <;> simp [Sign.apply]

theorem abs_apply_mul (sign : Sign) (m : Nat) (e : Int) :
    |(sign.apply m : ℚ) * 2 ^ e| = m * 2 ^ e := by
  rw [abs_mul, abs_of_pos (two_zpow_pos e)]
  cases sign <;> simp [Sign.apply]

theorem apply_mul_congr (sign : Sign) {M m : Nat} {E e : Int}
    (h : (M : ℚ) * 2 ^ E = m * 2 ^ e) :
    (sign.apply M : ℚ) * 2 ^ E = sign.apply m * 2 ^ e := by
  cases sign with
  | positive => exact h
  | negative =>
    simp only [Sign.apply, Int.cast_neg, Int.cast_natCast, neg_mul, h]

variable {p q : ℚ} {u v : UnpackedFloat}

/-- Parts of a number with a full mantissa, other than zero. -/
theorem IsFull.exists_eq {sign : Sign} {M : Nat} {E : Int} (hM : 0 < M)
    (h : IsFull (sign.apply M * 2 ^ E)) : ∃ m e, InRange m e ∧ (M : ℚ) * 2 ^ E = m * 2 ^ e := by
  rcases h with hzero | ⟨m, e, hrange, habs⟩
  · have habs := abs_apply_mul sign M E
    rw [hzero, abs_zero] at habs
    have hpos : (0 : ℚ) < M * 2 ^ E := mul_pos (Nat.cast_pos.2 hM) (two_zpow_pos E)
    exact absurd habs hpos.ne
  · exact ⟨m, e, hrange, (abs_apply_mul sign M E).symm.trans habs⟩

theorem standsFor_round (sign : Sign) {M : Nat} {E : Int} (hM : 0 < M)
    (hfull : IsFull (sign.apply M * 2 ^ E)) :
    StandsFor (.ofModel (.pack (UnpackedFloat.round .binary64 sign M E)))
      (sign.apply M * 2 ^ E) := by
  obtain ⟨m, e, hrange, heq⟩ := hfull.exists_eq hM
  have hm : 0 < m := Nat.lt_of_lt_of_le (by decide) hrange.le_mantissa
  rw [round_full sign hM hm hrange heq, apply_mul_congr sign heq]
  exact standsFor_ofParts hrange

/-- A sum of mantissas in one unit is rounded to itself. -/
theorem standsFor_normalize {M E : Int} (hfull : IsFull (M * 2 ^ E)) :
    StandsFor (.ofModel (.pack (UnpackedFloat.normalize .binary64 M E .positive))) (M * 2 ^ E) := by
  unfold UnpackedFloat.normalize
  rcases lt_trichotomy M 0 with hM | rfl | hM
  · obtain ⟨k, rfl⟩ := Int.exists_eq_neg_ofNat hM.le
    have hk : (- -(k : Int)).toNat = k := by omega
    rw [compare_lt_iff_lt.2 hM]
    dsimp only
    rw [hk]
    exact standsFor_round .negative (by omega) hfull
  · rw [compare_eq_iff_eq.2 rfl, Int.cast_zero, zero_mul]
    exact standsFor_zero .positive
  · obtain ⟨k, rfl⟩ := Int.eq_ofNat_of_zero_le hM.le
    rw [compare_gt_iff_gt.2 hM]
    dsimp only
    rw [Int.toNat_natCast]
    exact standsFor_round .positive (by omega) hfull

/-- A number with a full mantissa is packed as it is. -/
theorem PartsFor.standsFor (h : PartsFor q u) (hfull : IsFull q) :
    StandsFor (.ofModel (.pack u)) q := by
  cases h with
  | zero sign hzero =>
    rw [hzero]
    exact standsFor_zero sign
  | finite sign m e hm hlt hleast hq =>
    subst hq
    obtain ⟨m', e', hrange, heq⟩ := hfull.exists_eq hm
    have hm' : 0 < m' := Nat.lt_of_lt_of_le (by decide) hrange.le_mantissa
    have hlog := log2_add_eq_of_eq hm hm' heq
    rw [hrange.log2_eq] at hlog
    have hmin := hrange.le_exponent
    have hmax := hrange.exponent_le
    have hlt' : m.log2 < 53 := (Nat.log2_lt hm.ne').2 hlt
    -- a lesser mantissa has the least exponent, which is too small
    have hle : hiddenBit ≤ m := by
      refine hleast.resolve_right fun he => ?_
      omega
    have hlog' : m.log2 = 52 := (Nat.log2_eq_iff hm.ne').2 ⟨hle, hlt⟩
    exact standsFor_ofParts ⟨hle, hlt, by omega, by omega⟩

/-- The mantissa in a smaller unit. -/
theorem decreaseExponent_value (sign : Sign) (m : Nat) {e E : Int} (h : E ≤ e) :
    (sign.apply (decreaseExponent m e E).1 : ℚ) * 2 ^ E = sign.apply m * 2 ^ e := by
  refine apply_mul_congr sign ?_
  have hexponent : e = (e - E).toNat + E := by omega
  unfold decreaseExponent
  dsimp only
  rw [Nat.shiftLeft_eq, Nat.cast_mul, Nat.cast_pow, Nat.cast_ofNat, mul_assoc, ← zpow_natCast,
    ← zpow_add₀ two_ne_zero, ← hexponent]

/-- **A sum is exact if it has a full mantissa.** -/
theorem StandsFor.add {x y : Float} (hx : StandsFor x p) (hy : StandsFor y q)
    (hfull : IsFull (p + q)) : StandsFor (x + y) (p + q) := by
  have hp := hx.parts
  have hq := hy.parts
  change StandsFor (.ofModel (.pack (UnpackedFloat.add .binary64 x.toModel.unpack
    y.toModel.unpack))) _
  generalize x.toModel.unpack = u at hp
  generalize y.toModel.unpack = v at hq
  cases hp with
  | zero s₁ hzero =>
    rw [hzero, zero_add] at hfull ⊢
    cases hq with
    | zero s₂ hzero =>
      rw [hzero]
      cases s₁ <;> cases s₂
      case negative.negative => exact standsFor_zero .negative
      all_goals exact standsFor_zero .positive
    | finite s₂ m₂ e₂ hm₂ hlt₂ hleast₂ hq =>
      exact (PartsFor.finite s₂ m₂ e₂ hm₂ hlt₂ hleast₂ hq).standsFor hfull
  | finite s₁ m₁ e₁ hm₁ hlt₁ hleast₁ hp =>
    cases hq with
    | zero s₂ hzero =>
      rw [hzero, add_zero] at hfull ⊢
      exact (PartsFor.finite s₁ m₁ e₁ hm₁ hlt₁ hleast₁ hp).standsFor hfull
    | finite s₂ m₂ e₂ hm₂ hlt₂ hleast₂ hq =>
      have hsum : p + q = ((s₁.apply (decreaseExponent m₁ e₁ (min e₁ e₂)).1 +
          s₂.apply (decreaseExponent m₂ e₂ (min e₁ e₂)).1 : Int) : ℚ) * 2 ^ min e₁ e₂ := by
        rw [Int.cast_add, add_mul, decreaseExponent_value s₁ m₁ (min_le_left _ _),
          decreaseExponent_value s₂ m₂ (min_le_right _ _), hp, hq]
      rw [hsum] at hfull ⊢
      exact standsFor_normalize hfull

/-! ## Floats for numbers -/

/-- A number with a full mantissa has a float. -/
theorem IsFull.exists_standsFor (h : IsFull q) : ∃ x, StandsFor x q := by
  rcases h with rfl | ⟨m, e, hrange, habs⟩
  · exact ⟨_, standsFor_zero .positive⟩
  · have hm : 0 < m := Nat.lt_of_lt_of_le (by decide) hrange.le_mantissa
    rcases abs_choice q with hpos | hneg
    · refine ⟨ofParts .positive m e hm, ?_⟩
      rw [hpos.symm.trans habs]
      exact standsFor_ofParts hrange
    · refine ⟨ofParts .negative m e hm, ?_⟩
      have hq : q = (Sign.negative.apply m : Int) * 2 ^ e := by
        rw [← neg_neg q, ← hneg, habs, Sign.apply, Int.cast_neg, Int.cast_natCast, neg_mul]
      rw [hq]
      exact standsFor_ofParts hrange

/-- An integer of up to 53 bits becomes the float that stands for it. -/
theorem standsFor_ofInt {n : Int} (h : n.natAbs < 2 ^ 53) : StandsFor (Float.ofInt n) n := by
  by_cases hne : n = 0
  · rw [hne, Int.cast_zero]
    exact standsFor_zero .positive
  · have hpos : 0 < n.natAbs := Int.natAbs_pos.2 hne
    have hrange := inRange_shifted hpos h
    obtain ⟨m, e, hm, hparts, heq⟩ := exists_ofInt hne
    have hlog : n.natAbs.log2 < 53 := (Nat.log2_lt hpos.ne').2 h
    have hvalue := magnitude_shifted hpos h false
    have hself := (full false (n.natAbs * 2 ^ (52 - n.natAbs.log2))
      ((n.natAbs.log2 : Int) - 52)).covers_magnitude
    rw [hvalue] at hself
    -- one float covers the integer
    obtain ⟨rfl, rfl⟩ := full_unique hparts.le_mantissa hparts.mantissa_lt hrange.le_mantissa
      hrange.mantissa_lt (hparts.covers false) hself
    have hsign : (n : ℚ) = (signOf n).apply n.natAbs * 2 ^ (0 : Int) := by
      unfold signOf
      split
      · rw [Sign.apply, Int.ofNat_natAbs_of_nonpos (by omega), neg_neg, zpow_zero, mul_one]
      · rw [Sign.apply, Int.natAbs_of_nonneg (by omega), zpow_zero, mul_one]
    have hn : (n : ℚ) = (signOf n).apply (n.natAbs * 2 ^ (52 - n.natAbs.log2) : ℕ) *
        2 ^ ((n.natAbs.log2 : Int) - 52) := by
      refine hsign.trans (apply_mul_congr _ ?_)
      rw [zpow_zero, mul_one]
      exact hvalue.symm
    rw [heq, hn]
    exact standsFor_ofParts hrange

/-! ## Rounding down -/

/-- Rounding halves upwards is the floor of what a half more is. -/
theorem Binary64.floorHalfUp_eq (x : Binary64) : x.floorHalfUp = ⌊x.value + 1 / 2⌋ := by
  obtain ⟨negative, m, e, narrow⟩ := x
  unfold floorHalfUp value
  generalize Binary64.signed ⟨negative, m, e, narrow⟩ = n
  cases e with
  | ofNat k =>
    have hvalue : (n : ℚ) * 2 ^ Int.ofNat k + 1 / 2 = (n * 2 ^ k : Int) + 1 / 2 := by
      push_cast
      rw [Int.ofNat_eq_natCast, zpow_natCast]
    have hhalf : ⌊(1 / 2 : ℚ)⌋ = 0 := by norm_num
    rw [hvalue, Int.floor_intCast_add, hhalf, add_zero]
    simp
  | negSucc k =>
    have hvalue : (n : ℚ) * 2 ^ Int.negSucc k + 1 / 2 =
        (n + 2 ^ k : Int) / ((2 ^ (k + 1) : ℕ) : ℚ) := by
      push_cast
      rw [zpow_negSucc, pow_succ]
      field_simp
    rw [hvalue, Rat.floor_intCast_div_natCast]
    simp

end LabelPress.Number
