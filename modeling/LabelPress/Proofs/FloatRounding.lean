import LabelPress.Proofs.ShortestDigits

/-!
# Rounding to a float

A mantissa that is too long loses its last bits. What these were is kept in two bits (`Represents`),
which are enough to round to the nearest float (`RoundsTo`).

* `exists_roundWithAccuracy`: **a number is rounded to a float that covers it**, at least if it is
  great enough for a full mantissa.
* `Binary64.full_unique`: **a number is covered by one float only**.
-/

namespace LabelPress.Number

open Float.Model Float.Model.UnpackedFloat Binary64

/-! ## Rounding -/

/-- The mantissa is the number without its fraction, and the two bits say where the fraction
lies: whether it is a half or more, and whether it is neither zero nor a half. -/
structure Represents (m : ExtendedMantissa) (q : ℚ) : Prop where
  le : (m.mantissa : ℚ) ≤ q
  lt : q < m.mantissa + 1
  roundBit : m.roundBit = true ↔ (m.mantissa : ℚ) + 1 / 2 ≤ q
  stickyBit : m.stickyBit = true ↔ q ≠ m.mantissa ∧ q ≠ m.mantissa + 1 / 2

theorem represents_ofMantissa (m : Nat) : Represents (.ofMantissaAndAccuracy m .exact) m where
  le := le_rfl
  lt := by simp [ExtendedMantissa.ofMantissaAndAccuracy]
  roundBit := by simp [ExtendedMantissa.ofMantissaAndAccuracy]
  stickyBit := by simp [ExtendedMantissa.ofMantissaAndAccuracy]

theorem Represents.shiftRightOne {m : ExtendedMantissa} {q : ℚ} (h : Represents m q) :
    Represents m.shiftRightOne (q / 2) := by
  have hle := h.le
  have hlt := h.lt
  have hsplit : (m.mantissa : ℚ) = 2 * (m.mantissa / 2 : ℕ) + (m.mantissa % 2 : ℕ) := by
    exact_mod_cast (Nat.div_add_mod m.mantissa 2).symm
  have hsticky : (m.roundBit || m.stickyBit) = true ↔ q ≠ m.mantissa := by
    rw [Bool.or_eq_true, h.roundBit, h.stickyBit]
    constructor
    · rintro (hhalf | ⟨hne, -⟩)
      · linarith
      · exact hne
    · intro hne
      rcases lt_or_ge q (m.mantissa + 1 / 2) with hhalf | hhalf
      · exact .inr ⟨hne, hhalf.ne⟩
      · exact .inl hhalf
  rcases Nat.mod_two_eq_zero_or_one m.mantissa with hmod | hmod
  · rw [hmod, Nat.cast_zero, add_zero] at hsplit
    refine ⟨?_, ?_, ?_, hsticky.trans ?_⟩
    all_goals simp only [ExtendedMantissa.shiftRightOne]
    · linarith
    · linarith
    · simp only [hmod, bne_self_eq_false, Bool.false_eq_true, false_iff, not_le]
      linarith
    · constructor
      · exact fun hne => ⟨fun heq => hne (by linarith), fun heq => by linarith⟩
      · exact fun hne heq => hne.1 (by linarith)
  · rw [hmod, Nat.cast_one] at hsplit
    refine ⟨?_, ?_, ?_, hsticky.trans ?_⟩
    all_goals simp only [ExtendedMantissa.shiftRightOne]
    · linarith
    · linarith
    · simp only [hmod, bne_iff_ne, ne_eq, one_ne_zero, not_false_eq_true, true_iff]
      linarith
    · constructor
      · exact fun hne => ⟨fun heq => by linarith, fun heq => hne (by linarith)⟩
      · exact fun hne heq => hne.2 (by linarith)

theorem Represents.shiftRight {m : ExtendedMantissa} {q : ℚ} (h : Represents m q) (s : Nat) :
    Represents (m >>> s) (q / 2 ^ s) := by
  induction s with
  | zero =>
    rw [pow_zero, div_one]
    exact h
  | succ s ih =>
    rw [pow_succ, ← div_div]
    exact ih.shiftRightOne

/-- The natural number is nearest, and even where two are. -/
structure RoundsTo (q : ℚ) (n : Nat) : Prop where
  le : (n : ℚ) - 1 / 2 ≤ q
  ge : q ≤ n + 1 / 2
  inside : n % 2 ≠ 0 → (n : ℚ) - 1 / 2 < q ∧ q < n + 1 / 2

theorem RoundsTo.of_lt {q : ℚ} {n : Nat} (hlt : (n : ℚ) - 1 / 2 < q) (hgt : q < n + 1 / 2) :
    RoundsTo q n :=
  ⟨hlt.le, hgt.le, fun _ => ⟨hlt, hgt⟩⟩

theorem Represents.roundsTo {m : ExtendedMantissa} {q : ℚ} (h : Represents m q) :
    RoundsTo q m.roundedMantissa := by
  obtain ⟨mantissa, roundBit, stickyBit⟩ := m
  obtain ⟨hle, hlt, hround, hsticky⟩ := h
  dsimp only at hle hlt hround hsticky
  have hexact : stickyBit = false → q = mantissa ∨ q = mantissa + 1 / 2 := by
    rintro rfl
    by_contra hne
    rw [not_or] at hne
    exact Bool.false_ne_true (hsticky.2 hne)
  cases roundBit with
  | false =>
    have hhalf : q < mantissa + 1 / 2 := by
      by_contra hge
      exact Bool.false_ne_true (hround.2 (not_lt.1 hge))
    have hrounded : ∀ stickyBit, (ExtendedMantissa.mk mantissa false stickyBit).roundedMantissa
        = mantissa := fun stickyBit => by cases stickyBit <;> rfl
    rw [hrounded]
    exact .of_lt (by linarith) hhalf
  | true =>
    have hhalf : (mantissa : ℚ) + 1 / 2 ≤ q := hround.1 rfl
    cases stickyBit with
    | false =>
      have hmiddle : q = mantissa + 1 / 2 := (hexact rfl).resolve_left fun heq => by linarith
      change RoundsTo q (mantissa + mantissa % 2)
      rcases Nat.mod_two_eq_zero_or_one mantissa with hmod | hmod
      · rw [hmod, add_zero]
        exact ⟨by linarith, hmiddle.le, fun hodd => absurd hmod hodd⟩
      · rw [hmod]
        refine ⟨?_, ?_, fun hodd => absurd ?_ hodd⟩
        · push_cast
          linarith
        · push_cast
          linarith
        · omega
    | true =>
      have hne := (hsticky.1 rfl).2
      change RoundsTo q (mantissa + 1)
      refine .of_lt ?_ ?_
      · push_cast
        rcases hhalf.lt_or_eq with hgt | heq
        · linarith
        · exact absurd heq.symm hne
      · push_cast
        linarith

/-! ## Rounding to a mantissa of 53 bits -/

theorem shiftToTargetExponent_eq {M s : Nat} {E : Int} (hlog : M.log2 = 52 + s)
    (hE : -1074 ≤ E + s) (accuracy : Accuracy) :
    shiftToTargetExponent .binary64 M E accuracy =
      (ExtendedMantissa.ofMantissaAndAccuracy M accuracy >>> s, E + s) := by
  have hmin : Format.binary64.minExponent = -1074 := by decide
  have hbits : Format.binary64.mantissaBits = 53 := by decide
  have htarget : Format.binary64.targetExponent (totalExponent M E) = E + s := by
    rw [Format.targetExponent, totalExponent, hmin, hbits, hlog]
    omega
  rw [shiftToTargetExponent, htarget, shiftToExponent]
  have hshift : (E + s - E).toNat = s := by omega
  rw [hshift]

/-- The float with this mantissa, whose leading bit is set. -/
def Binary64.full (negative : Bool) (mantissa : Nat) (exponent : Int) : Binary64 :=
  { negative, mantissa, exponent, narrow := mantissa == hiddenBit }

theorem Binary64.covers_full {negative : Bool} {m : Nat} {e : Int} {q : ℚ}
    (h : RoundsTo q m) (hle : (hiddenBit : ℚ) ≤ q) :
    (full negative m e).Covers (q * 2 ^ e) := by
  have hpos := two_zpow_pos e
  have hlow : (m : ℚ) - (if m == hiddenBit then 1 / 4 else 1 / 2) ≤ q := by
    split
    · rename_i hm
      rw [eq_of_beq hm]
      linarith
    · exact h.le
  refine ⟨mul_le_mul_of_nonneg_right hlow hpos.le, mul_le_mul_of_nonneg_right h.ge hpos.le,
    fun hodd => ?_⟩
  have hnarrow : (m == hiddenBit) = false := by
    rw [beq_eq_false_iff_ne]
    rintro rfl
    exact hodd (show hiddenBit % 2 = 0 by decide)
  obtain ⟨hgt, hlt⟩ := h.inside hodd
  refine ⟨mul_lt_mul_of_pos_right ?_ hpos, mul_lt_mul_of_pos_right hlt hpos⟩
  simpa [full, hnarrow] using hgt

theorem Binary64.covers_full_of_carry {negative : Bool} {e : Int} {q : ℚ}
    (hle : (2 * hiddenBit : ℚ) - 1 / 2 ≤ q) (hlt : q < 2 * hiddenBit) :
    (full negative hiddenBit (e + 1)).Covers (q * 2 ^ e) := by
  have hpos := two_zpow_pos e
  have hlow : (full negative hiddenBit (e + 1)).low = (2 * hiddenBit - 1 / 2) * 2 ^ e := by
    simp only [low, full, beq_self_eq_true, if_true, zpow_add_one₀ (two_ne_zero : (2 : ℚ) ≠ 0)]
    ring
  have hhigh : (full negative hiddenBit (e + 1)).high = (2 * hiddenBit + 1) * 2 ^ e := by
    simp only [high, full, zpow_add_one₀ (two_ne_zero : (2 : ℚ) ≠ 0)]
    ring
  refine ⟨?_, ?_, fun hodd => absurd (show hiddenBit % 2 = 0 by decide) hodd⟩
  · rw [hlow]
    exact mul_le_mul_of_nonneg_right hle hpos.le
  · rw [hhigh]
    exact mul_le_mul_of_nonneg_right (by linarith) hpos.le

/-- **A number is rounded to the float that covers it.** -/
theorem exists_roundWithAccuracy (sign : Sign) {M s : Nat} {E : Int} (hle : 2 ^ (52 + s) ≤ M)
    (hlt : M < 2 ^ (53 + s)) (hE : -1074 ≤ E + s) :
    ∃ m e hm, roundWithAccuracy .binary64 sign M E .exact = .finite sign m e hm ∧
      hiddenBit ≤ m ∧ m < 2 * hiddenBit ∧ (e = E + s ∨ e = E + s + 1) ∧
      ∀ negative, (full negative m e).Covers (M * 2 ^ E) := by
  have hM : M ≠ 0 := (Nat.lt_of_lt_of_le (Nat.two_pow_pos _) hle).ne'
  have hlog : M.log2 = 52 + s := (Nat.log2_eq_iff hM).2 ⟨hle, by rwa [add_right_comm]⟩
  have hrounded := ((represents_ofMantissa M).shiftRight s).roundsTo
  have hpow : (0 : ℚ) < 2 ^ s := by positivity
  have hqle : (hiddenBit : ℚ) ≤ M / 2 ^ s := by
    rw [le_div_iff₀ hpow]
    have hsplit : 2 ^ (52 + s) = hiddenBit * 2 ^ s := by rw [pow_add]; rfl
    rw [hsplit] at hle
    exact_mod_cast hle
  have hqlt : (M : ℚ) / 2 ^ s < 2 * hiddenBit := by
    rw [div_lt_iff₀ hpow]
    have hsplit : 2 ^ (53 + s) = 2 * hiddenBit * 2 ^ s := by rw [pow_add]; rfl
    rw [hsplit] at hlt
    exact_mod_cast hlt
  have hvalue : (M : ℚ) * 2 ^ E = M / 2 ^ s * 2 ^ (E + s) := by
    rw [zpow_add₀ (by norm_num), zpow_natCast]
    field_simp
  unfold roundWithAccuracy
  rw [shiftToTargetExponent_eq hlog hE]
  dsimp only
  generalize (ExtendedMantissa.ofMantissaAndAccuracy M .exact >>> s).roundedMantissa = m at hrounded
  generalize (M : ℚ) / 2 ^ s = q at *
  have hmle : hiddenBit ≤ m := by
    by_contra hm
    have hcast : (m : ℚ) + 1 ≤ hiddenBit := by exact_mod_cast Nat.lt_of_not_le hm
    have := hrounded.ge
    linarith
  have hmlt : m ≤ 2 * hiddenBit := by
    by_contra hm
    have hcast : (2 * hiddenBit : ℚ) + 1 ≤ m := by exact_mod_cast Nat.lt_of_not_le hm
    have := hrounded.le
    linarith
  rcases hmlt.lt_or_eq with hm | rfl
  · have hlog' : m.log2 = 52 + 0 :=
      (Nat.log2_eq_iff (Nat.lt_of_lt_of_le (by decide) hmle).ne').2 ⟨hmle, hm⟩
    rw [shiftToTargetExponent_eq hlog' (by omega)]
    have hmantissa : (ExtendedMantissa.ofMantissaAndAccuracy m .exact >>> 0).mantissa = m := rfl
    have hpos : 0 < m := Nat.lt_of_lt_of_le (by decide) hmle
    refine ⟨m, E + s, hpos, ?_, hmle, hm, .inl rfl, ?_⟩
    · dsimp only
      rw [dif_neg (hmantissa.trans_ne hpos.ne'), finite.injEq]
      exact ⟨rfl, hmantissa, by rw [Nat.cast_zero, add_zero]⟩
    · rw [hvalue]
      exact fun negative => covers_full hrounded hqle
  · -- one bit too many: the least mantissa with the next exponent
    have hlog' : (2 * hiddenBit).log2 = 52 + 1 := by decide
    rw [shiftToTargetExponent_eq hlog' (by omega)]
    have hmantissa : (ExtendedMantissa.ofMantissaAndAccuracy (2 * hiddenBit) .exact >>> 1).mantissa
        = hiddenBit := by decide
    have hpos : 0 < hiddenBit := by decide
    refine ⟨hiddenBit, E + s + 1, hpos, ?_, le_rfl, by decide, .inr rfl, ?_⟩
    · dsimp only
      rw [dif_neg (hmantissa.trans_ne hpos.ne'), finite.injEq]
      exact ⟨rfl, hmantissa, by rw [Nat.cast_one]⟩
    · rw [hvalue]
      exact fun negative => covers_full_of_carry (by exact_mod_cast hrounded.le) hqlt

/-! ## One float for each number -/

namespace Binary64

variable {negative : Bool} {m m' : Nat} {e e' : Int} {q : ℚ}

theorem high_full : (full negative m e).high = (m + 1 / 2) * 2 ^ e := rfl

theorem low_full_of_ne (hne : m ≠ hiddenBit) :
    (full negative m e).low = (m - 1 / 2) * 2 ^ e := by
  simp [low, full, hne]

theorem le_low_full (hle : hiddenBit ≤ m) :
    (hiddenBit - 1 / 4) * 2 ^ e ≤ (full negative m e).low := by
  have hpos := two_zpow_pos e
  rcases hle.eq_or_lt with rfl | hlt
  · simp [low, full]
  · rw [low_full_of_ne hlt.ne']
    have hcast : (hiddenBit : ℚ) + 1 ≤ m := by exact_mod_cast hlt
    exact mul_le_mul_of_nonneg_right (by linarith) hpos.le

/-- What one float covers no greater one does: the numbers halfway between two neighbours go to the
one whose mantissa is even. -/
theorem not_covers_of_lt (hle : hiddenBit ≤ m) (hlt : m < 2 * hiddenBit) (hle' : hiddenBit ≤ m')
    (h : e < e' ∨ e = e' ∧ m < m') (hcovers : (full negative m e).Covers q) :
    ¬ (full negative m' e').Covers q := by
  intro hcovers'
  have hpos := two_zpow_pos e
  have hhigh := hcovers.le_high
  have hlow := hcovers'.low_le
  rcases h with hexponent | ⟨rfl, hmantissa⟩
  · have hlow' : (2 * hiddenBit - 1 / 2) * 2 ^ e ≤ q := by
      have hstep : (2 : ℚ) ^ e * 2 ≤ 2 ^ e' := by
        rw [← zpow_add_one₀ (by norm_num)]
        exact zpow_le_zpow_right₀ (by norm_num) hexponent
      have hhidden : (0 : ℚ) ≤ hiddenBit - 1 / 4 := by norm_num [hiddenBit]
      have hscaled := mul_le_mul_of_nonneg_left hstep hhidden
      have hleast : (hiddenBit - 1 / 4) * 2 ^ e' ≤ (full negative m' e').low := le_low_full hle'
      linarith
    rw [high_full] at hhigh
    rcases Nat.lt_or_ge (m + 1) (2 * hiddenBit) with hfar | hnear
    · have hcast : (m : ℚ) + 2 ≤ 2 * hiddenBit := by exact_mod_cast hfar
      have hgap : ((m : ℚ) + 1 / 2) * 2 ^ e < (2 * hiddenBit - 1 / 2) * 2 ^ e :=
        mul_lt_mul_of_pos_right (by linarith) hpos
      linarith
    · -- the greatest mantissa is odd
      have hodd : m % 2 ≠ 0 := by
        unfold hiddenBit at hlt hnear
        omega
      have hcast : (m : ℚ) + 1 = 2 * hiddenBit := by
        exact_mod_cast (show m + 1 = 2 * hiddenBit by omega)
      have hinside := (hcovers.inside hodd).2
      rw [high_full] at hinside
      rw [← hcast] at hlow'
      linarith
  · have hne : m' ≠ hiddenBit := by omega
    rw [low_full_of_ne hne] at hlow
    rw [high_full] at hhigh
    rcases Nat.lt_or_ge (m + 1) m' with hfar | hnear
    · have hcast : (m : ℚ) + 2 ≤ m' := by exact_mod_cast hfar
      have hgap : ((m : ℚ) + 1 / 2) * 2 ^ e < (m' - 1 / 2) * 2 ^ e :=
        mul_lt_mul_of_pos_right (by linarith) hpos
      linarith
    · obtain rfl : m' = m + 1 := by omega
      push_cast at hlow
      rcases Nat.mod_two_eq_zero_or_one m with heven | hodd
      · have hinside := (hcovers'.inside (show (m + 1) % 2 ≠ 0 by omega)).1
        rw [low_full_of_ne hne] at hinside
        push_cast at hinside
        linarith
      · have hinside := (hcovers.inside (show m % 2 ≠ 0 by omega)).2
        rw [high_full] at hinside
        linarith

/-- **A number is covered by one float.** -/
theorem full_unique (hle : hiddenBit ≤ m) (hlt : m < 2 * hiddenBit) (hle' : hiddenBit ≤ m')
    (hlt' : m' < 2 * hiddenBit) (hcovers : (full negative m e).Covers q)
    (hcovers' : (full negative m' e').Covers q) : m = m' ∧ e = e' := by
  by_contra hne
  have hcases : (e < e' ∨ e = e' ∧ m < m') ∨ e' < e ∨ e' = e ∧ m' < m := by omega
  rcases hcases with h | h
  · exact not_covers_of_lt hle hlt hle' h hcovers hcovers'
  · exact not_covers_of_lt hle' hlt' hle h hcovers' hcovers

end Binary64

end LabelPress.Number
