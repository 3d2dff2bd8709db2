import LabelPress.Number.Format
import LabelPress.Proofs.IntegerFloats
import Std.Data.String.ToInt

/-!
# What prints for an integer

An integer in a cell is kept as a float, and the float prints as the roundest of the integers that
become the same float. That need not be the one that was written.

* `exists_isPrinted`: the text is that of an integer, and which one (`IsPrinted`).
* `render_ofInt_eq_iff`: **an integer prints as it was written exactly if it is the roundest of the
  integers that become the same float**.
* `isPrinted_self`: up to `2 ^ 53` it always is.
-/

namespace LabelPress.Number

open Binary64

/-! ## Texts of integers -/

theorem toDigits_mul_pow {n : Nat} (hn : 0 < n) (k : Nat) :
    Nat.toDigits 10 (n * 10 ^ k) = Nat.toDigits 10 n ++ List.replicate k '0' := by
  induction k with
  | zero => simp
  | succ k ih =>
    have hzero : Nat.toDigits 10 0 = ['0'] := rfl
    have hstep := Nat.toDigits_append_toDigits (b := 10) (n := n * 10 ^ k) (d := 0) (by decide)
      (by positivity) (by decide)
    rw [ih, hzero, List.append_assoc, ← List.replicate_succ'] at hstep
    rw [hstep]
    congr 1
    ring

/-- Digits with zeros behind them are those of the multiple. -/
theorem positionalText_plain {d : Decimal} {k : Nat} (hd : 0 < d.digits)
    (hexponent : d.exponent = k) :
    FloatFormat.plain.positionalText d = toString (d.digits * 10 ^ k) := by
  rw [← String.toList_inj, FloatFormat.positionalText, hexponent]
  change ((String.ofList (toString d.digits).toList ++ FloatFormat.zeros k) ++ "").toList = _
  simp [FloatFormat.zeros, toDigits_mul_pow hd]

theorem toString_neg {n : Nat} (hn : 0 < n) : toString (-(n : Int)) = "-" ++ toString n := by
  obtain ⟨m, rfl⟩ := Nat.exists_eq_add_one.2 hn
  rfl

/-! ## The integer that prints -/

theorem onGrid_natCast_iff {k n : Nat} : OnGrid k (n : ℚ) ↔ 10 ^ k ∣ n := by
  constructor
  · rintro ⟨z, hz⟩
    rw [zpow_natCast] at hz
    refine ⟨z, ?_⟩
    rw [Nat.mul_comm]
    exact_mod_cast hz
  · rintro ⟨z, rfl⟩
    refine ⟨z, ?_⟩
    rw [zpow_natCast]
    push_cast
    ring

/-- `d` is the roundest of the integers that become the same float as `n`, and of several the one
nearest to the float. -/
structure IsPrinted (n d : Int) : Prop where
  same : Float.ofInt d = Float.ofInt n
  roundest : ∀ z (k : ℕ), Float.ofInt z = Float.ofInt n → 10 ^ k ∣ z → 10 ^ k ∣ d
  closest : ∀ z x, Float.ofInt z = Float.ofInt n → ofFloat? (Float.ofInt n) = some x →
    (∀ k : ℕ, 10 ^ k ∣ d → 10 ^ k ∣ z) → x.Closer d.natAbs z.natAbs

variable {n d z : Int} {x : Binary64}

theorem onGrid_natAbs_iff {k : Nat} : OnGrid k (z.natAbs : ℚ) ↔ 10 ^ k ∣ z := by
  rw [onGrid_natCast_iff, ← Int.natCast_dvd]
  push_cast
  rfl

theorem onGrid_of_nonpos {k : Int} (hk : k ≤ 0) (m : Nat) : OnGrid k (m : ℚ) := by
  have hzero : OnGrid 0 (m : ℚ) := ⟨m, by rw [zpow_zero, mul_one]⟩
  exact hzero.mono hk

theorem eq_zero_of_ofInt_eq (h : Float.ofInt z = Float.ofInt 0) : z = 0 := by
  by_contra hz
  have hzero : ofFloat? (Float.ofInt 0) = some ⟨false, 0, -1074, false⟩ := by rfl
  rw [← h] at hzero
  exact absurd (floatOf_of_ofFloat? hz hzero).atLeastOne.mantissa_pos (by decide)

theorem isPrinted_zero : IsPrinted 0 0 where
  same := rfl
  roundest _ k _ _ := dvd_zero _
  closest z x h _ _ := by
    obtain rfl := eq_zero_of_ofInt_eq h
    exact .inr ⟨rfl, le_rfl⟩

/-- There is only one such integer. -/
theorem IsPrinted.unique {d' : Int} (hlt : n.natAbs < 2 ^ 128) (h : IsPrinted n d)
    (h' : IsPrinted n d') : d = d' := by
  obtain ⟨x, hx⟩ := exists_ofFloat?_ofInt hlt
  by_cases hn : n = 0
  · subst hn
    rw [eq_zero_of_ofInt_eq h.same, eq_zero_of_ofInt_eq h'.same]
  · have hcloser := h.closest d' x h'.same hx fun k => h'.roundest d k h.same
    have hcloser' := h'.closest d x h.same hx fun k => h.roundest d' k h'.same
    have habs := hcloser.antisymm hcloser'
    have hsign := ((ofInt_eq_iff hn hx).1 h.same).2.1
    have hsign' := ((ofInt_eq_iff hn hx).1 h'.same).2.1
    have habs' : d.natAbs = d'.natAbs := by exact_mod_cast habs
    omega

theorem isPrinted_of_isShortest (hne : n ≠ 0) (hx : ofFloat? (Float.ofInt n) = some x)
    (hd : d ≠ 0) (hsign : d < 0 ↔ n < 0) (hshortest : x.IsShortest d.natAbs) : IsPrinted n d where
  same := (ofInt_eq_iff hne hx).2 ⟨hd, hsign, hshortest.covers⟩
  roundest z k hz hdvd := by
    have hcovers := ((ofInt_eq_iff hne hx).1 hz).2.2
    exact onGrid_natAbs_iff.1 (hshortest.roundest z.natAbs k hcovers (onGrid_natAbs_iff.2 hdvd))
  closest z y hz hy hround := by
    obtain rfl : x = y := by rwa [hx, Option.some.injEq] at hy
    have hcovers := ((ofInt_eq_iff hne hx).1 hz).2.2
    refine hshortest.closest z.natAbs hcovers fun k hk => ?_
    rcases Int.le_total k 0 with hneg | hpos
    · exact onGrid_of_nonpos hneg _
    · obtain ⟨i, rfl⟩ := Int.eq_ofNat_of_zero_le hpos
      exact onGrid_natAbs_iff.2 (hround i (onGrid_natAbs_iff.1 hk))

theorem exists_isPrinted (hlt : n.natAbs < 2 ^ 128) :
    ∃ d, IsPrinted n d ∧ FloatFormat.plain.render (Float.ofInt n) = toString d := by
  by_cases hne : n = 0
  · subst hne
    exact ⟨0, isPrinted_zero, by decide +kernel⟩
  · obtain ⟨x, hx⟩ := exists_ofFloat?_ofInt hlt
    have hfloat := floatOf_of_ofFloat? hne hx
    have hshortest := hfloat.atLeastOne.isShortest
    obtain ⟨k, hk⟩ := Int.eq_ofNat_of_zero_le (hfloat.atLeastOne.exponent_nonneg hfloat.whole)
    have htext : FloatFormat.plain.render (Float.ofInt n) =
        (if n < 0 then "-" else "") ++ FloatFormat.plain.positionalText (x.shortest .up) := by
      rw [FloatFormat.render, hx]
      dsimp only
      rw [if_neg hfloat.atLeastOne.mantissa_pos.ne', hfloat.negative]
      simp only [decide_eq_true_eq]
      rfl
    generalize x.shortest .up = s at *
    have hvalue : s.value = (s.digits * 10 ^ k : ℕ) := by
      rw [Decimal.value, hk]
      simp
    rw [hvalue] at hshortest
    have hdigits : 0 < s.digits := by
      have hpos := hfloat.atLeastOne.low_pos.trans_le hshortest.covers.low_le
      have hnat := Nat.cast_pos.1 hpos
      exact Nat.pos_of_mul_pos_right hnat
    rw [positionalText_plain hdigits hk] at htext
    have hpos : 0 < s.digits * 10 ^ k := by positivity
    generalize s.digits * 10 ^ k = m at *
    by_cases hneg : n < 0
    · refine ⟨-m, isPrinted_of_isShortest hne hx (by omega) (by omega) (by simpa using hshortest), ?_⟩
      rw [htext, if_pos hneg, toString_neg hpos]
    · refine ⟨m, isPrinted_of_isShortest hne hx (by omega) (by omega) (by simpa using hshortest), ?_⟩
      rw [htext, if_neg hneg, String.empty_append]
      rfl

/-- **An integer prints as it was written exactly if it is the roundest of the integers that become
the same float.** -/
theorem render_ofInt_eq_iff (hlt : n.natAbs < 2 ^ 128) :
    FloatFormat.plain.render (Float.ofInt n) = toString n ↔ IsPrinted n n := by
  obtain ⟨d, hd, htext⟩ := exists_isPrinted hlt
  rw [htext]
  constructor
  · intro h
    obtain rfl : d = n := Int.repr_inj.1 h
    exact hd
  · intro h
    rw [hd.unique hlt h]

/-! ## Small integers -/

/-- If the unit of the last place is not greater than one, the float covers only one integer. -/
theorem le_of_covers (hexponent : x.exponent ≤ 0) {a b : Nat} (ha : x.Covers a)
    (hb : x.Covers b) : a ≤ b := by
  by_contra hlt
  have hstep : (b : ℚ) + 1 ≤ a := by exact_mod_cast Nat.lt_of_not_le hlt
  have hlow := hb.low_le
  have hhigh := ha.le_high
  have hwidth := x.high_sub_low_eq
  rcases hexponent.lt_or_eq with hneg | hzero
  · have hunit : (2 : ℚ) ^ x.exponent ≤ 2 ^ (-1 : Int) :=
      zpow_le_zpow_right₀ (by norm_num) (by omega)
    norm_num at hunit
    have hpos := two_zpow_pos x.exponent
    split at hwidth <;> linarith
  · rw [hzero, zpow_zero, mul_one] at hwidth
    split at hwidth
    · linarith
    · -- the bounds would be integers, but they are halves
      rename_i hnarrow
      have hle : (b : ℚ) = x.mantissa - 1 / 2 := by
        rw [low, hzero, if_neg hnarrow, zpow_zero, mul_one] at hlow hwidth
        linarith
      have hodd : 2 * (b : ℤ) + 1 = 2 * x.mantissa := by
        have hcast : 2 * (b : ℚ) + 1 = 2 * x.mantissa := by linarith
        exact_mod_cast hcast
      omega

theorem isPrinted_of_lt (h : n.natAbs < 2 ^ 53) : IsPrinted n n := by
  by_cases hne : n = 0
  · subst hne
    exact isPrinted_zero
  obtain ⟨x, hx⟩ := exists_ofFloat?_ofInt (n := n) (by omega)
  have hexponent : x.exponent ≤ 0 := by
    obtain ⟨m, e, -, hparts, -, rfl, -⟩ := exists_of_ofFloat?_ofInt hne hx
    by_contra hlarge
    have hunit : (2 : ℚ) ^ (1 : Int) ≤ 2 ^ e := zpow_le_zpow_right₀ (by norm_num) (by
      dsimp only [full] at hlarge
      omega)
    have hlow := (le_low_full hparts.le_mantissa).trans (hparts.covers (decide (n < 0))).low_le
    have hcast : (n.natAbs : ℚ) + 1 ≤ 2 ^ 53 := by exact_mod_cast h
    norm_num [hiddenBit] at hunit hlow hcast
    linarith
  have hn := (floatOf_of_ofFloat? hne hx).covers
  have hsame : ∀ z, Float.ofInt z = Float.ofInt n → z = n := by
    intro z hz
    obtain ⟨-, hsign, hcovers⟩ := (ofInt_eq_iff hne hx).1 hz
    have habs := le_antisymm (le_of_covers hexponent hcovers hn) (le_of_covers hexponent hn hcovers)
    omega
  refine ⟨rfl, fun z k hz hdvd => ?_, fun z y hz _ _ => ?_⟩
  · rwa [← hsame z hz]
  · rw [hsame z hz]
    exact .inr ⟨rfl, le_rfl⟩

/-- The first integer that shares its float: the other one is farther from the float, and no more
round. -/
theorem isPrinted_of_eq (h : n.natAbs = 2 ^ 53) : IsPrinted n n := by
  have hne : n ≠ 0 := by omega
  have hx : ofFloat? (Float.ofInt n) = some (full (decide (n < 0)) hiddenBit 1) := by
    obtain rfl | rfl : n = 2 ^ 53 ∨ n = -2 ^ 53 := by omega
    · decide +kernel
    · decide +kernel
  have hsame : ∀ z, Float.ofInt z = Float.ofInt n → z = n ∨ z.natAbs = 2 ^ 53 + 1 := by
    intro z hz
    obtain ⟨-, hsign, hcovers⟩ := (ofInt_eq_iff hne hx).1 hz
    have hlow := hcovers.low_le
    have hhigh := hcovers.le_high
    have hle : (2 : ℚ) ^ 53 - 1 / 2 ≤ z.natAbs := by
      norm_num [low, full, hiddenBit] at hlow ⊢
      exact hlow
    have hge : (z.natAbs : ℚ) ≤ 2 ^ 53 + 1 := by
      norm_num [high, full, hiddenBit] at hhigh ⊢
      exact hhigh
    have hge' : z.natAbs ≤ 2 ^ 53 + 1 := by exact_mod_cast hge
    have hle' : 2 ^ 53 ≤ z.natAbs := by
      by_contra hlt
      have hcast : (z.natAbs : ℚ) + 1 ≤ 2 ^ 53 := by exact_mod_cast Nat.lt_of_not_le hlt
      linarith
    omega
  refine ⟨rfl, fun z k hz hdvd => ?_, fun z y hz hy _ => ?_⟩
  · rcases hsame z hz with rfl | habs
    · exact hdvd
    · cases k with
      | zero => simp
      | succ k =>
        have hten : (10 : Int) ∣ z := (dvd_pow_self 10 k.succ_ne_zero).trans hdvd
        omega
  · rcases hsame z hz with rfl | habs
    · exact .inr ⟨rfl, le_rfl⟩
    · obtain rfl : full _ hiddenBit 1 = y := by rwa [hx, Option.some.injEq] at hy
      have hvalue : (full (decide (n < 0)) hiddenBit 1).magnitude = n.natAbs := by
        rw [h]
        norm_num [magnitude, full, hiddenBit]
      refine closer_of_ge_of_ge hvalue.le ?_
      exact_mod_cast (show n.natAbs ≤ z.natAbs by omega)

/-- **Integers up to `2 ^ 53` print as they were written.** -/
theorem isPrinted_self (h : n.natAbs ≤ 2 ^ 53) : IsPrinted n n :=
  h.lt_or_eq.elim isPrinted_of_lt isPrinted_of_eq

end LabelPress.Number
