import LabelPress.Number.Shortest
import Mathlib.Data.Nat.Cast.Order.Field
import Mathlib.Algebra.Order.Floor.Semifield
import Mathlib.Data.Rat.Floor
import Mathlib.Tactic.FieldSimp
import Mathlib.Tactic.Linarith
import Mathlib.Tactic.NormNum
import Mathlib.Tactic.Positivity
import Mathlib.Tactic.Ring

/-!
# The decimal that is written for a float

The numbers that round to a float lie between the halves to its neighbours (`Binary64.Covers`).
The digits are looked for on coarser grids first, so what is found is a multiple of the greatest
power of ten that any of these numbers is a multiple of.

* `readsBack_iff`: a decimal reads back as the float exactly if the float covers it.
* `isNearest_of_candidate?`, `not_covers_of_candidate?`: what is found on one grid is the nearest
  decimal there (`IsNearest`), and if nothing is found there is none.
* `AtLeastOne.exists_onGrid`: seventeen digits suffice.
* `AtLeastOne.isShortest`: **the decimal that is found is the roundest, and of several the nearest**
  (`IsShortest`).
-/

namespace LabelPress.Number

/-- The number that the decimal stands for. -/
def Decimal.value (d : Decimal) : ℚ := d.digits * 10 ^ d.exponent

theorem zpow_mul_pow_toNat {b : ℚ} (hb : b ≠ 0) (i : Int) :
    b ^ i * b ^ (-i).toNat = b ^ i.toNat := by
  rw [← zpow_natCast, ← zpow_natCast, ← zpow_add₀ hb]
  congr 1
  omega

theorem compare_natCast (a b : Nat) : compare a b = compare (a : ℚ) b := by
  rcases lt_trichotomy a b with h | h | h
  · rw [compare_lt_iff_lt.2 h, compare_lt_iff_lt.2 (Nat.cast_lt.2 h)]
  · rw [compare_eq_iff_eq.2 h, compare_eq_iff_eq.2 (congrArg _ h)]
  · rw [compare_gt_iff_gt.2 h, compare_gt_iff_gt.2 (Nat.cast_lt.2 h)]

theorem compare_mul_right {a b c : ℚ} (hc : 0 < c) : compare (a * c) (b * c) = compare a b := by
  rcases lt_trichotomy a b with h | h | h
  · rw [compare_lt_iff_lt.2 h, compare_lt_iff_lt.2 (mul_lt_mul_of_pos_right h hc)]
  · rw [compare_eq_iff_eq.2 h, compare_eq_iff_eq.2 (by rw [h])]
  · rw [compare_gt_iff_gt.2 h, compare_gt_iff_gt.2 (mul_lt_mul_of_pos_right h hc)]

/-- The comparison is exact: both sides are multiplied by what clears their denominators. -/
theorem compareScaled_eq (a : Nat) (i : Int) (n : Nat) (j : Int) :
    compareScaled a i n j = compare ((a : ℚ) * 10 ^ i) (n * 2 ^ j) := by
  have hten := zpow_mul_pow_toNat (b := 10) (by norm_num) i
  have htwo := zpow_mul_pow_toNat (b := 2) (by norm_num) j
  have hpos : (0 : ℚ) < 10 ^ (-i).toNat * 2 ^ (-j).toNat := by positivity
  have hleft : ((a * Nat.pow 10 i.toNat * Nat.pow 2 (-j).toNat : ℕ) : ℚ) =
      a * 10 ^ i * (10 ^ (-i).toNat * 2 ^ (-j).toNat) := by
    push_cast [Nat.pow_eq]
    rw [← hten]
    ring
  have hright : ((n * Nat.pow 2 j.toNat * Nat.pow 10 (-i).toNat : ℕ) : ℚ) =
      n * 2 ^ j * (10 ^ (-i).toNat * 2 ^ (-j).toNat) := by
    push_cast [Nat.pow_eq]
    rw [← htwo]
    ring
  rw [compareScaled, compare_natCast, hleft, hright, compare_mul_right hpos]

namespace Binary64

variable {x : Binary64}

def magnitude (x : Binary64) : ℚ := x.mantissa * 2 ^ x.exponent

/-- Halfway to the next float towards zero. -/
def low (x : Binary64) : ℚ := (x.mantissa - if x.narrow then 1 / 4 else 1 / 2) * 2 ^ x.exponent

/-- Halfway to the next float on the other side. -/
def high (x : Binary64) : ℚ := (x.mantissa + 1 / 2) * 2 ^ x.exponent

/-- The number rounds to the magnitude of the float; what lies halfway does if the mantissa is
even. -/
structure Covers (x : Binary64) (q : ℚ) : Prop where
  low_le : x.low ≤ q
  le_high : q ≤ x.high
  inside : x.mantissa % 2 ≠ 0 → x.low < q ∧ q < x.high

theorem readsBack_iff (hm : 0 < x.mantissa) {d : Decimal} :
    x.readsBack d = true ↔ x.Covers d.value := by
  have hscale : (2 : ℚ) ^ (x.exponent - 2) = 2 ^ x.exponent / 4 := by
    rw [zpow_sub₀ (by norm_num)]
    norm_num
  have hlow : ((4 * x.mantissa - (if x.narrow then 1 else 2) : ℕ) : ℚ) * 2 ^ (x.exponent - 2) =
      x.low := by
    rw [Nat.cast_sub (by split <;> omega), hscale, low]
    push_cast
    split <;> ring
  have hhigh : ((4 * x.mantissa + 2 : ℕ) : ℚ) * 2 ^ (x.exponent - 2) = x.high := by
    rw [hscale, high]
    push_cast
    ring
  unfold readsBack
  rw [compareScaled_eq, compareScaled_eq, hlow, hhigh, ← Decimal.value]
  simp only [Bool.and_eq_true, Bool.or_eq_true, beq_iff_eq, compare_gt_iff_gt, compare_lt_iff_lt,
    compare_eq_iff_eq]
  constructor
  · rintro ⟨hl, hh⟩
    refine ⟨?_, ?_, fun hodd => ⟨?_, ?_⟩⟩
    · exact hl.elim le_of_lt fun h => h.2.ge
    · exact hh.elim le_of_lt fun h => h.2.le
    · exact hl.resolve_right fun h => hodd h.1
    · exact hh.resolve_right fun h => hodd h.1
  · rintro ⟨hle, hge, hinside⟩
    by_cases heven : x.mantissa % 2 = 0
    · exact ⟨hle.lt_or_eq.imp_right fun h => ⟨heven, h.symm⟩,
        hge.lt_or_eq.imp_right fun h => ⟨heven, h⟩⟩
    · exact ⟨.inl (hinside heven).1, .inl (hinside heven).2⟩

theorem Covers.of_between {p q r : ℚ} (hp : x.Covers p) (hr : x.Covers r) (hpq : p ≤ q)
    (hqr : q ≤ r) : x.Covers q where
  low_le := hp.low_le.trans hpq
  le_high := hqr.trans hr.le_high
  inside h := ⟨(hp.inside h).1.trans_le hpq, hqr.trans_lt (hr.inside h).2⟩

theorem two_zpow_pos (e : Int) : (0 : ℚ) < 2 ^ e := zpow_pos (by norm_num) e

theorem ten_zpow_pos (k : Int) : (0 : ℚ) < 10 ^ k := zpow_pos (by norm_num) k

theorem low_lt_magnitude (x : Binary64) : x.low < x.magnitude := by
  unfold low magnitude
  refine mul_lt_mul_of_pos_right ?_ (two_zpow_pos _)
  split <;> linarith

theorem magnitude_lt_high (x : Binary64) : x.magnitude < x.high := by
  unfold magnitude high
  exact mul_lt_mul_of_pos_right (by linarith) (two_zpow_pos _)

theorem high_sub_low_eq (x : Binary64) :
    x.high - x.low = (if x.narrow then 3 / 4 else 1) * 2 ^ x.exponent := by
  unfold high low
  split <;> ring

theorem covers_magnitude (x : Binary64) : x.Covers x.magnitude where
  low_le := x.low_lt_magnitude.le
  le_high := x.magnitude_lt_high.le
  inside _ := ⟨x.low_lt_magnitude, x.magnitude_lt_high⟩

theorem le_low_of_not_covers {q : ℚ} (hq : q ≤ x.magnitude) (h : ¬ x.Covers q) : q ≤ x.low := by
  by_contra hlow
  rw [not_le] at hlow
  have hhigh := hq.trans_lt x.magnitude_lt_high
  exact h ⟨hlow.le, hhigh.le, fun _ => ⟨hlow, hhigh⟩⟩

theorem high_le_of_not_covers {q : ℚ} (hq : x.magnitude ≤ q) (h : ¬ x.Covers q) : x.high ≤ q := by
  by_contra hhigh
  rw [not_le] at hhigh
  have hlow := x.low_lt_magnitude.trans_le hq
  exact h ⟨hlow.le, hhigh.le, fun _ => ⟨hlow, hhigh⟩⟩

/-! ## Multiples of a power of ten -/

/-- A multiple of `10 ^ k`. -/
def OnGrid (k : Int) (q : ℚ) : Prop := ∃ z : ℕ, q = z * 10 ^ k

variable {j k : Int} {p q : ℚ}

theorem onGrid_value (d : Decimal) : OnGrid d.exponent d.value := ⟨d.digits, rfl⟩

theorem OnGrid.mono (h : OnGrid k q) (hjk : j ≤ k) : OnGrid j q := by
  obtain ⟨z, rfl⟩ := h
  obtain ⟨n, rfl⟩ := Int.le.dest hjk
  refine ⟨z * 10 ^ n, ?_⟩
  rw [zpow_add₀ (by norm_num), zpow_natCast]
  push_cast
  ring

theorem quotient_eq_floor (x : Binary64) (k : Int) :
    x.quotient k = ⌊x.magnitude / 10 ^ k⌋₊ := by
  have hten := zpow_mul_pow_toNat (b := 10) (by norm_num) k
  have htwo := zpow_mul_pow_toNat (b := 2) (by norm_num) x.exponent
  rw [quotient, ← Nat.floor_div_eq_div (K := ℚ)]
  congr 1
  push_cast [Nat.pow_eq]
  rw [← hten, ← htwo, magnitude]
  have hne := (ten_zpow_pos k).ne'
  field_simp

/-- The multiple of `10 ^ k` next to the magnitude of the float, towards zero. -/
def below (x : Binary64) (k : Int) : ℚ := Decimal.value ⟨x.quotient k, k⟩

/-- The next multiple of `10 ^ k` on the other side. -/
def above (x : Binary64) (k : Int) : ℚ := Decimal.value ⟨x.quotient k + 1, k⟩

theorem magnitude_nonneg (x : Binary64) : 0 ≤ x.magnitude :=
  mul_nonneg (Nat.cast_nonneg _) (two_zpow_pos _).le

theorem below_le (x : Binary64) (k : Int) : x.below k ≤ x.magnitude := by
  have hpos := ten_zpow_pos k
  have hfloor := Nat.floor_le (div_nonneg x.magnitude_nonneg hpos.le)
  rw [← quotient_eq_floor, le_div_iff₀ hpos] at hfloor
  exact hfloor

theorem lt_above (x : Binary64) (k : Int) : x.magnitude < x.above k := by
  have hpos := ten_zpow_pos k
  have hfloor := Nat.lt_floor_add_one (x.magnitude / 10 ^ k)
  rw [← quotient_eq_floor, div_lt_iff₀ hpos] at hfloor
  simpa [above, Decimal.value] using hfloor

theorem above_eq (x : Binary64) (k : Int) : x.above k = x.below k + 10 ^ k := by
  simp only [above, below, Decimal.value]
  push_cast
  ring

/-- There is no multiple between the two. -/
theorem OnGrid.side (hq : OnGrid k q) : q ≤ x.below k ∨ x.above k ≤ q := by
  obtain ⟨z, rfl⟩ := hq
  have hpos := (ten_zpow_pos k).le
  rcases Nat.lt_or_ge (x.quotient k) z with h | h
  · exact .inr (mul_le_mul_of_nonneg_right (Nat.cast_le.2 h) hpos)
  · exact .inl (mul_le_mul_of_nonneg_right (Nat.cast_le.2 h) hpos)

/-- One of the two rounds to the float if any multiple does. -/
theorem Covers.side (hcovers : x.Covers q) (hq : OnGrid k q) :
    q ≤ x.below k ∧ x.Covers (x.below k) ∨ x.above k ≤ q ∧ x.Covers (x.above k) := by
  have hbelow := x.below_le k
  have habove := (x.lt_above k).le
  rcases hq.side (x := x) with h | h
  · exact .inl ⟨h, hcovers.of_between x.covers_magnitude h hbelow⟩
  · exact .inr ⟨h, x.covers_magnitude.of_between hcovers habove h⟩

/-- Nearer to the float than the other number, or as near and not below it. -/
def Closer (x : Binary64) (p q : ℚ) : Prop :=
  |x.magnitude - p| < |x.magnitude - q| ∨ |x.magnitude - p| = |x.magnitude - q| ∧ q ≤ p

theorem Closer.antisymm (h : x.Closer p q) (h' : x.Closer q p) : p = q := by
  rcases h with hlt | ⟨heq, hle⟩ <;> rcases h' with hgt | ⟨heq', hge⟩
  · exact absurd hgt hlt.not_gt
  · exact absurd heq' hlt.ne'
  · exact absurd heq hgt.ne'
  · exact le_antisymm hge hle

theorem closer_of_le_of_le (hqp : q ≤ p) (hp : p ≤ x.magnitude) : x.Closer p q := by
  unfold Closer
  rw [abs_of_nonneg (sub_nonneg.2 hp), abs_of_nonneg (sub_nonneg.2 (hqp.trans hp))]
  rcases hqp.lt_or_eq with h | rfl
  · exact .inl (sub_lt_sub_left h _)
  · exact .inr ⟨rfl, le_rfl⟩

theorem closer_of_ge_of_ge (hp : x.magnitude ≤ p) (hpq : p ≤ q) : x.Closer p q := by
  unfold Closer
  rw [abs_of_nonpos (sub_nonpos.2 hp), abs_of_nonpos (sub_nonpos.2 (hp.trans hpq))]
  rcases hpq.lt_or_eq with h | rfl
  · exact .inl (by linarith)
  · exact .inr ⟨rfl, le_rfl⟩

/-- The decimal is the nearest multiple of `10 ^ k` that rounds to the float, the greater one of
two. -/
structure IsNearest (x : Binary64) (k : Int) (d : Decimal) : Prop where
  exponent : d.exponent = k
  covers : x.Covers d.value
  closer : ∀ q, x.Covers q → OnGrid k q → x.Closer d.value q

theorem isNearest_below (hbelow : x.Covers (x.below k))
    (h : x.Covers (x.above k) → 2 * x.magnitude < x.below k + x.above k) :
    x.IsNearest k ⟨x.quotient k, k⟩ where
  exponent := rfl
  covers := hbelow
  closer q hq hgrid := by
    have hle := x.below_le k
    rcases hq.side hgrid with ⟨hqle, -⟩ | ⟨hqge, habove⟩
    · exact closer_of_le_of_le hqle hle
    · left
      have hmid := h habove
      have hlt := x.lt_above k
      rw [← below, abs_of_nonneg (sub_nonneg.2 hle), abs_of_nonpos (by linarith)]
      linarith

theorem isNearest_above (habove : x.Covers (x.above k))
    (h : x.Covers (x.below k) → x.below k + x.above k ≤ 2 * x.magnitude) :
    x.IsNearest k ⟨x.quotient k + 1, k⟩ where
  exponent := rfl
  covers := habove
  closer q hq hgrid := by
    have hlt := x.lt_above k
    rcases hq.side hgrid with ⟨hqle, hbelow⟩ | ⟨hqge, -⟩
    · have hmid := h hbelow
      have hle := x.below_le k
      unfold Closer
      rw [← above, abs_of_nonpos (by linarith), abs_of_nonneg (by linarith)]
      rcases lt_or_ge (-(x.magnitude - x.above k)) (x.magnitude - q) with hnear | hfar
      · exact .inl hnear
      · exact .inr ⟨by linarith, by linarith⟩
    · exact closer_of_ge_of_ge hlt.le hqge

theorem compare_middle (x : Binary64) (k : Int) :
    compareScaled (2 * x.quotient k + 1) k x.mantissa (x.exponent + 1) =
      compare (x.below k + x.above k) (2 * x.magnitude) := by
  rw [compareScaled_eq, above_eq, below, Decimal.value, magnitude, zpow_add₀ (by norm_num)]
  congr 1
  · push_cast
    ring
  · ring

/-- What is found among the multiples of `10 ^ k` is the nearest. -/
theorem isNearest_of_candidate? (hm : 0 < x.mantissa) {d : Decimal}
    (h : x.candidate? .up k = some d) : x.IsNearest k d := by
  have hbelow : x.readsBack ⟨x.quotient k, k⟩ = true ↔ x.Covers (x.below k) := readsBack_iff hm
  have habove : x.readsBack ⟨x.quotient k + 1, k⟩ = true ↔ x.Covers (x.above k) := readsBack_iff hm
  unfold candidate? at h
  simp only [compare_middle] at h
  split at h
  · rename_i hb ha
    split at h
    · rename_i hcompare
      obtain rfl := Option.some.inj h
      exact isNearest_below (hbelow.1 hb) fun _ => compare_gt_iff_gt.1 hcompare
    · rename_i hcompare
      obtain rfl := Option.some.inj h
      exact isNearest_above (habove.1 ha) fun _ => (compare_lt_iff_lt.1 hcompare).le
    · rename_i hcompare _
      obtain rfl := Option.some.inj h
      exact isNearest_above (habove.1 ha) fun _ => (compare_eq_iff_eq.1 hcompare).le
    · contradiction
  · rename_i hb ha
    obtain rfl := Option.some.inj h
    exact isNearest_below (hbelow.1 hb) fun hcovers => by simp [habove.2 hcovers] at ha
  · rename_i hb ha
    obtain rfl := Option.some.inj h
    exact isNearest_above (habove.1 ha) fun hcovers => by simp [hbelow.2 hcovers] at hb
  · cases h

/-- If none is found, no multiple of `10 ^ k` rounds to the float. -/
theorem not_covers_of_candidate? (hm : 0 < x.mantissa) (h : x.candidate? .up k = none)
    (hq : OnGrid k q) : ¬ x.Covers q := by
  have hnone : x.readsBack ⟨x.quotient k, k⟩ = false ∧
      x.readsBack ⟨x.quotient k + 1, k⟩ = false := by
    unfold candidate? at h
    dsimp only at h
    split at h
    · split at h <;> cases h
    · cases h
    · cases h
    · exact ⟨‹_›, ‹_›⟩
  intro hcovers
  rcases hcovers.side hq with ⟨-, hside⟩ | ⟨-, hside⟩
  · exact absurd ((readsBack_iff hm).2 hside) (by simp [hnone.1])
  · exact absurd ((readsBack_iff hm).2 hside) (by simp [hnone.2])

/-! ## The place of the leading digit -/

/-- A power of two lies between the powers of ten around its estimated place. -/
theorem estimate_spec : ∀ n < 1100, 10 ^ (n * 30103 / 100000) ≤ 10 * 2 ^ n ∧
    2 ^ (n + 1) ≤ 10 ^ (n * 30103 / 100000 + 2) := by
  decide +kernel

theorem two_zpow_le_magnitude (hm : 0 < x.mantissa) :
    2 ^ ((x.mantissa.log2 : Int) + x.exponent) ≤ x.magnitude := by
  have hle : ((2 ^ x.mantissa.log2 : ℕ) : ℚ) ≤ x.mantissa :=
    Nat.cast_le.2 (Nat.log2_self_le hm.ne')
  rw [zpow_add₀ (by norm_num), zpow_natCast, magnitude]
  exact mul_le_mul_of_nonneg_right (by simpa using hle) (two_zpow_pos _).le

theorem magnitude_lt_two_zpow (x : Binary64) :
    x.magnitude < 2 ^ ((x.mantissa.log2 : Int) + x.exponent + 1) := by
  have hlt : (x.mantissa : ℚ) < (2 ^ (x.mantissa.log2 + 1) : ℕ) :=
    Nat.cast_lt.2 Nat.lt_log2_self
  rw [add_right_comm, zpow_add₀ (by norm_num), magnitude]
  exact mul_lt_mul_of_pos_right (by exact_mod_cast hlt) (two_zpow_pos _)

theorem compareScaled_magnitude (a : Nat) (i : Int) (x : Binary64) :
    compareScaled a i x.mantissa x.exponent = compare ((a : ℚ) * 10 ^ i) x.magnitude :=
  compareScaled_eq a i _ _

/-- The scale is the number of digits before the point. -/
theorem scale_spec (hm : 0 < x.mantissa) {n : Nat} (hn : n < 1100)
    (hlog : (x.mantissa.log2 : Int) + x.exponent = n) :
    10 ^ (x.scale - 1) ≤ x.magnitude ∧ x.magnitude < 10 ^ x.scale := by
  obtain ⟨hlow, hhigh⟩ := estimate_spec n hn
  have hge := two_zpow_le_magnitude hm
  have hlt := magnitude_lt_two_zpow x
  have hestimate : ((x.mantissa.log2 : Int) + x.exponent) * 30103 / 100000
      = (n * 30103 / 100000 : Nat) := by
    rw [hlog]
    rfl
  rw [hlog] at hge hlt
  unfold scale
  simp only [compareScaled_magnitude, hestimate, Nat.cast_one, one_mul, bne_iff_ne, ne_eq,
    beq_iff_eq, compare_gt_iff_gt, not_lt]
  generalize n * 30103 / 100000 = estimate at hlow hhigh
  have hlow' : (10 : ℚ) ^ ((estimate : Int) - 1) ≤ x.magnitude := by
    refine le_trans ?_ hge
    rw [zpow_sub₀ (by norm_num), div_le_iff₀ (by norm_num), zpow_natCast, zpow_natCast]
    exact_mod_cast hlow.trans_eq (Nat.mul_comm _ _)
  have hhigh' : x.magnitude < 10 ^ ((estimate : Int) + 2) := by
    refine hlt.trans_le ?_
    exact_mod_cast hhigh
  split_ifs with hnext hthis
  · rw [add_sub_assoc]
    exact ⟨hnext, hhigh'⟩
  · exact ⟨hlow', hthis⟩
  · rw [add_sub_cancel_right]
    exact ⟨not_lt.1 hthis, not_le.1 hnext⟩

/-! ## Seventeen digits -/

/-- A float from 1 on, with all of its 53 bits. -/
structure AtLeastOne (x : Binary64) : Prop where
  le_mantissa : hiddenBit ≤ x.mantissa
  mantissa_lt : x.mantissa < 2 * hiddenBit
  mantissa_of_narrow : x.narrow = true → x.mantissa = hiddenBit
  le_exponent : -52 ≤ x.exponent
  exponent_lt : x.exponent < 1000

namespace AtLeastOne

variable (hx : x.AtLeastOne)
include hx

theorem mantissa_pos : 0 < x.mantissa := Nat.lt_of_lt_of_le (by decide) hx.le_mantissa

theorem scale_spec : 10 ^ (x.scale - 1) ≤ x.magnitude ∧ x.magnitude < 10 ^ x.scale := by
  have hlog : x.mantissa.log2 = 52 :=
    (Nat.log2_eq_iff hx.mantissa_pos.ne').2 ⟨hx.le_mantissa, hx.mantissa_lt⟩
  have hle := hx.le_exponent
  have hlt := hx.exponent_lt
  refine Binary64.scale_spec hx.mantissa_pos (n := (52 + x.exponent).toNat) (by omega) ?_
  omega

theorem hiddenBit_mul_le : 4503599627370496 * (2 : ℚ) ^ x.exponent ≤ x.magnitude := by
  have hle : ((hiddenBit : ℕ) : ℚ) ≤ x.mantissa := Nat.cast_le.2 hx.le_mantissa
  exact mul_le_mul_of_nonneg_right (by simpa [hiddenBit] using hle) (two_zpow_pos _).le

theorem lt_hiddenBit_mul : x.magnitude < 9007199254740992 * (2 : ℚ) ^ x.exponent := by
  have hlt : (x.mantissa : ℚ) < (2 * hiddenBit : ℕ) := Nat.cast_lt.2 hx.mantissa_lt
  exact mul_lt_mul_of_pos_right (by norm_num [hiddenBit] at hlt ⊢; exact hlt) (two_zpow_pos _)

theorem low_pos : 0 < x.low := by
  have hle : (1 : ℚ) ≤ x.mantissa := Nat.one_le_cast.2 hx.mantissa_pos
  refine mul_pos ?_ (two_zpow_pos _)
  split <;> linarith

/-- The numbers that round to the float do not reach from one multiple of this power of ten to the
next, -/
theorem high_sub_low_lt : x.high - x.low < 10 ^ (x.scale - 1) := by
  have hpos := two_zpow_pos x.exponent
  have hlt := hx.scale_spec.2
  have hle := hx.hiddenBit_mul_le
  have hten : (10 : ℚ) ^ x.scale = 10 ^ (x.scale - 1) * 10 := by
    rw [← zpow_add_one₀ (by norm_num), sub_add_cancel]
  rw [high_sub_low_eq]
  split <;> linarith

/-- and of this one they do. -/
theorem lt_high_sub_low : 10 ^ (x.scale - 17) < x.high - x.low := by
  have hpos := two_zpow_pos x.exponent
  have hle := hx.scale_spec.1
  have hlt := hx.lt_hiddenBit_mul
  have hten : (10 : ℚ) ^ (x.scale - 1) = 10 ^ (x.scale - 17) * 10000000000000000 := by
    rw [show x.scale - 1 = x.scale - 17 + (16 : ℕ) by omega, zpow_add₀ (by norm_num), zpow_natCast]
    norm_num
  rw [high_sub_low_eq]
  split
  · rename_i hnarrow
    have hmantissa : x.magnitude = 4503599627370496 * 2 ^ x.exponent := by
      rw [magnitude, hx.mantissa_of_narrow hnarrow]
      rfl
    linarith
  · linarith

/-- Seventeen digits always suffice. -/
theorem exists_onGrid : ∃ q, OnGrid (x.scale - 17) q ∧ x.Covers q := by
  by_contra hnone
  simp only [not_exists, not_and] at hnone
  have hbelow := le_low_of_not_covers (x.below_le _) (hnone _ (onGrid_value _))
  have habove := high_le_of_not_covers (x.lt_above _).le (hnone _ (onGrid_value _))
  have hstep := x.above_eq (x.scale - 17)
  have hlt := hx.lt_high_sub_low
  linarith

end AtLeastOne

/-! ## The shortest decimal -/

theorem exists_of_findSome?_range {α : Type} {f : Nat → Option α} {n : Nat} {a : α}
    (h : (List.range n).findSome? f = some a) : ∃ i < n, f i = some a ∧ ∀ j < i, f j = none := by
  induction n with
  | zero => simp at h
  | succ n ih =>
    rw [List.range_succ, List.findSome?_append] at h
    cases hfront : (List.range n).findSome? f with
    | some b =>
      rw [hfront] at h ih
      obtain ⟨i, hi, hfound⟩ := ih h
      exact ⟨i, hi.trans n.lt_succ_self, hfound⟩
    | none =>
      rw [List.findSome?_eq_none_iff] at hfront
      rw [List.findSome?_eq_none_iff.2 hfront, Option.none_or, List.findSome?_singleton] at h
      exact ⟨n, n.lt_succ_self, h, fun j hj => hfront j (List.mem_range.2 hj)⟩

theorem value_stripZeros (limit : Nat) (d : Decimal) : (stripZeros limit d).value = d.value := by
  induction limit generalizing d with
  | zero => rfl
  | succ limit ih =>
    unfold stripZeros
    split
    · rename_i hzero
      have hdigits : d.digits = d.digits / 10 * 10 := by omega
      rw [ih, Decimal.value, Decimal.value, zpow_add_one₀ (by norm_num)]
      conv => rhs; rw [hdigits]
      push_cast
      ring
    · rfl

theorem exponent_le_stripZeros (limit : Nat) (d : Decimal) :
    d.exponent ≤ (stripZeros limit d).exponent := by
  induction limit generalizing d with
  | zero => exact le_rfl
  | succ limit ih =>
    unfold stripZeros
    split
    · exact (Int.le_add_one le_rfl).trans (ih _)
    · exact le_rfl

/-- The number is written for the float: it is a multiple of every power of ten that some number
that rounds to the float is a multiple of, and no number that rounds to the float and is as round
is closer. -/
structure IsShortest (x : Binary64) (p : ℚ) : Prop where
  covers : x.Covers p
  roundest : ∀ q k, x.Covers q → OnGrid k q → OnGrid k p
  closest : ∀ q, x.Covers q → (∀ k, OnGrid k p → OnGrid k q) → x.Closer p q

namespace AtLeastOne

theorem le_of_onGrid (hx : x.AtLeastOne) (hp : x.Covers p) (hpgrid : OnGrid (x.scale - 1) p)
    (hq : x.Covers q) (hqgrid : OnGrid (x.scale - 1) q) : p ≤ q := by
  obtain ⟨a, rfl⟩ := hpgrid
  obtain ⟨b, rfl⟩ := hqgrid
  have hpos := ten_zpow_pos (x.scale - 1)
  refine mul_le_mul_of_nonneg_right (Nat.cast_le.2 ?_) hpos.le
  by_contra hlt
  have hstep : ((b + 1 : ℕ) : ℚ) * 10 ^ (x.scale - 1) ≤ a * 10 ^ (x.scale - 1) :=
    mul_le_mul_of_nonneg_right (Nat.cast_le.2 (by omega)) hpos.le
  have hwidth := hx.high_sub_low_lt
  have hhigh := hp.le_high
  have hlow := hq.low_le
  push_cast at hstep
  linarith

theorem one_le_magnitude (hx : x.AtLeastOne) : 1 ≤ x.magnitude := by
  have hexponent : (2 : ℚ) ^ (-52 : Int) ≤ 2 ^ x.exponent :=
    zpow_le_zpow_right₀ (by norm_num) hx.le_exponent
  have hle := hx.hiddenBit_mul_le
  norm_num at hexponent
  linarith

theorem one_le_scale (hx : x.AtLeastOne) : 1 ≤ x.scale := by
  by_contra hscale
  have hle : (10 : ℚ) ^ x.scale ≤ 10 ^ (0 : Int) := zpow_le_zpow_right₀ (by norm_num) (by omega)
  rw [zpow_zero] at hle
  exact absurd (hx.scale_spec.2.trans_le hle) hx.one_le_magnitude.not_gt

/-- The first power of ten with a multiple that rounds to the float. -/
theorem exists_nearest (hx : x.AtLeastOne) : ∃ (n : Nat) (d : Decimal),
    x.IsNearest (x.scale - (n + 1 : Nat)) d ∧ x.shortest .up = stripZeros 20 d ∧
    ∀ i < n, ∀ q, OnGrid (x.scale - (i + 1 : Nat)) q → ¬ x.Covers q := by
  have hm := hx.mantissa_pos
  unfold shortest
  dsimp only
  cases hsearch : (List.range 17).findSome? fun n => x.candidate? .up (x.scale - (n + 1 : Nat)) with
  | none =>
    obtain ⟨q, hgrid, hcovers⟩ := hx.exists_onGrid
    rw [List.findSome?_eq_none_iff] at hsearch
    exact absurd hcovers (not_covers_of_candidate? hm (hsearch 16 (by decide)) hgrid)
  | some d =>
    obtain ⟨n, -, hfound, hnone⟩ := exists_of_findSome?_range hsearch
    exact ⟨n, d, isNearest_of_candidate? hm hfound, rfl,
      fun i hi q hgrid => not_covers_of_candidate? hm (hnone i hi) hgrid⟩

theorem isShortest (hx : x.AtLeastOne) : x.IsShortest (x.shortest .up).value := by
  obtain ⟨n, d, hnearest, hshortest, hnone⟩ := hx.exists_nearest
  rw [hshortest, value_stripZeros]
  have hgrid : OnGrid (x.scale - (n + 1 : Nat)) d.value := hnearest.exponent ▸ onGrid_value d
  refine ⟨hnearest.covers, fun q k hq hqgrid => ?_, fun q hq hround => ?_⟩
  · by_cases hk : k ≤ x.scale - (n + 1 : Nat)
    · exact hgrid.mono hk
    · -- multiples of greater powers of ten have been looked for, or are too far from each other
      have hle : x.scale - 1 ≤ x.scale - (n + 1 : Nat) := by
        by_contra hn
        have hi := hnone (x.scale - 1 - min k (x.scale - 1)).toNat (by omega) q
          (hqgrid.mono (by omega))
        exact hi hq
      have hq' : OnGrid (x.scale - 1) q := hqgrid.mono (by omega)
      have hp' := hgrid.mono hle
      have heq : d.value = q := le_antisymm (hx.le_of_onGrid hnearest.covers hp' hq hq')
        (hx.le_of_onGrid hq hq' hnearest.covers hp')
      rwa [heq]
  · exact hnearest.closer q hq (hround _ hgrid)

/-- An integer is written without a fraction. -/
theorem exponent_nonneg (hx : x.AtLeastOne) (hwhole : OnGrid 0 x.magnitude) :
    0 ≤ (x.shortest .up).exponent := by
  obtain ⟨n, d, hnearest, hshortest, hnone⟩ := hx.exists_nearest
  have hscale := hx.one_le_scale
  rw [hshortest]
  refine le_trans ?_ (exponent_le_stripZeros 20 d)
  rw [hnearest.exponent]
  by_contra hneg
  refine hnone (x.scale - 1).toNat (by omega) x.magnitude ?_ x.covers_magnitude
  exact hwhole.mono (by omega)

end AtLeastOne

end Binary64

end LabelPress.Number
