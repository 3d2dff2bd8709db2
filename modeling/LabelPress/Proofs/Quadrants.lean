import LabelPress.Proofs.FloatSums
import LabelPress.Proofs.QuarterTurns

/-!
# The quadrant of an angle

The quadrants are shifts of one another by 90 degrees, so turning an angle turns its orientation.
For angles in whole or half degrees nothing is rounded on the way, also when they are added up.

* `Orientation.ofWholeDegrees_eq_iff`: an angle has the orientation that it is within 45 degrees of.
* `Orientation.ofWholeDegrees_add_ninety`, `ofWholeDegrees_add_turns`: the next quadrant, and whole
  turns.
* `ofDegrees_eq`: any angle is first rounded, halves upwards.
* `snapsToQuadrant`: **orientations follow quarter turns of the angle**, for negative angles too.
-/

namespace LabelPress

open LabelPress.Number

/-! ## Whole degrees -/

namespace Orientation

/-- The next quarter turn, clockwise. -/
def next : Orientation → Orientation
  | normal => rotated
  | rotated => inverted
  | inverted => bottomUp
  | bottomUp => normal

/-- The angle lies around the angle of the orientation, up to whole turns. The lower of the two
angles halfway to other orientations belongs to it. -/
def Around (o : Orientation) (n : Int) : Prop :=
  ∃ k : Int, 360 * k + 90 * o.quarterTurns - 45 ≤ n ∧ n < 360 * k + 90 * o.quarterTurns + 45

variable {o : Orientation} {n : Int}

theorem around_ofWholeDegrees (n : Int) : (ofWholeDegrees n).Around n := by
  have hmod : n = 360 * (n / 360) + n % 360 := (Int.mul_ediv_add_emod n 360).symm
  have hlt := Int.emod_lt_of_pos n (show 0 < 360 by decide)
  unfold ofWholeDegrees Around
  dsimp only
  split_ifs <;> dsimp only [quarterTurns]
  · exact ⟨n / 360, by omega, by omega⟩
  · exact ⟨n / 360, by omega, by omega⟩
  · exact ⟨n / 360, by omega, by omega⟩
  · exact ⟨n / 360, by omega, by omega⟩
  · -- the last 45 degrees of a turn belong to the next one
    exact ⟨n / 360 + 1, by omega, by omega⟩

/-- An angle lies around one orientation only. -/
theorem Around.unique {o' : Orientation} (h : o.Around n) (h' : o'.Around n) : o = o' := by
  obtain ⟨k, hle, hlt⟩ := h
  obtain ⟨k', hle', hlt'⟩ := h'
  cases o <;> cases o' <;> first | rfl | (dsimp only [quarterTurns] at *; omega)

theorem ofWholeDegrees_eq_iff : ofWholeDegrees n = o ↔ o.Around n :=
  ⟨fun h => h ▸ around_ofWholeDegrees n, fun h => (around_ofWholeDegrees n).unique h⟩

theorem Around.next (h : o.Around n) : o.next.Around (n + 90) := by
  obtain ⟨k, hle, hlt⟩ := h
  unfold Around
  cases o <;> dsimp only [Orientation.next, quarterTurns] at *
  · exact ⟨k, by omega, by omega⟩
  · exact ⟨k, by omega, by omega⟩
  · exact ⟨k, by omega, by omega⟩
  · exact ⟨k + 1, by omega, by omega⟩

theorem ofWholeDegrees_add_ninety (n : Int) :
    ofWholeDegrees (n + 90) = (ofWholeDegrees n).next :=
  ofWholeDegrees_eq_iff.2 (around_ofWholeDegrees n).next

theorem ofWholeDegrees_add_turns (n k : Int) :
    ofWholeDegrees (n + 360 * k) = ofWholeDegrees n := by
  obtain ⟨k', hle, hlt⟩ := around_ofWholeDegrees n
  exact ofWholeDegrees_eq_iff.2 ⟨k' + k, by omega, by omega⟩

end Orientation

/-! ## Any angle -/

/-- An angle in whole or half degrees, not so great that its float would be rounded. -/
structure HalfDegrees (d : ℚ) : Prop where
  half : ∃ n : Int, d = n / 2
  le : |d| ≤ 2 ^ 50

variable {x : Float} {d : ℚ}

/-- The angle is rounded, halves upwards. -/
theorem ofDegrees_eq (hx : StandsFor x d) :
    Orientation.ofDegrees x = .ofWholeDegrees ⌊d + 1 / 2⌋ := by
  obtain ⟨v, hv, rfl⟩ := hx
  rw [Orientation.ofDegrees, hv]
  exact congrArg Orientation.ofWholeDegrees v.floorHalfUp_eq

theorem natAbs_lt_of_abs_le {n : Int} (h : |(n : ℚ)| ≤ 2 ^ 52) : n.natAbs < 2 ^ 53 := by
  have hcast : ((n.natAbs : ℕ) : ℚ) < (2 ^ 53 : ℕ) := by
    rw [Nat.cast_natAbs, Int.cast_abs]
    push_cast
    linarith
  exact Nat.cast_lt.1 hcast

theorem isFull_of_half {n : Int} (hd : d = n / 2) (hle : |d| ≤ 2 ^ 51) : IsFull d := by
  rw [hd] at hle ⊢
  refine isFull_half (natAbs_lt_of_abs_le ?_)
  rw [abs_div, abs_two, div_le_iff₀ two_pos] at hle
  linarith

/-- What becomes of an angle, and of the angles that differ from it by quarter turns. -/
structure SnapsToQuadrant (x : Float) (d : ℚ) : Prop where
  /-- The half that is added to round the angle is added exactly. -/
  rounding : StandsFor (x + 0.5) (d + 1 / 2)
  /-- The rounded angle is within 45 degrees of that of the orientation, 45 below included. -/
  quadrant : ∀ o : Orientation, Orientation.ofDegrees x = o ↔ ∃ k : Int,
    360 * k + 90 * o.quarterTurns - 45 ≤ ⌊d + 1 / 2⌋ ∧
      ⌊d + 1 / 2⌋ < 360 * k + 90 * o.quarterTurns + 45
  /-- A quarter turn further is the next orientation. -/
  next : StandsFor (x + 90) (d + 90) ∧
    Orientation.ofDegrees (x + 90) = (Orientation.ofDegrees x).next
  /-- Whole turns change nothing. -/
  turns : ∀ k : Int, |d + 360 * k| ≤ 2 ^ 50 →
    StandsFor (x + .ofInt (360 * k)) (d + 360 * k) ∧
      ∀ y, StandsFor y (d + 360 * k) → Orientation.ofDegrees y = Orientation.ofDegrees x

theorem standsFor_half : StandsFor 0.5 (1 / 2) :=
  ⟨⟨false, 2 ^ 52, -53, true⟩, by decide +kernel, by norm_num [Binary64.value, Binary64.signed]⟩

theorem standsFor_ninety : StandsFor 90 90 :=
  ⟨⟨false, 45 * 2 ^ 47, -46, false⟩, by decide +kernel,
    by norm_num [Binary64.value, Binary64.signed]⟩

/-- The orientation of an angle that is greater by whole degrees. -/
theorem ofDegrees_of_add {y : Float} {n : Int} (hx : StandsFor x d) (hy : StandsFor y (d + n)) :
    ∃ m : Int, Orientation.ofDegrees x = .ofWholeDegrees m ∧
      Orientation.ofDegrees y = .ofWholeDegrees (m + n) := by
  refine ⟨⌊d + 1 / 2⌋, ofDegrees_eq hx, ?_⟩
  rw [ofDegrees_eq hy, add_right_comm, Int.floor_add_intCast]

/-- **Orientations follow quarter turns of the angle.** -/
theorem snapsToQuadrant (hd : HalfDegrees d) :
    (∃ x, StandsFor x d) ∧ ∀ x, StandsFor x d → SnapsToQuadrant x d := by
  obtain ⟨⟨n, hn⟩, hle⟩ := hd
  have hbounds := abs_le.1 hle
  refine ⟨(isFull_of_half hn (hle.trans (by norm_num))).exists_standsFor, fun x hx => ?_⟩
  constructor
  case rounding =>
    have hsum : d + 1 / 2 = (n + 1 : Int) / 2 := by
      rw [hn]
      push_cast
      ring
    have hrange : |d + 1 / 2| ≤ 2 ^ 51 := abs_le.2 ⟨by linarith, by linarith⟩
    exact hx.add standsFor_half (isFull_of_half hsum hrange)
  case quadrant =>
    intro o
    rw [ofDegrees_eq hx]
    exact Orientation.ofWholeDegrees_eq_iff
  case next =>
    have hsum : d + 90 = (n + 180 : Int) / 2 := by
      rw [hn]
      push_cast
      ring
    have hrange : |d + 90| ≤ 2 ^ 51 := abs_le.2 ⟨by linarith, by linarith⟩
    have hy := hx.add standsFor_ninety (isFull_of_half hsum hrange)
    obtain ⟨m, hm, hm'⟩ := ofDegrees_of_add hx (n := 90) hy
    rw [hm, hm']
    exact ⟨hy, Orientation.ofWholeDegrees_add_ninety m⟩
  case turns =>
    intro k hk
    have hsum : d + (360 * k : Int) = (n + 720 * k : Int) / 2 := by
      rw [hn]
      push_cast
      ring
    have hbounds' := abs_le.1 hk
    have hcast : ((360 * k : Int) : ℚ) = 360 * k := by push_cast; rfl
    have hturns : |((360 * k : Int) : ℚ)| ≤ 2 ^ 52 := by
      rw [hcast]
      exact abs_le.2 ⟨by linarith, by linarith⟩
    have hrange : |d + (360 * k : Int)| ≤ 2 ^ 51 := by
      rw [hcast]
      exact hk.trans (by norm_num)
    rw [← hcast]
    refine ⟨hx.add (standsFor_ofInt (natAbs_lt_of_abs_le hturns)) (isFull_of_half hsum hrange),
      fun y hy => ?_⟩
    obtain ⟨m, hm, hm'⟩ := ofDegrees_of_add hx hy
    rw [hm, hm', Orientation.ofWholeDegrees_add_turns]

/-- An angle halfway between two whole degrees, below zero. -/
theorem snapsToQuadrant_below_zero : HalfDegrees (-91 / 2) ∧ StandsFor (-45.5) (-91 / 2) ∧
    SnapsToQuadrant (-45.5) (-91 / 2) := by
  have hd : HalfDegrees (-91 / 2) := ⟨⟨-91, by norm_num⟩, by norm_num [abs_le]⟩
  have hx : StandsFor (-45.5) (-91 / 2) := ⟨⟨true, 91 * 2 ^ 46, -47, false⟩, by decide +kernel,
    by norm_num [Binary64.value, Binary64.signed]⟩
  exact ⟨hd, hx, (snapsToQuadrant hd).2 _ hx⟩

end LabelPress
