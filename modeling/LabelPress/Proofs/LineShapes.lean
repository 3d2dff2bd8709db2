import LabelPress.Element.Commands
import LabelPress.Proofs.FloatSums

/-!
# Lines

A line crosses the box of its frame without regard to the signs of the sides. Whether there is
anything to draw is asked of the sides and not of the length: the length of a diagonal is rounded
to zero only if both sides are zero, since a float of one or more is never rounded to less.

* `one_le_roundToInt32`: rounding keeps one and more. `OneOrMore.mono`: so does the order.
* `MeasuresDiagonal.rounded_le_zero_iff`: **what the length tells, the sides tell.**
* `LineElement.commands_eq`: what a line becomes is a matter of its box (`crossing`).
* `Placement.lineBox_of_turned`, `crossing_mirrored`: a turned frame with exchanged sides.
* `drawsLine`: **what each line becomes**, and what other frames make of it.
-/

namespace LabelPress.Number

open Float.Model Float.Model.UnpackedFloat Binary64

/-! ## Floats of one and more -/

/-- The parts of a float that is one or more. -/
inductive OneOrMore : UnpackedFloat → Prop where
  | finite (m : Nat) (e : Int) (hm : 0 < m) (hle : hiddenBit ≤ m) (hemin : -52 ≤ e) :
      OneOrMore (.finite .positive m e hm)
  | infinity : OneOrMore (.infinity .positive)

theorem oneOrMore_ofNat {n : Nat} (hn : 0 < n) : OneOrMore (Float.ofNat n).toModel.unpack := by
  obtain ⟨m, e, hm, hparts, heq⟩ := exists_ofNat hn
  rw [heq]
  have hle := hparts.le_exponent
  by_cases he : 971 < e
  · rw [ofParts_of_gt he]
    exact .infinity
  · have hunpack : (ofParts .positive m e hm).toModel.unpack = .finite .positive m e hm :=
      unpack_pack_finite ⟨hparts.le_mantissa, hparts.mantissa_lt, by omega, by omega⟩
    rw [hunpack]
    exact .finite m e hm hparts.le_mantissa hle

theorem le_iff_unpack_le {x y : Float} : x ≤ y ↔ x.toModel.unpack.le y.toModel.unpack = true :=
  decide_eq_true_iff

theorem ofNat_eq_zero_iff {n : Nat} : Float.ofNat n = 0 ↔ n = 0 := by
  constructor
  · intro h
    by_contra hne
    have hmore := oneOrMore_ofNat (Nat.pos_of_ne_zero hne)
    rw [h] at hmore
    cases hmore
  · rintro rfl
    decide +kernel

theorem OneOrMore.zero_le {u : UnpackedFloat} (h : OneOrMore u) :
    (0 : Float).toModel.unpack.le u = true := by
  cases h <;> rfl

theorem OneOrMore.le_self {u : UnpackedFloat} (h : OneOrMore u) : u.le u = true := by
  cases h with
  | infinity => rfl
  | finite m e =>
    change ((compare e e).then (compare m m)).isLE = true
    rw [compare_eq_iff_eq.2 rfl, compare_eq_iff_eq.2 rfl]
    rfl

theorem OneOrMore.le_infinity {u : UnpackedFloat} (h : OneOrMore u) :
    u.le (.infinity .positive) = true := by
  cases h <;> rfl

/-- What is at least that is one or more. -/
theorem OneOrMore.mono {u v : UnpackedFloat} {value : Option Binary64} (hu : OneOrMore u)
    (hv : Unpacks value v) (h : u.le v = true) : OneOrMore v := by
  cases hu with
  | infinity =>
    cases hv with
    | infinity sign =>
      cases sign with
      | positive => exact .infinity
      | negative => exact absurd h (by decide)
    | notANumber => cases h
    | zero => cases h
    | finite => cases h
  | finite m e hm hle hemin =>
    cases hv with
    | infinity sign =>
      cases sign with
      | positive => exact .infinity
      | negative => cases h
    | notANumber => cases h
    | zero => cases h
    | finite sign m' e' narrow hm' hlt' hemin' hemax' hfull' =>
      cases sign with
      | negative => cases h
      | positive =>
        have hcompare : ((compare e e').then (compare m m')).isLE = true := h
        have he : e ≤ e' := by
          by_contra hgt
          rw [compare_gt_iff_gt.2 (not_le.1 hgt)] at hcompare
          cases hcompare
        exact .finite m' e' hm' (hfull'.resolve_right (by omega)) (by omega)

theorem one_le_roundHalfAway {m : Nat} {e : Int} {narrow : Bool} (hm : 0 < m)
    (hle : hiddenBit ≤ m) (hemin : -52 ≤ e) : 1 ≤ roundHalfAway ⟨false, m, e, narrow⟩ := by
  unfold roundHalfAway
  cases e with
  | ofNat k =>
    have hpos : 0 < m * Nat.pow 2 k := Nat.mul_pos hm (Nat.two_pow_pos k)
    exact Int.ofNat_le.2 hpos
  | negSucc k =>
    have hpow : 2 ^ (k + 1) ≤ 2 ^ 52 := Nat.pow_le_pow_right Nat.two_pos (by omega)
    have hone : 1 ≤ (m + Nat.pow 2 k) / Nat.pow 2 (k + 1) :=
      (Nat.one_le_div_iff (Nat.two_pow_pos _)).2 ((hpow.trans hle).trans (Nat.le_add_right _ _))
    exact Int.ofNat_le.2 hone

/-- Such a float is rounded to one or more. -/
theorem one_le_roundToInt32 {x : Float} (h : OneOrMore x.toModel.unpack) :
    1 ≤ roundToInt32 x := by
  have hx := unpacks x
  unfold roundToInt32
  generalize hu : x.toModel.unpack = u at h hx
  generalize ofFloat? x = value at hx
  cases h with
  | infinity =>
    cases hx
    have hnan : x.isNaN = false := by
      change x.toModel.unpack.isNaN = false
      rw [hu]
      rfl
    have hlt : ¬ x < 0 := by
      intro hlt
      have hmodel : x.toModel.unpack.lt (0 : Float).toModel.unpack = true := of_decide_eq_true hlt
      rw [hu] at hmodel
      revert hmodel
      decide
    dsimp only
    rw [hnan, if_neg Bool.false_ne_true, if_neg hlt]
    decide
  | finite m e hm hle hemin =>
    cases hx
    exact le_max_of_le_right (le_min (one_le_roundHalfAway hm hle hemin) (by decide))

theorem roundToInt32_bounds (x : Float) :
    int32Min ≤ roundToInt32 x ∧ roundToInt32 x ≤ int32Max := by
  unfold roundToInt32
  split
  · unfold clampInt32
    exact ⟨Int.le_max_left _ _, Int.max_le.2 ⟨by decide, Int.min_le_right _ _⟩⟩
  · split
    · decide
    · split <;> decide

end LabelPress.Number

namespace LabelPress

open LabelPress.Number LabelPress.Zpl

/-! ## The length of a diagonal -/

/-- What is assumed of a function for the length of the diagonal of a box: the sides may be
exchanged, no side is longer, and only a box without extent has no diagonal. -/
structure MeasuresDiagonal (length : Float → Float → Float) : Prop where
  comm : ∀ w h : Nat, length (.ofNat w) (.ofNat h) = length (.ofNat h) (.ofNat w)
  le_left : ∀ w h : Nat, Float.ofNat w ≤ length (.ofNat w) (.ofNat h)
  eq_zero_iff : ∀ w h : Nat, length (.ofNat w) (.ofNat h) = 0 ↔ w = 0 ∧ h = 0

/-- The length is rounded to zero only if it is zero. -/
theorem MeasuresDiagonal.rounded_le_zero_iff {length : Float → Float → Float}
    (h : MeasuresDiagonal length) (width height : Nat) :
    roundToInt32 (length (.ofNat width) (.ofNat height)) ≤ 0 ↔ width = 0 ∧ height = 0 := by
  have hpos : ∀ w h', 0 < w → 1 ≤ roundToInt32 (length (.ofNat w) (.ofNat h')) := by
    intro w h' hw
    have hle := le_iff_unpack_le.1 (h.le_left w h')
    exact one_le_roundToInt32 ((oneOrMore_ofNat hw).mono (unpacks _) hle)
  constructor
  · intro hle
    rcases Nat.eq_zero_or_pos width with hwidth | hwidth
    · rcases Nat.eq_zero_or_pos height with hheight | hheight
      · exact ⟨hwidth, hheight⟩
      · have hone := hpos height width hheight
        rw [h.comm] at hone
        omega
    · have hone := hpos width height hwidth
      omega
  · rintro ⟨rfl, rfl⟩
    rw [(h.eq_zero_iff 0 0).2 ⟨rfl, rfl⟩]
    decide +kernel

/-- Where a side is missing the diagonal is the other side. Any other counts as endless here. -/
def axisLength (x y : Float) : Float :=
  if x = 0 then y else if y = 0 then x else .ofModel (.pack (.infinity .positive))

theorem axisLength_ofNat (w h : Nat) : axisLength (.ofNat w) (.ofNat h) =
    if w = 0 then .ofNat h else if h = 0 then .ofNat w
      else .ofModel (.pack (.infinity .positive)) := by
  simp only [axisLength, ofNat_eq_zero_iff]

theorem measuresDiagonal_axisLength : MeasuresDiagonal axisLength where
  comm w h := by
    rw [axisLength_ofNat, axisLength_ofNat]
    split_ifs with hw hh
    · rw [hw, hh]
    all_goals rfl
  le_left w h := by
    rw [axisLength_ofNat]
    split_ifs with hw hh
    · rw [hw]
      rcases Nat.eq_zero_or_pos h with rfl | hpos
      · decide +kernel
      · exact le_iff_unpack_le.2 (oneOrMore_ofNat hpos).zero_le
    · exact le_iff_unpack_le.2 (oneOrMore_ofNat (Nat.pos_of_ne_zero hw)).le_self
    · exact le_iff_unpack_le.2 (oneOrMore_ofNat (Nat.pos_of_ne_zero hw)).le_infinity
  eq_zero_iff w h := by
    rw [axisLength_ofNat]
    split_ifs with hw hh
    · rw [ofNat_eq_zero_iff, and_iff_right hw]
    · rw [ofNat_eq_zero_iff, and_iff_left hh]
    · exact ⟨fun h' => absurd h' (by decide +kernel), fun h' => absurd h'.1 hw⟩

/-! ## Boxes -/

/-- The sides of a frame in dots, without their signs. -/
def Placement.sides (p : Placement) : Nat × Nat := (p.width.natAbs, p.height.natAbs)

/-- The sides of the box that a line crosses: a quarter turn exchanges those of the frame. -/
def Placement.lineBox (p : Placement) : Nat × Nat :=
  if p.orientation.isQuarterTurn then p.sides.swap else p.sides

/-- The diagonal that a line follows. -/
def Placement.slope (p : Placement) : Slope :=
  if p.orientation.isQuarterTurn then .rising else .falling

theorem Placement.lineBox_eq_zero_iff (p : Placement) : p.lineBox = (0, 0) ↔ p.sides = (0, 0) := by
  unfold Placement.lineBox
  split_ifs
  · exact Prod.swap_inj (q := (0, 0))
  · exact Iff.rfl

/-- The other diagonal. -/
def Zpl.Slope.mirrored : Slope → Slope
  | rising => falling
  | falling => rising

/-- The command with the other diagonal, if it has one. -/
def Zpl.Command.mirrored : Command → Command
  | diagonal x y width height thickness slope =>
    diagonal x y width height thickness slope.mirrored
  | c => c

/-- The command draws a straight line or a diagonal from this place on. -/
def Zpl.Command.DrawsAt (x y : Int) : Command → Prop
  | box x' y' .. => x' = x ∧ y' = y
  | diagonal x' y' .. => x' = x ∧ y' = y
  | _ => False

theorem Placement.lineBox_congr {p p' : Placement} (hsides : p'.sides = p.sides)
    (hturn : p'.orientation.isQuarterTurn = p.orientation.isQuarterTurn) :
    p'.lineBox = p.lineBox := by
  unfold Placement.lineBox
  rw [hturn, hsides]

theorem Placement.slope_congr {p p' : Placement}
    (hturn : p'.orientation.isQuarterTurn = p.orientation.isQuarterTurn) :
    p'.slope = p.slope := by
  unfold Placement.slope
  rw [hturn]

/-- Exchanged sides and a quarter turn more leave the box as it is. -/
theorem Placement.lineBox_of_turned {p p' : Placement} (hsides : p'.sides = p.sides.swap)
    (hturn : p'.orientation.isQuarterTurn = !p.orientation.isQuarterTurn) :
    p'.lineBox = p.lineBox := by
  unfold Placement.lineBox
  rw [hturn, hsides]
  cases p.orientation.isQuarterTurn <;> rfl

theorem Placement.slope_of_turned {p p' : Placement}
    (hturn : p'.orientation.isQuarterTurn = !p.orientation.isQuarterTurn) :
    p'.slope = p.slope.mirrored := by
  unfold Placement.slope
  rw [hturn]
  cases p.orientation.isQuarterTurn <;> rfl

/-! ## Lines -/

/-- The commands that cross a box with a stroke of this thickness. -/
def crossing (x y : Int) (box : Nat × Nat) (thickness : Int) (slope : Slope) : List Command :=
  if box = (0, 0) then []
  else if box.2 < 2 then [.box x y box.1 thickness thickness 0]
  else if box.1 < 2 then [.box x y thickness box.2 thickness 0]
  else [.diagonal x y box.1 box.2 thickness slope]

section Crossing

variable {x y thickness : Int} {box : Nat × Nat} {slope : Slope}

theorem crossing_eq_nil_iff : crossing x y box thickness slope = [] ↔ box = (0, 0) := by
  unfold crossing
  split_ifs with hzero <;> simp [hzero]

theorem exists_crossing_eq (h : box ≠ (0, 0)) :
    ∃ c, crossing x y box thickness slope = [c] ∧ c.DrawsAt x y := by
  unfold crossing
  rw [if_neg h]
  split_ifs <;> exact ⟨_, rfl, rfl, rfl⟩

theorem crossing_flat (hzero : box ≠ (0, 0)) (h : box.2 < 2) :
    crossing x y box thickness slope = [.box x y box.1 thickness thickness 0] := by
  unfold crossing
  rw [if_neg hzero, if_pos h]

theorem crossing_upright (hw : box.1 < 2) (hh : 2 ≤ box.2) :
    crossing x y box thickness slope = [.box x y thickness box.2 thickness 0] := by
  have hzero : box ≠ (0, 0) := by
    rintro rfl
    contradiction
  unfold crossing
  rw [if_neg hzero, if_neg (Nat.not_lt.2 hh), if_pos hw]

theorem crossing_wide (hw : 2 ≤ box.1) (hh : 2 ≤ box.2) :
    crossing x y box thickness slope = [.diagonal x y box.1 box.2 thickness slope] := by
  have hzero : box ≠ (0, 0) := by
    rintro rfl
    contradiction
  unfold crossing
  rw [if_neg hzero, if_neg (Nat.not_lt.2 hh), if_neg (Nat.not_lt.2 hw)]

/-- The other diagonal of a box. -/
theorem crossing_mirrored :
    crossing x y box thickness slope.mirrored =
      (crossing x y box thickness slope).map Command.mirrored := by
  unfold crossing
  split_ifs <;> rfl

end Crossing

/-- A line depends on its frame through the place, the box and the diagonal only. -/
theorem LineElement.commands_eq (l : LineElement) (p : Placement) (dpi : Nat) :
    l.commands p dpi = crossing p.x p.y p.lineBox (strokeDots l.strokeWidth dpi) p.slope := by
  have hlt : ∀ n : Nat, (n : Int) < 2 ↔ n < 2 := fun n => Int.ofNat_lt (n := n) (m := 2)
  unfold LineElement.commands crossing Placement.lineBox Placement.slope Placement.sides
  cases p.orientation.isQuarterTurn <;>
    simp only [Bool.false_eq_true, if_false, if_true, Prod.swap_prod_mk, Prod.mk.injEq,
      Int.natCast_eq_zero, hlt]

/-- The commands cross the box of a line. The sides of its frame are 32-bit integers without their
signs, and `length` gives the length of a diagonal. -/
structure CrossesBox (length : Float → Float → Float) (p : Placement) (thickness : Int)
    (commands : List Command) : Prop where
  fits : p.sides.1 ≤ int32Max ∧ p.sides.2 ≤ int32Max
  /-- Only a line without extent is nothing. -/
  nothing_iff : commands = [] ↔ p.sides = (0, 0)
  /-- The rounded length of the diagonal tells the same. -/
  length_iff : commands = [] ↔
    roundToInt32 (length (.ofNat p.lineBox.1) (.ofNat p.lineBox.2)) ≤ 0
  /-- Any other line is one command at the place of the frame. -/
  one : p.sides ≠ (0, 0) → ∃ c, commands = [c] ∧ c.DrawsAt p.x p.y
  /-- Two dots and more both ways: the diagonal of the whole box. -/
  diagonal : 2 ≤ p.lineBox.1 → 2 ≤ p.lineBox.2 →
    commands = [.diagonal p.x p.y p.lineBox.1 p.lineBox.2 thickness p.slope]
  /-- Two dots and more across only: a horizontal stroke. -/
  horizontal : 2 ≤ p.lineBox.1 → p.lineBox.2 < 2 →
    commands = [.box p.x p.y p.lineBox.1 thickness thickness 0]
  /-- Two dots and more down only: a vertical stroke. -/
  vertical : p.lineBox.1 < 2 → 2 ≤ p.lineBox.2 →
    commands = [.box p.x p.y thickness p.lineBox.2 thickness 0]
  /-- One dot at most both ways: horizontal too, even if it is only down. -/
  short : p.sides ≠ (0, 0) → p.lineBox.1 < 2 → p.lineBox.2 < 2 →
    commands = [.box p.x p.y p.lineBox.1 thickness thickness 0]

/-- What a line becomes in a frame, and what other frames make of it. -/
structure DrawsLine (length : Float → Float → Float) (l : LineElement) (dpi : Nat)
    (options : CompileOptions) (f : Frame) : Prop where
  crosses : CrossesBox length (f.place dpi) (strokeDots l.strokeWidth dpi)
    (Element.commands ⟨f, .line l⟩ dpi options)
  /-- Of the frame only the place, the sides without their signs and whether it has made a quarter
  turn matter. -/
  same : ∀ f' options', (f'.place dpi).x = (f.place dpi).x → (f'.place dpi).y = (f.place dpi).y →
    (f'.place dpi).sides = (f.place dpi).sides →
    f'.orientation.isQuarterTurn = f.orientation.isQuarterTurn →
    Element.commands ⟨f', .line l⟩ dpi options' = Element.commands ⟨f, .line l⟩ dpi options
  /-- A quarter turn exchanges the sides and mirrors the diagonal. -/
  turned : ∀ f' options', (f'.place dpi).x = (f.place dpi).x →
    (f'.place dpi).y = (f.place dpi).y → (f'.place dpi).sides = (f.place dpi).sides.swap →
    f'.orientation.isQuarterTurn = !f.orientation.isQuarterTurn →
    Element.commands ⟨f', .line l⟩ dpi options' =
      (Element.commands ⟨f, .line l⟩ dpi options).map Command.mirrored

theorem Placement.sides_le (f : Frame) (dpi : Nat) (hwidth : (f.place dpi).width ≠ int32Min)
    (hheight : (f.place dpi).height ≠ int32Min) :
    (f.place dpi).sides.1 ≤ int32Max ∧ (f.place dpi).sides.2 ≤ int32Max := by
  have hnatAbs : ∀ x : Float, roundToInt32 x ≠ int32Min →
      ((roundToInt32 x).natAbs : Int) ≤ int32Max := by
    intro x hx
    have hbounds := roundToInt32_bounds x
    unfold int32Min int32Max at *
    omega
  exact ⟨hnatAbs _ hwidth, hnatAbs _ hheight⟩

theorem crossesBox {length : Float → Float → Float} (hlength : MeasuresDiagonal length)
    (p : Placement) (thickness : Int) (hfits : p.sides.1 ≤ int32Max ∧ p.sides.2 ≤ int32Max) :
    CrossesBox length p thickness (crossing p.x p.y p.lineBox thickness p.slope) where
  fits := hfits
  nothing_iff := crossing_eq_nil_iff.trans p.lineBox_eq_zero_iff
  length_iff := by
    rw [crossing_eq_nil_iff, hlength.rounded_le_zero_iff, Prod.ext_iff]
  one h := exists_crossing_eq (mt p.lineBox_eq_zero_iff.1 h)
  diagonal := crossing_wide
  horizontal hw hh := crossing_flat (by rintro h; rw [h] at hw; contradiction) hh
  vertical := crossing_upright
  short h _ hh := crossing_flat (mt p.lineBox_eq_zero_iff.1 h) hh

/-- The sides are not the least of the 32-bit integers, which is no such integer without its
sign. -/
theorem drawsLine {length : Float → Float → Float} (hlength : MeasuresDiagonal length)
    (l : LineElement) (dpi : Nat) (options : CompileOptions) (f : Frame)
    (hwidth : (f.place dpi).width ≠ int32Min) (hheight : (f.place dpi).height ≠ int32Min) :
    DrawsLine length l dpi options f := by
  have hcommands : ∀ f' options', Element.commands ⟨f', .line l⟩ dpi options' =
      crossing (f'.place dpi).x (f'.place dpi).y (f'.place dpi).lineBox
        (strokeDots l.strokeWidth dpi) (f'.place dpi).slope :=
    fun f' _ => l.commands_eq (f'.place dpi) dpi
  constructor
  case crosses =>
    rw [hcommands]
    exact crossesBox hlength _ _ (Placement.sides_le f dpi hwidth hheight)
  case same =>
    intro f' options' hx hy hsides hturn
    have hbox : (f'.place dpi).lineBox = (f.place dpi).lineBox :=
      Placement.lineBox_congr hsides hturn
    have hslope : (f'.place dpi).slope = (f.place dpi).slope := Placement.slope_congr hturn
    rw [hcommands, hcommands, hx, hy, hbox, hslope]
  case turned =>
    intro f' options' hx hy hsides hturn
    have hbox : (f'.place dpi).lineBox = (f.place dpi).lineBox :=
      Placement.lineBox_of_turned hsides hturn
    have hslope : (f'.place dpi).slope = (f.place dpi).slope.mirrored :=
      Placement.slope_of_turned hturn
    rw [hcommands, hcommands, hx, hy, hbox, hslope, crossing_mirrored]

/-- A line to the left of its place, turned: 240 dots down. -/
theorem drawsLine_down : MeasuresDiagonal axisLength ∧
    ({ width := -30, rotation := 90 : Frame }.place 203).width ≠ int32Min ∧
    ({ width := -30, rotation := 90 : Frame }.place 203).height ≠ int32Min ∧
    ({ width := -30, rotation := 90 : Frame }.place 203).lineBox = (0, 240) ∧
    axisLength 0 240 = 240 ∧
    DrawsLine axisLength {} 203 {} { width := -30, rotation := 90 } := by
  refine ⟨measuresDiagonal_axisLength, by decide +kernel, by decide +kernel, by decide +kernel,
    by decide +kernel, ?_⟩
  exact drawsLine measuresDiagonal_axisLength {} 203 {} { width := -30, rotation := 90 }
    (by decide +kernel) (by decide +kernel)

end LabelPress
