import LabelPress.Proofs.InkMap
import Mathlib.Data.Finset.Prod

/-!
# Turned pictures

A picture is turned before it is packed, and a quarter turn exchanges its width and height, so a row
of the bitmap has other dots and other padding than before. The dots themselves only change places.

* `Orientation.source`: where a dot of the turned picture was before. `Pixels.target_source`,
  `Pixels.source_target`: the places of both pictures correspond.
* `Pixels.turn_turn`: **turns add up**, because a place is followed back through both turns
  (`Pixels.source_source`).
* `card_inkDots_turn`: the turned picture has as many dots.
* `turnsDots`: **turning a picture moves each dot to its place and loses none.**
-/

namespace LabelPress

/-! ## Places -/

namespace Orientation

/-- Where the dot in column `x` of row `y` of a turned picture was, by the size of the picture
before. -/
def source (o : Orientation) (width height x y : Nat) : Nat × Nat :=
  match o with
  | normal => (x, y)
  | rotated => (y, height - 1 - x)
  | inverted => (width - 1 - x, height - 1 - y)
  | bottomUp => (width - 1 - y, x)

/-- The turn back. -/
def inverse : Orientation → Orientation
  | normal => normal
  | rotated => bottomUp
  | inverted => inverted
  | bottomUp => rotated

/-- How many quarter turns make the turn. -/
def quarterTurns : Orientation → Nat
  | normal => 0
  | rotated => 1
  | inverted => 2
  | bottomUp => 3

/-- The turn that a number of quarter turns makes. -/
def ofQuarterTurns (n : Nat) : Orientation :=
  match n % 4 with
  | 0 => normal
  | 1 => rotated
  | 2 => inverted
  | _ => bottomUp

end Orientation

namespace Pixels

variable {p q : Pixels} {o : Orientation}

theorem width_turn (p : Pixels) (o : Orientation) :
    (p.turn o).width = if o.isQuarterTurn then p.height else p.width := by
  cases o <;> rfl

theorem height_turn (p : Pixels) (o : Orientation) :
    (p.turn o).height = if o.isQuarterTurn then p.width else p.height := by
  cases o <;> rfl

/-- Whether a place, given by its column and row, is in the picture. -/
def Inside (p : Pixels) (d : Nat × Nat) : Prop := d.1 < p.width ∧ d.2 < p.height

/-- Where a place of the turned picture was. -/
def source (p : Pixels) (o : Orientation) (d : Nat × Nat) : Nat × Nat :=
  o.source p.width p.height d.1 d.2

/-- Where a place of the picture goes. -/
def target (p : Pixels) (o : Orientation) (d : Nat × Nat) : Nat × Nat :=
  o.inverse.source (p.turn o).width (p.turn o).height d.1 d.2

/-! ### Places of both pictures -/

section Places

variable {d : Nat × Nat}

theorem inside_source (h : (p.turn o).Inside d) : p.Inside (p.source o d) := by
  obtain ⟨hx, hy⟩ := h
  unfold Inside source Orientation.source
  cases o <;> simp only [turn, width_ofFn, height_ofFn] at hx hy ⊢ <;> omega

theorem inside_target (h : p.Inside d) : (p.turn o).Inside (p.target o d) := by
  obtain ⟨hx, hy⟩ := h
  unfold Inside target Orientation.source Orientation.inverse
  cases o <;> simp only [turn, width_ofFn, height_ofFn] <;> omega

theorem target_source (h : (p.turn o).Inside d) : p.target o (p.source o d) = d := by
  obtain ⟨hx, hy⟩ := h
  unfold target source Orientation.source Orientation.inverse
  cases o <;>
    simp only [turn, width_ofFn, height_ofFn, Prod.ext_iff, and_true, true_and] at hx hy ⊢ <;> omega

theorem source_target (h : p.Inside d) : p.source o (p.target o d) = d := by
  obtain ⟨hx, hy⟩ := h
  unfold target source Orientation.source Orientation.inverse
  cases o <;>
    simp only [turn, width_ofFn, height_ofFn, Prod.ext_iff, and_true, true_and] <;> omega

/-- A place of the turned picture shows what its source showed. -/
theorem pixel_turn (h : (p.turn o).Inside d) :
    (p.turn o).pixel d.1 d.2 = p.pixel (p.source o d).1 (p.source o d).2 := by
  obtain ⟨hx, hy⟩ := h
  cases o with
  | normal => rfl
  | rotated => exact pixel_ofFn _ hx hy
  | inverted => exact pixel_ofFn _ hx hy
  | bottomUp => exact pixel_ofFn _ hx hy

end Places

/-! ## Turned pictures by their pixels -/

/-- Pictures of one size are equal if they show the same at every place. -/
theorem ext_pixel (hwidth : p.width = q.width) (hheight : p.height = q.height)
    (h : ∀ x y, x < p.width → y < p.height → p.pixel x y = q.pixel x y) : p = q := by
  obtain ⟨width, height, data, hsize⟩ := p
  obtain ⟨width', height', data', hsize'⟩ := q
  dsimp only at hwidth hheight h
  subst hwidth hheight
  have hdata : data = data' := by
    refine Array.ext (hsize.trans hsize'.symm) fun i hi hi' => ?_
    -- place `i` is in column `i % width` of row `i / width`
    have hlt : i < width * height := hsize ▸ hi
    have hpos : 0 < width := Nat.pos_of_mul_pos_right (Nat.zero_lt_of_lt hlt)
    have hplace := h (i % width) (i / width) (Nat.mod_lt i hpos) (Nat.div_lt_of_lt_mul hlt)
    simp only [pixel, Nat.div_add_mod'] at hplace
    simpa [Array.getD, hi, hi'] using hplace
  subst hdata
  rfl

/-- A quarter turn is the picture in which the top row went to the last column, and so on: column
`u` of row `v` went to row `u`, as far from the right as it was from the top. -/
theorem eq_turn_rotated_iff : q = p.turn .rotated ↔
    q.width = p.height ∧ q.height = p.width ∧
      ∀ u v, u < p.width → v < p.height → q.pixel (p.height - 1 - v) u = p.pixel u v := by
  constructor
  · rintro rfl
    refine ⟨rfl, rfl, fun u v hu hv => ?_⟩
    have hinside : p.Inside (u, v) := ⟨hu, hv⟩
    have hpixel := pixel_turn (inside_target (o := .rotated) hinside)
    rwa [source_target hinside] at hpixel
  · rintro ⟨hwidth, hheight, hpixel⟩
    refine ext_pixel hwidth hheight fun x y hx hy => ?_
    rw [hwidth] at hx
    rw [hheight] at hy
    have hback : p.height - 1 - (p.height - 1 - x) = x := by omega
    have hplace := hpixel y (p.height - 1 - x) hy (by omega)
    rw [hback] at hplace
    have hinside : (p.turn .rotated).Inside (x, y) := ⟨hx, hy⟩
    rw [hplace]
    exact (pixel_turn hinside).symm

/-! ## Turns add up -/

/-- The place is followed back through one turn, then through the other. -/
theorem source_source (a b : Orientation) {d : Nat × Nat} (h : ((p.turn a).turn b).Inside d) :
    p.source a ((p.turn a).source b d) =
      p.source (.ofQuarterTurns (a.quarterTurns + b.quarterTurns)) d := by
  obtain ⟨hx, hy⟩ := h
  unfold source Orientation.source Orientation.ofQuarterTurns Orientation.quarterTurns
  cases a <;> cases b <;>
    simp only [turn, width_ofFn, height_ofFn, Prod.ext_iff, and_true, true_and, Nat.reduceAdd,
      Nat.reduceMod] at hx hy ⊢ <;> omega

/-- **Turns add up**, and four quarter turns are none. -/
theorem turn_turn (p : Pixels) (a b : Orientation) : (p.turn a).turn b =
    p.turn (.ofQuarterTurns (a.quarterTurns + b.quarterTurns)) := by
  have hwidth : ((p.turn a).turn b).width =
      (p.turn (.ofQuarterTurns (a.quarterTurns + b.quarterTurns))).width := by
    cases a <;> cases b <;> rfl
  have hheight : ((p.turn a).turn b).height =
      (p.turn (.ofQuarterTurns (a.quarterTurns + b.quarterTurns))).height := by
    cases a <;> cases b <;> rfl
  refine ext_pixel hwidth hheight fun x y hx hy => ?_
  have hinside : ((p.turn a).turn b).Inside (x, y) := ⟨hx, hy⟩
  rw [pixel_turn hinside, pixel_turn (inside_source hinside), source_source a b hinside]
  exact (pixel_turn ⟨hwidth ▸ hx, hheight ▸ hy⟩).symm

end Pixels

/-! ## Dots -/

/-- The places of the dots that are set. -/
def Bitmap.inkDots (b : Bitmap) : Finset (Nat × Nat) :=
  (Finset.range b.width ×ˢ Finset.range b.height).filter fun d => b.isSet d.1 d.2

variable {p : Pixels} {o : Orientation} {d : Nat × Nat}

theorem isSet_ofPixels (h : p.Inside d) :
    (Bitmap.ofPixels p).isSet d.1 d.2 = p.inkAt d.1 d.2 := by
  have hplace : d.1 < p.width ∧ d.2 < p.height := h
  have hdot := Bitmap.isSet_ofDots p.width p.height p.inkAt d.1 d.2
  rwa [decide_eq_true hplace, Bool.true_and] at hdot

theorem mem_inkDots_ofPixels :
    d ∈ (Bitmap.ofPixels p).inkDots ↔ p.Inside d ∧ p.inkAt d.1 d.2 = true := by
  rw [Bitmap.inkDots, Finset.mem_filter, Finset.mem_product, Finset.mem_range, Finset.mem_range]
  refine and_congr_right fun h => ?_
  rw [isSet_ofPixels h]

theorem inkAt_turn (h : (p.turn o).Inside d) :
    (p.turn o).inkAt d.1 d.2 = p.inkAt (p.source o d).1 (p.source o d).2 :=
  congrArg Rgba.isInk (Pixels.pixel_turn h)

/-- The dots of the turned picture come from those of the picture, one from each. -/
theorem card_inkDots_turn (p : Pixels) (o : Orientation) :
    (Bitmap.ofPixels (p.turn o)).inkDots.card = (Bitmap.ofPixels p).inkDots.card := by
  refine Finset.card_nbij' (p.source o) (p.target o) (fun d hd => ?_) (fun d hd => ?_)
    (fun d hd => ?_) fun d hd => ?_
  · obtain ⟨hinside, hink⟩ := mem_inkDots_ofPixels.1 hd
    rw [inkAt_turn hinside] at hink
    exact mem_inkDots_ofPixels.2 ⟨Pixels.inside_source hinside, hink⟩
  · obtain ⟨hinside, hink⟩ := mem_inkDots_ofPixels.1 hd
    have htarget := Pixels.inside_target (o := o) hinside
    refine mem_inkDots_ofPixels.2 ⟨htarget, ?_⟩
    rw [inkAt_turn htarget, Pixels.source_target hinside, hink]
  · exact Pixels.target_source (mem_inkDots_ofPixels.1 hd).1
  · exact Pixels.source_target (mem_inkDots_ofPixels.1 hd).1

/-- What the turns of a picture do to its dots. -/
structure TurnsDots (p : Pixels) : Prop where
  /-- A quarter turn is clockwise: the first row becomes the last column, read downwards. -/
  clockwise : ∀ q : Pixels, q = p.turn .rotated ↔ q.width = p.height ∧ q.height = p.width ∧
    ∀ u v, u < p.width → v < p.height → q.pixel (p.height - 1 - v) u = p.pixel u v
  /-- A quarter turn exchanges width and height, and a half turn keeps them. -/
  size : ∀ o : Orientation,
    (Bitmap.ofPixels (p.turn o)).width = (if o.isQuarterTurn then p.height else p.width) ∧
      (Bitmap.ofPixels (p.turn o)).height = if o.isQuarterTurn then p.width else p.height
  /-- A dot is set exactly if the pixel prints that was where the dot comes from. -/
  dot : ∀ (o : Orientation) (x y : Nat), x < (Bitmap.ofPixels (p.turn o)).width →
    y < (Bitmap.ofPixels (p.turn o)).height →
      (Bitmap.ofPixels (p.turn o)).isSet x y =
        p.inkAt (o.source p.width p.height x y).1 (o.source p.width p.height x y).2
  /-- Each pixel of the picture goes to one place of the bitmap. -/
  place : ∀ (o : Orientation) (u v : Nat), u < p.width → v < p.height →
    ∃! d : Nat × Nat, d.1 < (Bitmap.ofPixels (p.turn o)).width ∧
      d.2 < (Bitmap.ofPixels (p.turn o)).height ∧ o.source p.width p.height d.1 d.2 = (u, v)
  /-- No dot is lost and none is added. -/
  count : ∀ o : Orientation,
    (Bitmap.ofPixels (p.turn o)).inkDots.card = (Bitmap.ofPixels p).inkDots.card
  /-- Turning twice is turning once, by the sum of the quarter turns. -/
  compose : ∀ a b : Orientation,
    (p.turn a).turn b = p.turn (.ofQuarterTurns (a.quarterTurns + b.quarterTurns))

/-- **Turning a picture moves each dot to its place and loses none**, and turns add up. -/
theorem turnsDots (p : Pixels) : TurnsDots p := by
  constructor
  case clockwise => exact fun q => Pixels.eq_turn_rotated_iff
  case size => exact fun o => ⟨p.width_turn o, p.height_turn o⟩
  case dot =>
    intro o x y hx hy
    have hinside : (p.turn o).Inside (x, y) := ⟨hx, hy⟩
    rw [isSet_ofPixels hinside, inkAt_turn hinside]
    rfl
  case place =>
    intro o u v hu hv
    have hinside : p.Inside (u, v) := ⟨hu, hv⟩
    have htarget := Pixels.inside_target (o := o) hinside
    refine ⟨p.target o (u, v), ⟨htarget.1, htarget.2, Pixels.source_target hinside⟩, ?_⟩
    rintro d ⟨hx, hy, hd⟩
    rw [← Pixels.target_source (p := p) (o := o) ⟨hx, hy⟩]
    exact congrArg (p.target o) hd
  case count => exact card_inkDots_turn p
  case compose => exact p.turn_turn

end LabelPress
