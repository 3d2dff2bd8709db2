import LabelPress.Image.Pixels

/-!
# Scaling pictures

A picture is scaled in two passes, first its columns and then its rows. Each pixel of the result is
a weighted mean of the pixels below it; the weights fall off in a triangle that is as wide as the
spacing of the coarser grid. All sums are taken in single precision from left to right.

## Main definitions

* `Window`, `window` - the pixels and weights for one place of the result.
* `scale`, `Pixels.resize` - a picture at another size.
* `Rgba.over` - a pixel laid over another one.
* `Pixels.fitOntoWhite` - a picture at another size on a white ground.
* `Picture` - the same for pictures whose channels have sixteen bits.
-/

namespace LabelPress

/-- The channels of a pixel in single precision. -/
structure Channels where
  red : Float32
  green : Float32
  blue : Float32
  alpha : Float32
deriving Inhabited

namespace Channels

/-- The channels of a pixel. -/
def ofRgba (c : Rgba) : Channels :=
  ⟨c.red.toFloat32, c.green.toFloat32, c.blue.toFloat32, c.alpha.toFloat32⟩

/-- Adds a share of other channels. -/
def addScaled (sum c : Channels) (weight : Float32) : Channels :=
  ⟨sum.red + c.red * weight, sum.green + c.green * weight, sum.blue + c.blue * weight,
   sum.alpha + c.alpha * weight⟩

/-- A channel cut to a range from zero and rounded, a half away from zero. -/
def roundTo (greatest x : Float32) : Float32 :=
  (if x < 0 then 0 else if greatest < x then greatest else x).round

/-- A channel in bytes. -/
def roundByte (x : Float32) : UInt8 :=
  (roundTo 255 x).toUInt8

/-- A channel of sixteen bits, as the nearest byte. -/
def roundWord (x : Float32) : UInt8 :=
  UInt8.ofNat (((roundTo 65535 x).toUInt16.toNat + 128) / 257)

/-- The pixel whose channels are rounded by a function. -/
def toRgba (round : Float32 → UInt8) (c : Channels) : Rgba :=
  ⟨round c.red, round c.green, round c.blue, round c.alpha⟩

end Channels

/-! ## Weights -/

/-- The pixels that count for one place of the result, from `start` on, with their weights. -/
structure Window where
  start : Nat
  /-- The weights from the first pixel on. -/
  weights : List Float32

/-- The triangle of height and half width one. -/
def triangle (x : Float32) : Float32 :=
  if x.abs < 1 then 1 - x.abs else 0

/-- The window for place `place` when `old` pixels become `new`. -/
def window (old new place : Nat) : Window :=
  let ratio := Float32.ofNat old / Float32.ofNat new
  let spread : Float32 := if ratio < 1 then 1 else ratio
  let centre := (Float32.ofNat place + 0.5) * ratio
  let start := (max 0 (min (centre - spread).floor.toInt64.toInt (old - 1 : Int))).toNat
  let stop := (max (start + 1 : Int) (min (centre + spread).ceil.toInt64.toInt old)).toNat
  let weights := (List.range' start (stop - start)).map fun i =>
    triangle ((Float32.ofNat i - (centre - 0.5)) / spread)
  let total := weights.foldl (· + ·) 0
  { start, weights := weights.map (· / total) }

/-- The weighted sum of the channels in a window. -/
def Window.sum (w : Window) (channels : Nat → Channels) : Channels :=
  (w.weights.foldl (fun (sum, i) weight => (sum.addScaled (channels i) weight, i + 1))
    ((⟨0, 0, 0, 0⟩ : Channels), w.start)).1

/-! ## Pictures -/

/-- A grid of channels at another size, as pixels. A grid of the right size stays as it is, and one
without pixels becomes transparent. -/
def scale (source : Array Channels) (oldWidth oldHeight width height : Nat)
    (round : Float32 → UInt8) : Pixels :=
  if oldWidth = width ∧ oldHeight = height then
    .ofFn width height fun x y => (source.getD (y * width + x) default).toRgba round
  else if oldWidth = 0 ∨ oldHeight = 0 then .ofFn width height fun _ _ => ⟨0, 0, 0, 0⟩
  else
    let rows := (Array.range height).map (window oldHeight height)
    let columns := (Array.range width).map (window oldWidth width)
    let tall : Array Channels := Array.ofFn (n := oldWidth * height) fun i =>
      match rows[i / oldWidth]? with
      | some w => w.sum fun y => source.getD (y * oldWidth + i % oldWidth) default
      | none => default
    .ofFn width height fun x y =>
      match columns[x]? with
      | some w => (w.sum fun x => tall.getD (y * oldWidth + x) default).toRgba round
      | none => default

/-- The picture at another size. -/
def Pixels.resize (p : Pixels) (width height : Nat) : Pixels :=
  scale (p.data.map Channels.ofRgba) p.width p.height width height Channels.roundByte

/-! ## White ground -/

/-- A channel and an opacity as parts of one. -/
def unit (x : UInt8) : Float32 := x.toFloat32 / 255

/-- A part of one as a byte, without the fraction. -/
def ofUnit (x : Float32) : UInt8 := (255 * x).toUInt8

/-- The pixel laid over another one. A transparent pixel leaves the other and an opaque one hides
it. -/
def Rgba.over (front back : Rgba) : Rgba :=
  if front.alpha = 0 then back
  else if front.alpha = 255 then front
  else
    let fa := unit front.alpha
    let ba := unit back.alpha
    let alpha := ba + fa - ba * fa
    if alpha == 0 then back
    else
      let mix := fun (f b : UInt8) => ofUnit ((unit f * fa + unit b * ba * (1 - fa)) / alpha)
      ⟨mix front.red back.red, mix front.green back.green, mix front.blue back.blue, ofUnit alpha⟩

/-- The picture on a white ground. -/
def Pixels.onWhite (p : Pixels) : Pixels :=
  .ofFn p.width p.height fun x y => (p.pixel x y).over Rgba.white

/-- The picture at another size, at least one pixel wide and high, on a white ground. -/
def Pixels.fitOntoWhite (p : Pixels) (width height : Nat) : Pixels :=
  (p.resize (max 1 width) (max 1 height)).onWhite

/-- A picture with channels of either width. -/
inductive Picture where
  | bytes (pixels : Pixels)
  /-- Channels of sixteen bits, row by row. -/
  | words (width height : Nat) (data : Array Channels)

/-- The picture at another size, at least one pixel wide and high, on a white ground. Channels of
sixteen bits are scaled as such. -/
def Picture.fitOntoWhite (p : Picture) (width height : Nat) : Pixels :=
  match p with
  | .bytes pixels => pixels.fitOntoWhite width height
  | .words oldWidth oldHeight data =>
    (scale data oldWidth oldHeight (max 1 width) (max 1 height) Channels.roundWord).onWhite

end LabelPress
