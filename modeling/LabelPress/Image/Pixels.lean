import LabelPress.Colour
import LabelPress.Orientation

/-!
# Pixels

A picture is a grid of pixels, row by row from the top left corner.

## Main definitions

* `Pixels` - a grid; the number of pixels fits its size.
* `Pixels.pixel` - the pixel at a place.
* `Pixels.turn` - the picture turned clockwise.
-/

namespace LabelPress

/-! ## Row by row -/

section RowMajor

variable {width height x y : Nat}

/-- A place inside a grid is among its items. -/
theorem rowMajor_lt (hx : x < width) (hy : y < height) : y * width + x < width * height := by
  calc y * width + x < y * width + width := by omega
    _ = (y + 1) * width := by rw [Nat.add_mul, Nat.one_mul]
    _ ≤ height * width := Nat.mul_le_mul_right width hy
    _ = width * height := Nat.mul_comm height width

theorem rowMajor_div (hx : x < width) : (y * width + x) / width = y := by
  rw [Nat.add_comm, Nat.add_mul_div_right _ _ (by omega), Nat.div_eq_of_lt hx, Nat.zero_add]

theorem rowMajor_mod (hx : x < width) : (y * width + x) % width = x := by
  rw [Nat.add_comm, Nat.add_mul_mod_self_right, Nat.mod_eq_of_lt hx]

end RowMajor

/-! ## Grids of pixels -/

/-- A grid of pixels, row by row. -/
structure Pixels where
  width : Nat
  height : Nat
  data : Array Rgba
  /-- There is a pixel for every place. -/
  size_data : data.size = width * height
deriving Repr

namespace Pixels

/-- The grid with given pixels. -/
def ofFn (width height : Nat) (f : (x y : Nat) → Rgba) : Pixels where
  width := width
  height := height
  data := Array.ofFn (n := width * height) fun i => f (i % width) (i / width)
  size_data := by simp

/-- The pixel in column `x` of row `y`. -/
def pixel (p : Pixels) (x y : Nat) : Rgba :=
  p.data.getD (y * p.width + x) default

/-- The grid of a list of pixels, if their number fits the size. -/
def ofArray? (width height : Nat) (data : Array Rgba) : Option Pixels :=
  if h : data.size = width * height then some ⟨width, height, data, h⟩ else none

/-- The picture turned clockwise. A quarter turn exchanges width and height: the first column, read
from the bottom, becomes the first row. -/
def turn (p : Pixels) : Orientation → Pixels
  | .normal => p
  | .rotated => ofFn p.height p.width fun x y => p.pixel y (p.height - 1 - x)
  | .inverted => ofFn p.width p.height fun x y => p.pixel (p.width - 1 - x) (p.height - 1 - y)
  | .bottomUp => ofFn p.height p.width fun x y => p.pixel (p.width - 1 - y) x

@[simp] theorem width_ofFn (w h : Nat) (f : (x y : Nat) → Rgba) : (ofFn w h f).width = w := rfl

@[simp] theorem height_ofFn (w h : Nat) (f : (x y : Nat) → Rgba) : (ofFn w h f).height = h := rfl

/-- A pixel of a grid given by a function is the function's value. -/
theorem pixel_ofFn {w h x y : Nat} (f : (x y : Nat) → Rgba) (hx : x < w) (hy : y < h) :
    (ofFn w h f).pixel x y = f x y := by
  simp [pixel, ofFn, Array.getD, rowMajor_lt hx hy, rowMajor_mod hx, rowMajor_div hx]

end Pixels

end LabelPress
