import LabelPress.Image.Bitmap
import LabelPress.Image.DataUrl
import LabelPress.Image.NetPbm
import LabelPress.Image.Png
import LabelPress.Image.Resample
import LabelPress.Template.Compile
import Std.Data.TreeMap

/-!
# The images of a template

Images are turned into bitmaps before a template is compiled. Each image is asked for at the size of
its frame in dots; one that cannot be had is left out, and the others are not affected.

## Main definitions

* `ImageRequest`, `imageRequests` - what is asked for, in the order of the elements.
* `collectBitmaps` - the bitmaps of the images that could be had, by the `id` of their elements.
* `imageCache` - their parameters, as a compilation needs them.
* `renderSource` - an image from its source, scaled and on a white ground.
-/

namespace LabelPress

/-- An image that is asked for. -/
structure ImageRequest where
  id : String
  src : String
  width : Nat
  height : Nat
  orientation : Orientation
deriving DecidableEq, Repr

/-- The request for an image, at least one dot wide and high. -/
def ImageRequest.of (dpi : Nat) (frame : Frame) (image : ImageElement) : ImageRequest where
  id := frame.id
  src := image.src
  width := (max 1 (mmToDots frame.width dpi)).toNat
  height := (max 1 (mmToDots frame.height dpi)).toNat
  orientation := frame.orientation

/-- The requests for the images that have a source; hidden elements are among them. -/
def imageRequests (elements : List Element) (dpi : Nat) : List ImageRequest :=
  (elements.filterMap Template.imageOf?).map fun (frame, image) => .of dpi frame image

/-- The bitmap of an image that was asked for. -/
def ImageRequest.bitmap (request : ImageRequest) (image : Pixels) : Bitmap :=
  .ofPixels (image.turn request.orientation)

/-- The bitmaps of the images that could be had. Of several with one `id` the last stays. -/
def collectBitmaps {ε : Type} (answers : List (ImageRequest × Except ε Pixels)) :
    Std.TreeMap String Bitmap :=
  answers.foldl
    (fun bitmaps (request, answer) =>
      match answer with
      | .ok image => bitmaps.insert request.id (request.bitmap image)
      | .error _ => bitmaps) {}

/-- The bitmaps of all images, where `render` gives an image at a size. -/
def rasterizeImages {m : Type → Type} [Monad m] {ε : Type}
    (render : (src : String) → (width height : Nat) → m (Except ε Pixels))
    (elements : List Element) (dpi : Nat) : m (Std.TreeMap String Bitmap) := do
  let answers ← (imageRequests elements dpi).mapM fun request => do
    return (request, ← render request.src request.width request.height)
  return collectBitmaps answers

/-- The parameters of bitmaps, by the `id` of their elements. -/
def imageCache (bitmaps : Std.TreeMap String Bitmap) : Std.TreeMap String String :=
  bitmaps.map fun _ bitmap => bitmap.fragment

/-! ## Sources -/

/-- The picture of a file. -/
def decodeImage (bytes : List UInt8) : Except ImageFault Picture :=
  match ((Png.decode? bytes).map .bytes <|> NetPbm.decode? bytes) with
  | some image => .ok image
  | none => .error .undecodable

/-- The bytes of a source: an address with data, an address in the web, or else a file. Nothing is
fetched from the web. -/
def loadSource {m : Type → Type} [Monad m]
    (readFile : (path : String) → m (Except FileFault (List UInt8))) (src : String) :
    m (Except ImageFault (List UInt8)) := do
  if src.startsWith "data:" then return decodeDataUrl src
  else if src.startsWith "http://" || src.startsWith "https://" then
    return .error (.other ("Failed to download " ++ src))
  else
    match ← readFile src with
    | .ok bytes => return .ok bytes
    | .error fault => return .error (.unreadable src fault)

/-- The image of a source, scaled to a size and on a white ground. -/
def renderSource {m : Type → Type} [Monad m]
    (readFile : (path : String) → m (Except FileFault (List UInt8)))
    (src : String) (width height : Nat) : m (Except ImageFault Pixels) := do
  match ← loadSource readFile src with
  | .ok bytes => return (decodeImage bytes).map fun image => image.fitOntoWhite width height
  | .error fault => return .error fault

end LabelPress
