/-!
# Walkthrough.Picture.Basic

Pictures as values: rows of pixels from top to bottom.

* `Picture.build` makes a picture from the pixel at every place.
-/

namespace Walkthrough

/-- A colour, and how much of it covers what is behind. -/
structure Pixel where
  red : UInt8
  green : UInt8
  blue : UInt8
  alpha : UInt8
deriving DecidableEq, Repr

structure Picture where
  width : Nat
  height : Nat
  /-- The pixels row by row. -/
  pixels : Array Pixel
  size_pixels : pixels.size = width * height

namespace Picture

/-- The picture with the pixel that a function gives for every column and row. -/
def build (width height : Nat) (pixel : (column row : Nat) → Pixel) : Picture where
  width := width
  height := height
  pixels := Array.ofFn fun (i : Fin (width * height)) => pixel (i % width) (i / width)
  size_pixels := Array.size_ofFn

end Picture
end Walkthrough
