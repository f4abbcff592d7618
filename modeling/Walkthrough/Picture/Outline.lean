import Walkthrough.Picture.Gif
import Walkthrough.Power

/-!
# Walkthrough.Picture.Outline

What can be told of the bytes of an animation without unpacking its pictures.

* `Outline.ofBytes?` walks over the blocks up to the end mark.
-/

namespace Walkthrough
namespace Picture

/-- Where a picture of an animation is placed, and for how long. -/
structure Placement where
  left : Nat
  top : Nat
  width : Nat
  height : Nat
  delay : Nat
deriving DecidableEq, Repr

/-- The outline of an animation. -/
structure Outline where
  signature : String
  width : Nat
  height : Nat
  /-- How often the pictures are shown again, if that is said; none says that there is no end. -/
  repetitions : Option Nat
  placements : List Placement
deriving DecidableEq, Repr

namespace Outline

/-- The byte at a place, as a number. -/
def byte (data : ByteArray) (start : Nat) : Nat := (data[start]?.getD 0).toNat

/-- The number in two bytes, the low one first. -/
def littleEndian (data : ByteArray) (start : Nat) : Nat :=
  byte data start + 256 * byte data (start + 1)

/-- The end of a row of blocks, each of which starts with its size. -/
def afterBlocks (data : ByteArray) : Nat → Nat → Nat
  | 0, start => start
  | fuel + 1, start =>
    if byte data start = 0 then start + 1 else afterBlocks data fuel (start + 1 + byte data start)

/-- The bytes of a table of colours, from the flags that go with it. -/
def tableSize (flags : Nat) : Nat := if flags / 128 % 2 = 1 then 3 * twoTo (flags % 8 + 1) else 0

/-- Walk over blocks; `delay` is the time of the next picture. Every block takes a byte or more. -/
def walk (data : ByteArray) : Nat → (start delay : Nat) → Outline → Option Outline
  | 0, _, _, _ => none
  | fuel + 1, start, delay, o =>
    let finish (start : Nat) : Nat := afterBlocks data data.size start
    match data[start]? with
    | some 0x3B => some o
    | some 0x21 =>
      let next := finish (start + 2)
      match byte data (start + 1) with
      | 0xF9 => walk data fuel next (littleEndian data (start + 4)) o
      | 0xFF =>
        walk data fuel next delay { o with repetitions := some (littleEndian data (start + 16)) }
      | _ => walk data fuel next delay o
    | some 0x2C =>
      let number (i : Nat) : Nat := littleEndian data (start + 1 + 2 * i)
      let placed : Placement := ⟨number 0, number 1, number 2, number 3, delay⟩
      let next := finish (start + 11 + tableSize (byte data (start + 9)))
      walk data fuel next 0 { o with placements := o.placements ++ [placed] }
    | _ => none

/-- The outline of some bytes. -/
def ofBytes? (data : ByteArray) : Option Outline := do
  let signature ← String.fromUTF8? (data.extract 0 6)
  walk data data.size (13 + tableSize (byte data 10)) 0
    ⟨signature, littleEndian data 6, littleEndian data 8, none, []⟩

end Outline
end Picture
end Walkthrough
