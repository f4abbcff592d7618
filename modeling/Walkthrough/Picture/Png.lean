import Walkthrough.Picture.Basic
import Walkthrough.Picture.Deflate
import Walkthrough.Power

/-!
# Walkthrough.Picture.Png

Pictures in the format of browser screenshots: a signature, a header, and chunks with packed rows of
samples.

* `sections?` takes a file apart and checks what it needs of it.
* `restore?` undoes the filters of the rows; `decode?` gives the picture.
-/

namespace Walkthrough
namespace Picture
namespace Png

/-- What the samples of a pixel are. -/
inductive Colour where
  | grey
  | rgb
  | palette
  | greyAlpha
  | rgbAlpha
deriving DecidableEq, Repr

namespace Colour

def ofCode? : Nat → Option Colour
  | 0 => some .grey
  | 2 => some .rgb
  | 3 => some .palette
  | 4 => some .greyAlpha
  | 6 => some .rgbAlpha
  | _ => none

/-- The samples of a pixel. -/
def channels : Colour → Nat
  | .grey => 1
  | .rgb => 3
  | .palette => 1
  | .greyAlpha => 2
  | .rgbAlpha => 4

/-- The numbers of bits that a sample may have. -/
def depths : Colour → List Nat
  | .grey => [1, 2, 4, 8, 16]
  | .palette => [1, 2, 4, 8]
  | _ => [8, 16]

end Colour

structure Header where
  width : Nat
  height : Nat
  /-- The bits of a sample. -/
  depth : Nat
  colour : Colour
  interlaced : Bool
deriving DecidableEq, Repr

/-- The parts of a file that the pixels depend on. -/
structure Sections where
  header : Header
  palette : ByteArray
  /-- What is transparent; empty when the file does not say. -/
  transparency : ByteArray
  packed : ByteArray

/-- The number in the bytes from a place on, the high byte first. -/
def bigEndian (data : ByteArray) (start count : Nat) : Nat :=
  (data.extract start (start + count)).foldl (fun n byte => 256 * n + byte.toNat) 0

def signature : List UInt8 := [137, 80, 78, 71, 13, 10, 26, 10]

/-- One step of the check sum for every bit. -/
def checkBits : Nat → UInt32 → UInt32
  | 0, c => c
  | n + 1, c => checkBits n (if c &&& 1 = 1 then (c >>> 1) ^^^ 0xEDB88320 else c >>> 1)

/-- The check sum of a chunk. -/
def checkSum (data : ByteArray) : UInt32 :=
  data.foldl (fun c byte => checkBits 8 (c ^^^ byte.toUInt32)) 0xFFFFFFFF ^^^ 0xFFFFFFFF

/-- The name of a chunk. -/
def name (data : ByteArray) (start : Nat) : String :=
  String.ofList ((data.extract start (start + 4)).toList.map fun byte => Char.ofNat byte.toNat)

/-- Is the chunk one that must be understood? The first letter of its name is a capital one then. -/
def isCritical (name : String) : Bool := name.toList.head?.any Char.isUpper

/-- The header in the bytes of its chunk. -/
def Header.ofBytes? (data : ByteArray) : Option Header := do
  let colour ← Colour.ofCode? (bigEndian data 9 1)
  let header : Header :=
    { width := bigEndian data 0 4
      height := bigEndian data 4 4
      depth := bigEndian data 8 1
      colour := colour
      interlaced := bigEndian data 12 1 = 1 }
  let fits (n : Nat) : Bool := 0 < n && n < twoTo 31
  if data.size = 13 && fits header.width && fits header.height
      && colour.depths.contains header.depth && bigEndian data 10 2 = 0 && bigEndian data 12 1 ≤ 1
  then return header else none

/-- Read chunks from a place on until the pixels are complete. Every chunk takes twelve bytes or
more. -/
def chunksAux (data : ByteArray) : Nat → Nat → Sections → Option Sections
  | 0, _, _ => none
  | fuel + 1, start, s =>
    let size := bigEndian data start 4
    let kind := name data (start + 4)
    let finish := start + 12 + size
    if data.size < start + 8 then none
    else if kind = "IEND" || (kind ≠ "IDAT" && !s.packed.isEmpty) then some s
    else if data.size < finish then none
    else if isCritical kind
        && (checkSum (data.extract (start + 4) (finish - 4))).toNat ≠ bigEndian data (finish - 4) 4
    then none
    else
      let content := data.extract (start + 8) (finish - 4)
      chunksAux data fuel finish (match kind with
        | "PLTE" => { s with palette := content }
        | "tRNS" => { s with transparency := content }
        | "IDAT" => { s with packed := s.packed ++ content }
        | _ => s)

/-- The parts of a file. -/
def sections? (data : ByteArray) : Option Sections := do
  if (data.extract 0 8).toList ≠ signature || name data 12 ≠ "IHDR" || data.size < 33
      || (checkSum (data.extract 12 29)).toNat ≠ bigEndian data 29 4 || bigEndian data 8 4 ≠ 13
  then none
  else
    let header ← Header.ofBytes? (data.extract 16 29)
    let s ← chunksAux data data.size 33 ⟨header, ByteArray.empty, ByteArray.empty, ByteArray.empty⟩
    if header.colour = .palette && s.palette.isEmpty then none else return s

/-- Every so many columns and rows of a picture, from a first one on. -/
structure Grid where
  column : Nat
  row : Nat
  columnStep : Nat
  rowStep : Nat

namespace Grid

def whole : Grid := ⟨0, 0, 1, 1⟩

/-- The grids of an interlaced picture. -/
def interlaced : List Grid :=
  [⟨0, 0, 8, 8⟩, ⟨4, 0, 8, 8⟩, ⟨0, 4, 4, 8⟩, ⟨2, 0, 4, 4⟩, ⟨0, 2, 2, 4⟩, ⟨1, 0, 2, 2⟩, ⟨0, 1, 1, 2⟩]

/-- How many of so many columns are on the grid. -/
def columns (g : Grid) (width : Nat) : Nat := (width + g.columnStep - 1 - g.column) / g.columnStep

def rows (g : Grid) (height : Nat) : Nat := (height + g.rowStep - 1 - g.row) / g.rowStep

/-- Is a place on the grid? -/
def holds (g : Grid) (column row : Nat) : Bool :=
  g.column ≤ column && (column - g.column) % g.columnStep = 0
    && g.row ≤ row && (row - g.row) % g.rowStep = 0

end Grid

namespace Header

def grids (h : Header) : List Grid := if h.interlaced then Grid.interlaced else [Grid.whole]

/-- The bits of a pixel. -/
def pixelBits (h : Header) : Nat := h.colour.channels * h.depth

/-- The bytes of so many pixels in a row. -/
def rowBytes (h : Header) (columns : Nat) : Nat := (columns * h.pixelBits + 7) / 8

end Header

/-- Of left, above and the corner between them, the one that is nearest to their trend. -/
def nearest (left above corner : Nat) : Nat :=
  let distance (n : Nat) : Nat := ((left + above : Int) - corner - n).natAbs
  if distance left ≤ distance above && distance left ≤ distance corner then left
  else if distance above ≤ distance corner then above
  else corner

/-- What a filter expects a byte to be from its neighbours; nothing for a filter that is none. -/
def expected? (filter left above corner : Nat) : Option Nat :=
  match filter with
  | 0 => some 0
  | 1 => some left
  | 2 => some above
  | 3 => some ((left + above) / 2)
  | 4 => some (nearest left above corner)
  | _ => none

/-- Restore the rest of a row; `row` holds what is restored, and `gap` is the number of bytes from
a pixel to the next one. -/
def restoreRow (data above : ByteArray) (filter gap start : Nat) : (left : Nat) → ByteArray →
    Option ByteArray
  | 0, row => some row
  | left + 1, row => do
    let i := row.size
    let before (bytes : ByteArray) : Nat := if i < gap then 0 else (bytes[i - gap]?.getD 0).toNat
    let e ← expected? filter (before row) (above[i]?.getD 0).toNat (before above)
    let byte ← data[start + i]?
    restoreRow data above filter gap start left (row.push (UInt8.ofNat (byte.toNat + e)))

/-- Restore rows of so many bytes, each of which depends on the one above. -/
def restoreRows (data : ByteArray) (size gap : Nat) : (left : Nat) → (start : Nat) → ByteArray →
    Array ByteArray → Option (Array ByteArray)
  | 0, _, _, rows => some rows
  | left + 1, start, above, rows => do
    let filter := (← data[start]?).toNat
    let row ← restoreRow data above filter gap (start + 1) size ByteArray.empty
    restoreRows data size gap left (start + 1 + size) row (rows.push row)

/-- Restore the rows of grids that follow each other. A grid without columns has no rows. -/
def restore? (h : Header) (data : ByteArray) : List Grid → Nat →
    Option (List (Grid × Array ByteArray))
  | [], _ => some []
  | g :: gs, start => do
    let size := h.rowBytes (g.columns h.width)
    let count := if size = 0 then 0 else g.rows h.height
    let rows ← restoreRows data size (max 1 (h.pixelBits / 8)) count start ByteArray.empty #[]
    return (g, rows) :: (← restore? h data gs (start + count * (1 + size)))

/-- A sample of a row. -/
def sample (depth : Nat) (row : ByteArray) (index : Nat) : Nat :=
  let byte (i : Nat) : Nat := (row[i]?.getD 0).toNat
  if depth = 16 then 256 * byte (2 * index) + byte (2 * index + 1)
  else
    let bit := index * depth
    byte (bit / 8) / twoTo (8 - depth - bit % 8) % twoTo depth

/-- A sample on the scale of a byte. -/
def scaled (depth n : Nat) : UInt8 := UInt8.ofNat (n * 255 / (twoTo depth - 1))

namespace Sections

/-- Is this the value that stands for nothing? -/
def isClear (s : Sections) (samples : List Nat) : Bool :=
  !s.transparency.isEmpty
    && samples = (List.range samples.length).map fun i => bigEndian s.transparency (2 * i) 2

/-- The pixel in a column of a row. -/
def pixel (s : Sections) (row : ByteArray) (column : Nat) : Pixel :=
  let h := s.header
  let raw (i : Nat) : Nat := sample h.depth row (column * h.colour.channels + i)
  let tone (i : Nat) : UInt8 := scaled h.depth (raw i)
  let cover (samples : List Nat) : UInt8 := if s.isClear samples then 0 else 255
  match h.colour with
  | .grey => ⟨tone 0, tone 0, tone 0, cover [raw 0]⟩
  | .rgb => ⟨tone 0, tone 1, tone 2, cover [raw 0, raw 1, raw 2]⟩
  | .greyAlpha => ⟨tone 0, tone 0, tone 0, tone 1⟩
  | .rgbAlpha => ⟨tone 0, tone 1, tone 2, tone 3⟩
  | .palette =>
    let entry (i : Nat) : UInt8 := s.palette[3 * raw 0 + i]?.getD 0
    ⟨entry 0, entry 1, entry 2, s.transparency[raw 0]?.getD 255⟩

end Sections

/-- The picture in a file. -/
def decode? (data : ByteArray) : Option Picture := do
  let s ← sections? data
  let h := s.header
  let rows ← restore? h (← Deflate.unwrap? s.packed) h.grids 0
  return .build h.width h.height fun column row =>
    match rows.find? fun r => r.1.holds column row with
    | none => ⟨0, 0, 0, 0⟩
    | some (g, rs) =>
      s.pixel (rs[(row - g.row) / g.rowStep]?.getD ByteArray.empty)
        ((column - g.column) / g.columnStep)

end Png
end Picture
end Walkthrough
