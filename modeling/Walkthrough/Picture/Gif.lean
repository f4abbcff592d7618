import Std.Data.HashMap
import Walkthrough.Picture.Png
import Walkthrough.Power
import Walkthrough.Text.Search

/-!
# Walkthrough.Picture.Gif

Animations, and the bytes that they are written in.

* `Animation.ofCaptures` leaves out what is no picture; `delay` is the time that every picture is
  shown.
* `Animation.encode` writes all pictures in one set of colours, packed by `Packer`, and refuses
  pictures that are too large.
-/

namespace Walkthrough

/-- Pictures that are shown one after the other, again and again. -/
structure Animation where
  frames : List Picture
  /-- The time that every picture is shown, in hundredths of a second. -/
  delay : Nat

namespace Animation

open Picture

/-- The most pictures in a second. -/
def maxRate : Nat := 30

/-- A number of pictures in a second that can be kept. -/
def clampRate (fps : Nat) : Nat := max 1 (min fps maxRate)

/-- The milliseconds from one picture to the next. -/
def interval (fps : Nat) : Nat := 1000 / clampRate fps

/-- The animation of captured pictures. What is no picture is left out. -/
def ofCaptures (captures : List ByteArray) (fps : Nat) : Animation :=
  ⟨captures.filterMap Png.decode?, interval fps / 10⟩

/-- The pictures are placed on an area of the size of the first one. -/
def size? (a : Animation) : Option (Nat × Nat) := a.frames.head?.map fun p => (p.width, p.height)

/-- How often the pictures are shown again; none says that there is no end. -/
def repetitions : Nat := 0

/-- How the bytes of an animation start. -/
def signature : String := "GIF89a"

/-- The largest width and height. -/
def sideLimit : Nat := twoTo 16 - 1

inductive Fault where
  | tooLarge
deriving DecidableEq, Repr

def Fault.message : Fault → String
  | .tooLarge => "The Image's dimensions are either too small or too large"

/-- Colours that are told apart by so many levels of red, green and blue each. -/
structure Levels where
  count : Nat
  two_le : 2 ≤ count := by decide
  le_six : count ≤ 6 := by decide

namespace Levels

/-- The levels that a quality asks for. -/
def ofQuality (quality : String) : Levels :=
  match Text.lowerAscii quality with
  | "high" => { count := 6 }
  | "low" => { count := 4 }
  | _ => { count := 5 }

/-- The level of a value. -/
def level (l : Levels) (value : UInt8) : Nat := (value.toNat * (l.count - 1) + 127) / 255

/-- The number of what nothing is seen of. -/
def clear (l : Levels) : Nat := l.count * l.count * l.count

/-- The number of a pixel. -/
def index (l : Levels) (p : Pixel) : Nat :=
  if p.alpha < 128 then l.clear
  else (l.level p.red * l.count + l.level p.green) * l.count + l.level p.blue

/-- The table of 256 colours. -/
def table (l : Levels) : List UInt8 :=
  (List.range 256).flatMap fun i =>
    [i / (l.count * l.count), i / l.count, i].map fun n =>
      UInt8.ofNat (n % l.count * 255 / (l.count - 1))

end Levels

/-- Numbers below 256 on their way into code words that stand for ever longer runs of them. -/
structure Packer where
  /-- The words of runs, by the word of all but the last number and that number. -/
  words : Std.HashMap Nat Nat
  /-- The next new word. -/
  next : Nat
  /-- The bits of a word. -/
  width : Nat
  /-- The word of the run that was read last. -/
  held : Option Nat
  /-- Bits that do not fill a byte yet, and how many they are. -/
  pending : Nat
  count : Nat
  out : ByteArray

namespace Packer

/-- The word after which the words of runs are built up anew. -/
def clearWord : Nat := 256

/-- The word at the end. -/
def endWord : Nat := 257

/-- The bits of the longest word. -/
def maxWidth : Nat := 12

def new : Packer := ⟨∅, 258, 9, none, 0, 0, ByteArray.empty⟩

/-- Write the whole bytes of some bits, from the low end, and say which bits stay. -/
def drain (pending : Nat) : (count : Nat) → ByteArray → Nat × Nat × ByteArray
  | count, out =>
    if 8 ≤ count then drain (pending / 256) (count - 8) (out.push (UInt8.ofNat pending))
    else (pending, count, out)
termination_by count => count

def write (p : Packer) (word : Nat) : Packer :=
  let (pending, count, out) := drain (p.pending + word * twoTo p.count) (p.count + p.width) p.out
  { p with pending, count, out }

/-- Forget the words of runs. -/
def clear (p : Packer) : Packer :=
  { p.write clearWord with words := ∅, next := 258, width := 9 }

/-- Take the next number. -/
def push (p : Packer) (n : Nat) : Packer :=
  match p.held with
  | none => { p with held := some n }
  | some word =>
    let key := 256 * word + n
    match p.words[key]? with
    | some longer => { p with held := some longer }
    | none =>
      let p : Packer := { p.write word with held := some n }
      if p.next = twoTo maxWidth then p.clear
      else
        { p with
          words := p.words.insert key p.next
          next := p.next + 1
          width := if p.next = twoTo p.width then p.width + 1 else p.width }

/-- The bytes when all numbers are there. -/
def finish (p : Packer) : ByteArray :=
  let p := match p.held with
    | none => p
    | some word => p.write word
  let p := p.write endWord
  if p.count = 0 then p.out else p.out.push (UInt8.ofNat p.pending)

end Packer

/-- A number in two bytes, the low one first. -/
def twoBytes (n : Nat) : List UInt8 := [UInt8.ofNat n, UInt8.ofNat (n / 256)]

def append (out : ByteArray) (bytes : List UInt8) : ByteArray := bytes.foldl ByteArray.push out

/-- Bytes in blocks of at most 255, each after its size, and an empty block. -/
def blocks (bytes : ByteArray) (out : ByteArray) : ByteArray :=
  let starts := (List.range ((bytes.size + 254) / 255)).map (255 * ·)
  let out := starts.foldl (fun out start =>
    let block := bytes.extract start (start + 255)
    out.push (UInt8.ofNat block.size) ++ block) out
  out.push 0

/-- The numbers of a picture in code words. -/
def packed (l : Levels) (p : Picture) : ByteArray :=
  (p.pixels.foldl (fun packer pixel => packer.push (l.index pixel)) Packer.new.clear).finish

/-- Write a picture and how it is shown: for a while, then taken away. -/
def encodeFrame (l : Levels) (delay : Nat) (out : ByteArray) (p : Picture) : ByteArray :=
  let control := [0x21, 0xF9, 4, 9] ++ twoBytes delay ++ [UInt8.ofNat l.clear, 0]
  let descriptor := 0x2C :: twoBytes 0 ++ twoBytes 0 ++ twoBytes p.width ++ twoBytes p.height ++ [0]
  blocks (packed l p) (append out (control ++ descriptor ++ [8]))

/-- What comes before the pictures: the size of the area, the colours, and the repetitions. -/
def encodeStart (l : Levels) (width height : Nat) : ByteArray :=
  let screen := twoBytes width ++ twoBytes height ++ [0xF7, 0, 0]
  let application := [0x21, 0xFF, 11] ++ "NETSCAPE2.0".toUTF8.toList
  let loop := [3, 1] ++ twoBytes repetitions ++ [0]
  append signature.toUTF8 (screen ++ l.table ++ application ++ loop)

/-- Is the picture small enough? -/
def fits (p : Picture) : Bool := p.width ≤ sideLimit && p.height ≤ sideLimit

/-- The bytes of an animation; there are none when there are no pictures. -/
def encode (a : Animation) (l : Levels) : Except Fault ByteArray :=
  match a.size? with
  | none => .ok ByteArray.empty
  | some (width, height) =>
    if a.frames.all fits then
      .ok ((a.frames.foldl (encodeFrame l a.delay) (encodeStart l width height)).push 0x3B)
    else .error .tooLarge

end Animation
end Walkthrough
