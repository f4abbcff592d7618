import Walkthrough.Power

/-!
# Walkthrough.Picture.Deflate

Bytes that were packed by the deflate method, unpacked.

* `Code.read?` reads a symbol of a prefix code that is given by the lengths of its words.
* `unpack?` reads block after block up to the last one; `unwrap?` reads the frame around the blocks
  first.
-/

namespace Walkthrough
namespace Picture
namespace Deflate

/-- Bytes that are read bit by bit, from the low end of each. -/
structure Bits where
  data : ByteArray
  /-- How many bits have been read. -/
  position : Nat

namespace Bits

def bit? (b : Bits) : Option (Nat × Bits) :=
  b.data[b.position / 8]?.map fun byte =>
    (byte.toNat / twoTo (b.position % 8) % 2, { b with position := b.position + 1 })

/-- A number of so many bits, the low bit first. -/
def number? : Nat → Bits → Option (Nat × Bits)
  | 0, b => some (0, b)
  | n + 1, b => do
    let (low, b) ← b.bit?
    let (high, b) ← number? n b
    return (low + 2 * high, b)

/-- Go on with the next whole byte. -/
def align (b : Bits) : Bits := { b with position := (b.position + 7) / 8 * 8 }

end Bits

/-- A prefix code: how many words it has of each length from one on, and the symbols in the order of
their words. -/
structure Code where
  counts : List Nat
  symbols : Array Nat

/-- The longest word of a code. -/
def maxLength : Nat := 15

namespace Code

/-- The code in which symbol `i` has a word of the `i`-th length; zero says that it has none. -/
def ofLengths (lengths : List Nat) : Code :=
  let all := (List.range maxLength).map (· + 1)
  { counts := all.map fun n => lengths.count n
    symbols := (all.flatMap fun n =>
      lengths.zipIdx.filterMap fun s => if s.1 = n then some s.2 else none).toArray }

/-- What is left of the room for words when it doubles with every length; nothing when there are
more words than there is room. -/
def spare? : Nat → List Nat → Option Nat
  | room, [] => some room
  | room, count :: counts => if count ≤ 2 * room then spare? (2 * room - count) counts else none

/-- Does every sequence of bits start with a word? -/
def isComplete (c : Code) : Bool := spare? 1 c.counts = some 0

/-- Can the code be used for distances? One that has a single word, or none, has room left. -/
def isUsable (c : Code) : Bool :=
  c.isComplete || (c.symbols.size ≤ 1 && (spare? 1 c.counts).isSome)

/-- Read on in a word that lies so many words after the first one of its length, with the symbols of
shorter words passed. -/
def readAux (symbols : Array Nat) : (counts : List Nat) → (rank passed : Nat) → Bits →
    Option (Nat × Bits)
  | [], _, _, _ => none
  | count :: counts, rank, passed, b => do
    let (bit, b) ← b.bit?
    let rank := 2 * rank + bit
    if rank < count then return (← symbols[passed + rank]?, b)
    else readAux symbols counts (rank - count) (passed + count) b

/-- Read a symbol. -/
def read? (c : Code) (b : Bits) : Option (Nat × Bits) := readAux c.symbols c.counts 0 0 b

end Code

/-- A number that a symbol stands for: its least value and how many bits are to be added. -/
abbrev Range : Type := Nat × Nat

/-- The lengths of repetitions, for the symbols from 257 on. -/
def lengthRanges : Array Range :=
  #[(3, 0), (4, 0), (5, 0), (6, 0), (7, 0), (8, 0), (9, 0), (10, 0), (11, 1), (13, 1), (15, 1),
    (17, 1), (19, 2), (23, 2), (27, 2), (31, 2), (35, 3), (43, 3), (51, 3), (59, 3), (67, 4),
    (83, 4), (99, 4), (115, 4), (131, 5), (163, 5), (195, 5), (227, 5), (258, 0)]

/-- How far back a repetition reaches. -/
def distanceRanges : Array Range :=
  #[(1, 0), (2, 0), (3, 0), (4, 0), (5, 1), (7, 1), (9, 2), (13, 2), (17, 3), (25, 3), (33, 4),
    (49, 4), (65, 5), (97, 5), (129, 6), (193, 6), (257, 7), (385, 7), (513, 8), (769, 8),
    (1025, 9), (1537, 9), (2049, 10), (3073, 10), (4097, 11), (6145, 11), (8193, 12), (12289, 12),
    (16385, 13), (24577, 13)]

/-- Read the number in a range. -/
def inRange? (r : Range) (b : Bits) : Option (Nat × Bits) :=
  (b.number? r.2).map fun n => (r.1 + n.1, n.2)

/-- Repeat what lies some bytes back, byte by byte. -/
def repeatBack (distance : Nat) : (length : Nat) → ByteArray → ByteArray
  | 0, out => out
  | n + 1, out => repeatBack distance n (out.push (out[out.size - distance]?.getD 0))

/-- Read the symbols of a block up to its end; each takes a bit or more, so the number of bits
bounds their number. -/
def symbolsAux (literals distances : Code) : Nat → Bits → ByteArray → Option (Bits × ByteArray)
  | 0, _, _ => none
  | fuel + 1, b, out => do
    let (s, b) ← literals.read? b
    if s < 256 then symbolsAux literals distances fuel b (out.push (UInt8.ofNat s))
    else if s = 256 then return (b, out)
    else
      let (length, b) ← inRange? (← lengthRanges[s - 257]?) b
      let (d, b) ← distances.read? b
      let (distance, b) ← inRange? (← distanceRanges[d]?) b
      if out.size < distance then none
      else symbolsAux literals distances fuel b (repeatBack distance length out)

/-- How many bits there are. -/
def bitSize (data : ByteArray) : Nat := 8 * data.size

/-- A block of symbols in two codes. -/
def coded? (literals distances : Code) (b : Bits) (out : ByteArray) : Option (Bits × ByteArray) :=
  symbolsAux literals distances (bitSize b.data + 1) b out

/-- A block of bytes as they are, after their number and its complement. -/
def stored? (b : Bits) (out : ByteArray) : Option (Bits × ByteArray) := do
  let (size, b) ← b.align.number? 16
  let (check, b) ← b.number? 16
  if size + check ≠ 65535 then none
  else
    let start := b.position / 8
    if b.data.size < start + size then none
    else
      return ({ b with position := 8 * (start + size) },
        out ++ b.data.extract start (start + size))

/-- The code of literals and lengths in blocks that bring none. -/
def fixedLiterals : Code :=
  .ofLengths (List.replicate 144 8 ++ List.replicate 112 9 ++ List.replicate 24 7
    ++ List.replicate 8 8)

/-- The code of distances in blocks that bring none. -/
def fixedDistances : Code := .ofLengths (List.replicate 32 5)

/-- The order in which the lengths of the code for lengths are written. -/
def lengthOrder : List Nat := [16, 17, 18, 0, 8, 7, 9, 6, 10, 5, 11, 4, 12, 3, 13, 2, 14, 1, 15]

/-- So many numbers of three bits. -/
def threeBits? : Nat → Bits → Option (List Nat × Bits)
  | 0, b => some ([], b)
  | n + 1, b => do
    let (l, b) ← b.number? 3
    let (ls, b) ← threeBits? n b
    return (l :: ls, b)

/-- Read lengths until there are enough of them; they are collected in reverse. Every symbol adds
one or more, which bounds their number. -/
def lengthsAux (code : Code) (wanted : Nat) : Nat → Bits → List Nat → Option (List Nat × Bits)
  | 0, _, _ => none
  | fuel + 1, b, ls =>
    if ls.length = wanted then some (ls.reverse, b)
    else if wanted < ls.length then none
    else do
      let (s, b) ← code.read? b
      if s < 16 then lengthsAux code wanted fuel b (s :: ls)
      else if s = 16 then
        let (n, b) ← inRange? (3, 2) b
        lengthsAux code wanted fuel b (List.replicate n (← ls.head?) ++ ls)
      else
        let (n, b) ← inRange? (if s = 17 then (3, 3) else (11, 7)) b
        lengthsAux code wanted fuel b (List.replicate n 0 ++ ls)

/-- The codes that a block brings. -/
def codes? (b : Bits) : Option (Code × Code × Bits) := do
  let (literals, b) ← inRange? (257, 5) b
  let (distances, b) ← inRange? (1, 5) b
  let (given, b) ← inRange? (4, 4) b
  let (ls, b) ← threeBits? given b
  let lengths := (List.range 19).map fun s =>
    ((lengthOrder.zip ls).lookup s).getD 0
  let code := Code.ofLengths lengths
  if !code.isComplete then none
  else
    let wanted := literals + distances
    let (all, b) ← lengthsAux code wanted (wanted + 1) b []
    let l := Code.ofLengths (all.take literals)
    let d := Code.ofLengths (all.drop literals)
    if l.isUsable && d.isUsable then return (l, d, b) else none

/-- Read a block after the mark that tells whether it is the last one. -/
def block? (b : Bits) (out : ByteArray) : Option (Bits × ByteArray) := do
  match ← b.number? 2 with
  | (0, b) => stored? b out
  | (1, b) => coded? fixedLiterals fixedDistances b out
  | (2, b) =>
    let (l, d, b) ← codes? b
    coded? l d b out
  | _ => none

/-- Read blocks up to the last one; each takes some bits. -/
def blocksAux : Nat → Bits → ByteArray → Option ByteArray
  | 0, _, _ => none
  | fuel + 1, b, out => do
    let (last, b) ← b.bit?
    let (b, out) ← block? b out
    if last = 1 then return out else blocksAux fuel b out

/-- Unpack the blocks that start at a byte. -/
def unpack? (data : ByteArray) (start : Nat) : Option ByteArray :=
  blocksAux (bitSize data + 1) ⟨data, 8 * start⟩ ByteArray.empty

/-- Unpack what has a header of two bytes, which name the method and the size of the window and are
together a multiple of 31. -/
def unwrap? (data : ByteArray) : Option ByteArray := do
  let method := (← data[0]?).toNat
  let flags := (← data[1]?).toNat
  if method % 16 = 8 && method / 16 ≤ 7 && (256 * method + flags) % 31 = 0 && flags / 32 % 2 = 0
  then unpack? data 2 else none

end Deflate
end Picture
end Walkthrough
