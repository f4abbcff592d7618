import Walkthrough.Binary64.Reading
import Walkthrough.Power
import Walkthrough.Text.Blank
import Walkthrough.Text.Search

/-!
# Walkthrough.Timestamp

Dates of the Gregorian calendar, moments of universal time, and their texts.

* `Date.next` and `Date.previous` move by one day; a moment given with an offset moves by at most
  that.
* `Timestamp.parse` reads a moment with its offset, `Timestamp.written` writes it with a `Z`.
-/

namespace Walkthrough

/-- Does the year have a 29th of February? -/
def isLeapYear (year : Int) : Bool :=
  year % 4 = 0 && (year % 100 ≠ 0 || year % 400 = 0)

/-- The number of days of a month. -/
def daysIn (year : Int) (month : Nat) : Nat :=
  if month = 2 then (if isLeapYear year then 29 else 28)
  else if month = 4 ∨ month = 6 ∨ month = 9 ∨ month = 11 then 30
  else 31

theorem daysIn_pos (year : Int) (month : Nat) : 1 ≤ daysIn year month := by
  unfold daysIn
  repeat' split
  all_goals omega

/-- A day of the calendar. -/
structure Date where
  year : Int
  month : Nat
  day : Nat
  month_mem : 1 ≤ month ∧ month ≤ 12
  day_mem : 1 ≤ day ∧ day ≤ daysIn year month
deriving DecidableEq, Repr

namespace Date

/-- The day of three numbers, if there is one. -/
def of? (year : Int) (month day : Nat) : Option Date :=
  if hm : 1 ≤ month ∧ month ≤ 12 then
    if hd : 1 ≤ day ∧ day ≤ daysIn year month then some ⟨year, month, day, hm, hd⟩ else none
  else none

/-- The first day that moments are counted from. -/
def epoch : Date := ⟨1970, 1, 1, by decide, by decide⟩

def next (d : Date) : Date :=
  if h : d.day < daysIn d.year d.month then
    { d with day := d.day + 1, day_mem := ⟨by omega, h⟩ }
  else if hm : d.month < 12 then
    ⟨d.year, d.month + 1, 1, ⟨by omega, hm⟩, ⟨Nat.le_refl 1, daysIn_pos _ _⟩⟩
  else ⟨d.year + 1, 1, 1, by decide, ⟨Nat.le_refl 1, daysIn_pos _ _⟩⟩

def previous (d : Date) : Date :=
  if h : 1 < d.day then
    { d with day := d.day - 1, day_mem := by have := d.day_mem; omega }
  else if hm : 1 < d.month then
    ⟨d.year, d.month - 1, daysIn d.year (d.month - 1), by have := d.month_mem; omega,
      ⟨daysIn_pos _ _, Nat.le_refl _⟩⟩
  else ⟨d.year - 1, 12, 31, by decide, by simp [daysIn]⟩

/-- The day that is some days later. -/
def after : Nat → Date → Date
  | 0, d => d
  | n + 1, d => after n d.next

end Date

/-- A moment of universal time. Second 60 is a leap second. -/
structure Timestamp where
  date : Date
  hour : Nat
  minute : Nat
  second : Nat
  nano : Nat
  hour_lt : hour < 24
  minute_lt : minute < 60
  second_le : second ≤ 60
  nano_lt : nano < 1000000000
deriving DecidableEq, Repr

namespace Timestamp

/-- The moment some seconds after the start of a day, and some nanoseconds after that. -/
def ofSeconds (day : Date) (seconds nanos : Nat) : Timestamp where
  date := day.after (seconds / 86400)
  hour := seconds % 86400 / 3600
  minute := seconds % 3600 / 60
  second := seconds % 60
  nano := nanos % 1000000000
  hour_lt := by omega
  minute_lt := by omega
  second_le := by omega
  nano_lt := by omega

/-- The moment some seconds after 1970 began. -/
def sinceEpoch (seconds nanos : Nat) : Timestamp := ofSeconds .epoch seconds nanos

instance : Inhabited Timestamp := ⟨sinceEpoch 0 0⟩

/-- The seconds since the start of the day. -/
def secondOfDay (t : Timestamp) : Nat := t.hour * 3600 + t.minute * 60 + t.second

/-- The moment some milliseconds later. -/
def later (t : Timestamp) (millis : Nat) : Timestamp :=
  let nanos := t.nano + millis % 1000 * 1000000
  ofSeconds t.date (t.secondOfDay + millis / 1000 + nanos / 1000000000) nanos

/-- A reason why a text is no moment. -/
inductive Fault where
  | tooShort
  | invalid
  | outOfRange
  | impossible
  | tooLong
deriving DecidableEq, Repr

def Fault.message : Fault → String
  | .tooShort => "premature end of input"
  | .invalid => "input contains invalid characters"
  | .outOfRange => "input is out of range"
  | .impossible => "no possible date and time matching input"
  | .tooLong => "trailing input"

/-- A number of one to `most` digits. -/
def readNumber (most : Nat) (cs : List Char) : Except Fault (Nat × List Char) :=
  let digits := (cs.takeWhile Char.isDigit).take most
  if cs.isEmpty then .error .tooShort
  else if digits.isEmpty then .error .invalid
  else .ok (Binary64.ofDigits digits, cs.drop digits.length)

/-- A number of at most two digits within bounds; blanks before it mean nothing. -/
def readPart (low high : Nat) (cs : List Char) : Except Fault (Nat × List Char) := do
  let (n, rest) ← readNumber 2 (Text.trimStart cs)
  if low ≤ n ∧ n ≤ high then .ok (n, rest) else .error .outOfRange

/-- A year: four digits at most, or any number of them after a sign. -/
def readYear (cs : List Char) : Except Fault (Int × List Char) :=
  let signed (sign : Int) (r : List Char) : Except Fault (Int × List Char) := do
    let (n, rest) ← readNumber r.length r
    let year := sign * n
    if -(twoTo 31 : Int) ≤ year ∧ year < (twoTo 31 : Int) then .ok (year, rest) else .error .outOfRange
  match Text.trimStart cs with
  | '-' :: r => signed (-1) r
  | '+' :: r => signed 1 r
  | r => do
    let (n, rest) ← readNumber 4 r
    .ok ((n : Int), rest)

/-- A mark between two parts; blanks before it mean nothing. -/
def readMark (mark : Char) (cs : List Char) : Except Fault (List Char) :=
  match Text.trimStart cs with
  | [] => .error .tooShort
  | c :: r => if c = mark then .ok r else .error .invalid

/-- What stands between the date and the time. -/
def readSeparator : List Char → Except Fault (List Char)
  | [] => .error .tooShort
  | c :: r => if c = 't' ∨ c = 'T' ∨ c = ' ' then .ok r else .error .invalid

/-- The nanoseconds of a fraction; digits beyond the ninth are dropped. -/
def readFraction : List Char → Except Fault (Nat × List Char)
  | '.' :: r => do
    let (n, rest) ← readNumber 9 r
    let digits := r.length - rest.length
    .ok (n * tenTo (9 - digits), rest.dropWhile Char.isDigit)
  | cs => .ok (0, cs)

/-- Two digits at the front. A single byte is too short, anything else is invalid. -/
def readPair : List Char → Except Fault ((Nat × Nat) × List Char)
  | [] => .error .tooShort
  | [c] => .error (if c.utf8Size < 2 then .tooShort else .invalid)
  | a :: b :: rest =>
    if a.isDigit && b.isDigit then .ok ((Binary64.digitValue a, Binary64.digitValue b), rest)
    else .error .invalid

/-- The minutes that local time is ahead of universal time. -/
def readOffset (cs : List Char) : Except Fault (Int × List Char) :=
  let amount (sign : Int) (r : List Char) : Except Fault (Int × List Char) := do
    let ((h1, h2), r) ← readPair r
    let ((m1, m2), r) ← readPair (r.dropWhile fun c => c = ':' || Text.isBlank c)
    if m1 < 6 then .ok (sign * ((h1 * 10 + h2) * 60 + (m1 * 10 + m2) : Nat), r)
    else .error .outOfRange
  let zone := (cs.take 3).map Char.toLower
  if zone = ['u', 't', 'c'] then .ok (0, cs.drop 3)
  else
    match cs with
    | [] => .error .tooShort
    | 'Z' :: r => .ok (0, r)
    | 'z' :: r => .ok (0, r)
    | '+' :: r => amount 1 r
    | '-' :: r => amount (-1) r
    | '\u2212' :: r => amount (-1) r
    | _ => .error .invalid

/-- The first and the last year of the calendar. -/
def yearBounds : Int × Int := (-262143, 262142)

def isYear (year : Int) : Bool := yearBounds.1 ≤ year && year ≤ yearBounds.2

/-- The moment of a local time that is some minutes ahead of universal time. -/
def ofLocal (date : Date) (minute : Nat) (second nano : Nat) (h : second ≤ 60)
    (hn : nano < 1000000000) (offset : Int) : Except Fault Timestamp :=
  let total : Int := minute - offset
  let date :=
    if total < 0 then date.previous
    else if 1440 ≤ total then date.next
    else date
  let rest := (total % 1440).toNat
  if isYear date.year then
    .ok ⟨date, rest / 60 % 24, rest % 60, second, nano, by omega, by omega, h, hn⟩
  else .error .impossible

/-- Read a moment: date, separator, time with an optional fraction, offset. -/
def parseChars (cs : List Char) : Except Fault Timestamp := do
  let (year, cs) ← readYear cs
  let cs ← readMark '-' cs
  let (month, cs) ← readPart 1 12 cs
  let cs ← readMark '-' cs
  let (day, cs) ← readPart 1 31 cs
  let cs ← readSeparator cs
  let (hour, cs) ← readPart 0 23 cs
  let cs ← readMark ':' cs
  let (minute, cs) ← readPart 0 59 cs
  let cs ← readMark ':' cs
  let (second, cs) ← readPart 0 60 cs
  let (nano, cs) ← readFraction cs
  let (offset, cs) ← readOffset (Text.trimStart cs)
  if !(Text.trimStart cs).isEmpty then .error .tooLong
  else if !isYear year then .error .outOfRange
  else
    match Date.of? year month day with
    | none => .error .outOfRange
    | some date =>
      if 1440 ≤ offset.natAbs then .error .outOfRange
      else if h : second ≤ 60 ∧ nano < 1000000000 then
        ofLocal date (hour * 60 + minute) second nano h.1 h.2 offset
      else .error .outOfRange

def parse (s : String) : Except Fault Timestamp := parseChars s.toList

/-- A year has four digits; one that needs more has a sign. -/
def yearText (year : Int) : String :=
  if 0 ≤ year ∧ year ≤ 9999 then Text.padded 4 year.toNat
  else (if year < 0 then "-" else "+") ++ Text.padded 4 year.natAbs

/-- A fraction of a second in as few groups of three digits as it needs. -/
def fractionText (nano : Nat) : String :=
  if nano = 0 then ""
  else if nano % 1000000 = 0 then "." ++ Text.padded 3 (nano / 1000000)
  else if nano % 1000 = 0 then "." ++ Text.padded 6 (nano / 1000)
  else "." ++ Text.padded 9 nano

/-- A moment with a mark for its offset. -/
def withZone (zone : String) (t : Timestamp) : String :=
  yearText t.date.year ++ "-" ++ Text.padded 2 t.date.month ++ "-" ++ Text.padded 2 t.date.day
    ++ "T" ++ Text.padded 2 t.hour ++ ":" ++ Text.padded 2 t.minute ++ ":" ++ Text.padded 2 t.second
    ++ fractionText t.nano ++ zone

/-- The text of a moment in documents. -/
def written (t : Timestamp) : String := t.withZone "Z"

/-- The text of a moment for readers. -/
def shown (t : Timestamp) : String := t.withZone "+00:00"

/-- The time of day in the names of files, down to the millisecond. -/
def clockStamp (t : Timestamp) : String :=
  Text.padded 2 t.hour ++ Text.padded 2 t.minute ++ Text.padded 2 t.second
    ++ Text.padded 3 (t.nano / 1000000)

/-- The name of a run that starts at a moment. -/
def runStamp (t : Timestamp) : String :=
  yearText t.date.year ++ Text.padded 2 t.date.month ++ Text.padded 2 t.date.day ++ "_"
    ++ Text.padded 2 t.hour ++ Text.padded 2 t.minute ++ Text.padded 2 t.second

end Timestamp
end Walkthrough
