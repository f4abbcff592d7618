import Walkthrough.Binary64.Digits
import Walkthrough.Power

/-!
# Walkthrough.Duration

Spans of time in whole nanoseconds, read from seconds and rounded up to the milliseconds of a
clock.

* `ofSeconds?` rounds to the nearest nanosecond and refuses what is no span of time.
* `saturating` turns every number of seconds into a limit that can be armed.
* `le_ceilMillis` says that a deadline on the clock is never early.
-/

namespace Walkthrough

/-- A span of time. -/
structure Duration where
  nanos : Nat
deriving DecidableEq, Repr

namespace Duration

instance : Inhabited Duration := ⟨⟨0⟩⟩

def zero : Duration := ⟨0⟩

def ofMillis (ms : Nat) : Duration := ⟨ms * 1000000⟩

def ofWholeSeconds (s : Nat) : Duration := ⟨s * 1000000000⟩

/-- The whole seconds of a span. -/
def wholeSeconds (d : Duration) : Nat := d.nanos / 1000000000

/-- The nanoseconds beyond the whole seconds. -/
def subsecondNanos (d : Duration) : Nat := d.nanos % 1000000000

/-- The first whole millisecond that is not before the end of the span. -/
def ceilMillis (d : Duration) : Nat := (d.nanos + 999999) / 1000000

theorem le_ceilMillis (d : Duration) : d.nanos ≤ d.ceilMillis * 1000000 := by
  unfold ceilMillis
  omega

theorem ceilMillis_ofMillis (ms : Nat) : (ofMillis ms).ceilMillis = ms := by
  simp only [ceilMillis, ofMillis]
  omega

/-- The nanoseconds of a non-negative finite number of seconds, rounded to the even one of two. -/
def nanosOf (x : Binary64) : Nat :=
  Binary64.roundDiv (x.ratio.1 * 1000000000) x.ratio.2

/-- The span of a number of seconds; `none` when it is negative, no number, or at least `2 ^ 64`
seconds. -/
def ofSeconds? (x : Binary64) : Option Duration :=
  if x.isNaN || x.isBelowZero || !x.isFinite then none
  else
    let n := nanosOf x
    if n < twoTo 64 * 1000000000 then some ⟨n⟩ else none

/-- The longest limit that is ever armed. -/
def longest : Duration := ofWholeSeconds (twoTo 32 - 1)

/-- The limit of a number of seconds: none of it at or below zero, never above `longest`. -/
def saturating (x : Binary64) : Duration :=
  if x.isAboveZero then
    match ofSeconds? x with
    | some d => ⟨min d.nanos longest.nanos⟩
    | none => longest
  else zero

/-- The span in seconds, as the sum of its rounded parts. -/
def inSeconds (d : Duration) : Binary64 :=
  Binary64.addMagnitudes (Binary64.ofNat d.wholeSeconds)
    ((Binary64.ofNat d.subsecondNanos).div (Binary64.ofNat 1000000000))

/-- The span in seconds with one place, as messages show it. -/
def text (d : Duration) : String := d.inSeconds.fixed 1

end Duration
end Walkthrough
