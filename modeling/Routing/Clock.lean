import Routing.Decimal.Fixed

/-!
# Measuring time

A clock hands out the readings it was given, in ticks of 1/1024 second, and goes on tick by tick
when they run out.  The time between two readings is what doubles make of it: seconds, then their
difference, then a thousand times that, each rounded to the nearest double.  Seconds that are more
than any double cannot be told; a difference that is too large is infinite.
-/

namespace Routing

structure Clock where
  readings : List Int
  last : Int
  deriving DecidableEq

namespace Clock

/-- A clock that starts at zero. -/
def ofReadings (readings : List Int) : Clock := ⟨readings, 0⟩

/-- The next reading, and the clock after it. -/
def next (clock : Clock) : Int × Clock :=
  match clock.readings with
  | [] => (clock.last + 1, ⟨[], clock.last + 1⟩)
  | reading :: rest => (reading, ⟨rest, reading⟩)

/-- The significant binary digits of a double. -/
def precision : Nat := 53

/-- Ticks per second. -/
def frequency : Nat := 1024

/-- Ticks with more binary digits than this are more seconds than any double. -/
def range : Nat := 1024 + frequency.log2

/-- Whether rounded ticks can be told in seconds. -/
def isWithinRange (ticks : Int) : Bool := decide (ticks.natAbs.log2 < range)

/-- Whether a reading can be told in seconds. -/
def isTellable (reading : Int) : Bool := isWithinRange (Decimal.roundBinary precision reading)

/-- The milliseconds between two readings, with two places. -/
def elapsed (start stop : Int) : Text :=
  let between := Decimal.roundBinary precision
    (Decimal.roundBinary precision stop - Decimal.roundBinary precision start)
  let milliseconds := Decimal.roundBinary precision (between * 1000)
  if isWithinRange milliseconds then
    Decimal.hundredths (Decimal.roundDiv (milliseconds * 100) frequency)
  else if 0 < milliseconds then "inf"
  else "-inf"

example : elapsed 0 80 = "78.12" ∧ elapsed 0 112 = "109.38" := by decide

end Clock

end Routing
