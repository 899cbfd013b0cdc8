import Routing.Text

/-!
# Shortest decimal text of a double

A finite double is `m · 2 ^ q`.  The decimals that read back as it fill an interval around it, whose
ends belong to it when `m` is even.  `shortest` looks on the grids of 1, 2, … 17 digits for a point
of that interval and takes the first grid that has one; of two such points it takes the nearer, and
the even one of two that are equally near.  A `Layout` then decides between positional and exponent
form.
-/

namespace Routing.Decimal

/-- A double, by its sixty-four bits. -/
structure Double where
  bits : UInt64
  deriving DecidableEq, Repr

namespace Double

def isNegative (x : Double) : Bool := decide (Nat.pow 2 63 ≤ x.bits.toNat)

def exponentField (x : Double) : Nat := x.bits.toNat / Nat.pow 2 52 % Nat.pow 2 11

def fractionField (x : Double) : Nat := x.bits.toNat % Nat.pow 2 52

/-- Infinity or not a number. -/
def isSpecial (x : Double) : Bool := x.exponentField == 0x7ff

def isNaN (x : Double) : Bool := x.isSpecial && x.fractionField != 0

def isZero (x : Double) : Bool := x.exponentField == 0 && x.fractionField == 0

/-- The `m` of a finite double `± m · 2 ^ q`. -/
def mantissa (x : Double) : Nat :=
  if x.exponentField = 0 then x.fractionField else x.fractionField + Nat.pow 2 52

/-- The `q` of a finite double `± m · 2 ^ q`. -/
def exponent (x : Double) : Int := max x.exponentField 1 - 1075

/-- The signed mantissa. -/
def signedMantissa (x : Double) : Int := if x.isNegative then -x.mantissa else x.mantissa

/-- The integer that a double is. -/
def integer? (x : Double) : Option Int :=
  let unit : Int := Int.pow 2 (-x.exponent).toNat
  if x.isSpecial then none
  else if x.signedMantissa % unit = 0 then
    some (x.signedMantissa / unit * Int.pow 2 x.exponent.toNat)
  else none

end Double

/-- A positive rational interval around a value, over the common denominator `den`. -/
structure Window where
  low : Nat
  value : Nat
  high : Nat
  den : Nat
  closed : Bool

namespace Window

/-- The reals that round to a positive double.  Below a power of two the next double is half as far
away as above it. -/
def ofDouble (x : Double) : Window :=
  let scale := Nat.pow 2 (x.exponent - 2).toNat
  let below := if x.fractionField = 0 ∧ 1 < x.exponentField then 1 else 2
  { low := (4 * x.mantissa - below) * scale
    value := 4 * x.mantissa * scale
    high := (4 * x.mantissa + 2) * scale
    den := Nat.pow 2 (2 - x.exponent).toNat
    closed := x.mantissa % 2 == 0 }

/-- Whether `n / d` lies in the interval. -/
def contains (w : Window) (n d : Nat) : Bool :=
  if w.closed then decide (w.low * d ≤ n * w.den) && decide (n * w.den ≤ w.high * d)
  else decide (w.low * d < n * w.den) && decide (n * w.den < w.high * d)

/-- The least `e` with `value < 10 ^ e`. -/
def magnitude (w : Window) : Int :=
  if w.den ≤ w.value then (Nat.toDigits 10 (w.value / w.den)).length
  else -((List.range 400).takeWhile fun j => w.value * Nat.pow 10 (j + 1) < w.den).length

/-- The grid point of `width` digits that stands for the interval, as a whole number of steps of
`10 ^ (magnitude - width)`. -/
def onGrid? (w : Window) (width : Nat) : Option Nat :=
  let step := w.magnitude - width
  let up := Nat.pow 10 step.toNat
  let down := Nat.pow 10 (-step).toNat
  let floor := w.value * down / (w.den * up)
  let inside (n : Nat) : Bool := w.contains (n * up) down
  let twice := 2 * w.value * down
  let middle := (2 * floor + 1) * (w.den * up)
  match inside floor, inside (floor + 1) with
  | true, false => some floor
  | false, true => some (floor + 1)
  | false, false => none
  | true, true =>
    if twice < middle then some floor
    else if middle < twice then some (floor + 1)
    else if floor % 2 = 0 then some floor else some (floor + 1)

/-- The digits of the shortest decimal in the interval, with the place of its point: the value is
`0.digits · 10 ^ place`. -/
def shortest (w : Window) : Text × Int :=
  match (List.range 17).findSome? fun i => (w.onGrid? (i + 1)).map fun n => (i + 1, n) with
  | none => (['0'], 1)
  | some (width, n) =>
    let digits := Text.ofNat n
    (Text.trim (· == '0') digits, w.magnitude + (digits.length - width : Int))

end Window

/-- When digits are written positionally, and how wide an exponent is otherwise. -/
structure Layout where
  leastPlace : Int
  greatestPlace : Int
  exponentWidth : Nat

namespace Layout

/-- Positional from 0.0001 to below 10 ^ 16; an exponent has a sign and at least two digits. -/
def plain : Layout := ⟨-3, 16, 2⟩

/-- Digits with their point at `place`. -/
def write (f : Layout) (digits : Text) (place : Int) : Text :=
  if f.leastPlace ≤ place ∧ place ≤ f.greatestPlace then
    if place ≤ 0 then "0.".toList ++ List.replicate (-place).toNat '0' ++ digits
    else
      let whole := place.toNat
      if digits.length ≤ whole then
        digits ++ List.replicate (whole - digits.length) '0' ++ ".0".toList
      else digits.take whole ++ '.' :: digits.drop whole
  else
    let shown := Text.ofNat (place - 1).natAbs
    digits.take 1 ++ (if digits.length = 1 then [] else '.' :: digits.drop 1) ++
      'e' :: (if place - 1 < 0 then '-' else '+') ::
        List.replicate (f.exponentWidth - shown.length) '0' ++ shown

end Layout

/-- The shortest decimal text that reads back as the double. -/
def Double.text (x : Double) : Text :=
  if x.isNaN then "nan"
  else
    (if x.isNegative then ['-'] else []) ++
      (if x.isSpecial then "inf".toList
      else if x.isZero then "0.0".toList
      else
        let (digits, place) := (Window.ofDouble x).shortest
        Layout.plain.write digits place)

end Routing.Decimal
