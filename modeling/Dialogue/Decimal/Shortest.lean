/-!
# Shortest decimals

The decimal with the fewest digits that reads back as a given double, and of
those the nearest.  A double stands for the interval of numbers that round to
it.  For one digit, two digits and so on, the two points of that decimal grid
next to the double are tested in exact arithmetic, and the first grid with a
point in the interval wins.
-/

namespace Dialogue.Decimal

def twoTo (power : Nat) : Nat :=
  Nat.pow 2 power

def tenTo (power : Nat) : Nat :=
  Nat.pow 10 power

def significandLimit : Nat := twoTo 52

def exponentLimit : Nat := twoTo 11

/-- The numbers that round to a positive double, in units of two to the power
`exponent`: those between `low` and `high`, ends included if `closed`. -/
structure Interval where
  low : Nat
  value : Nat
  high : Nat
  closed : Bool
  exponent : Int

/-- The interval of the positive finite double with these bits.  The unit is a
quarter of the last place, and the gap below a power of two is half as wide. -/
def Interval.ofBits (bits : Nat) : Interval :=
  let field := bits / significandLimit % exponentLimit
  let fraction := bits % significandLimit
  let significand := if field = 0 then fraction else fraction + significandLimit
  let below := if fraction = 0 ∧ 1 < field then 1 else 2
  { low := 4 * significand - below
    value := 4 * significand
    high := 4 * significand + 2
    closed := significand % 2 = 0
    exponent := ((max field 1 : Nat) : Int) - 1077 }

structure Scientific where
  digits : Nat
  exponent : Int

namespace Interval

/-- What a number of units has to be multiplied with to be compared with a point
of the grid of steps ten to the power `step`. -/
def unitFactor (interval : Interval) (step : Int) : Nat :=
  twoTo interval.exponent.toNat * tenTo (-step).toNat

def pointFactor (interval : Interval) (step : Int) : Nat :=
  twoTo (-interval.exponent).toNat * tenTo step.toNat

def contains (interval : Interval) (step : Int) (point : Nat) : Bool :=
  let place := point * interval.pointFactor step
  let low := interval.low * interval.unitFactor step
  let high := interval.high * interval.unitFactor step
  if interval.closed then low ≤ place && place ≤ high else low < place && place < high

/-- The point of a grid that lies in the interval, the nearer one if both
neighbours of the value do. -/
def point? (interval : Interval) (step : Int) : Option Nat :=
  let value := interval.value * interval.unitFactor step
  let below := value / interval.pointFactor step
  match interval.contains step below, interval.contains step (below + 1) with
  | false, false => none
  | true, false => some below
  | false, true => some (below + 1)
  | true, true =>
      let middle := (2 * below + 1) * interval.pointFactor step
      if 2 * value < middle then some below
      else if middle < 2 * value then some (below + 1)
      else some (below + below % 2)

def digitCount (n : Nat) : Nat :=
  (Nat.toDigits 10 n).length

def places (interval : Interval) : Int :=
  let units := interval.value * interval.unitFactor 0
  let one := interval.pointFactor 0
  let estimate : Int := digitCount units - digitCount one
  if units * tenTo (-estimate).toNat < one * tenTo estimate.toNat then estimate
  else estimate + 1

/-- Seventeen digits always suffice. -/
def shortest (interval : Interval) : Scientific :=
  let places := interval.places
  let found := (List.range' 1 17).findSome? fun count =>
    let step := places - (count : Nat)
    (interval.point? step).map fun point => (⟨point, step⟩ : Scientific)
  found.getD ⟨0, 0⟩

end Interval

def Scientific.strip (number : Scientific) : Scientific :=
  let zeros := ((Nat.toDigits 10 number.digits).reverse.takeWhile (· == '0')).length
  ⟨number.digits / tenTo zeros, number.exponent + zeros⟩

def shortest (bits : Nat) : Scientific :=
  (Interval.ofBits bits).shortest.strip

end Dialogue.Decimal
