import StagedRuns.Number.Binary64

/-!
Decimals, and the shortest decimal that reads back as a given number. The reals that round to a
number form an interval around it; the first of the grids of 1, 2, … 17 significant digits with a
point in that interval gives the decimal, and of two such points the nearer one.
-/

namespace StagedRuns.Number

structure Decimal where
  digits : Nat
  scale : Int
deriving DecidableEq, Repr

/-- The number nearest to a decimal, a tie to the even significand. Where the scale alone, or the
scale with a bound on the count of digits, puts it out of range, nothing is computed. -/
def Decimal.toFloat (decimal : Decimal) : Float :=
  let places := decimal.scale + Int.ofNat (decimal.digits.log2 * 302 / 1000)
  if decimal.digits = 0 ∨ places < -350 then 0.0
  else if 350 < decimal.scale then Binary64.infinity
  else if 0 ≤ decimal.scale then
    Binary64.nearest (decimal.digits * Nat.pow 10 decimal.scale.toNat) 1
  else Binary64.nearest decimal.digits (Nat.pow 10 (-decimal.scale).toNat)

def Decimal.trimmed : (fuel : Nat) → Decimal → Decimal
  | 0, decimal => decimal
  | fuel + 1, decimal =>
      if decimal.digits ≠ 0 ∧ decimal.digits % 10 = 0 then
        trimmed fuel ⟨decimal.digits / 10, decimal.scale + 1⟩
      else decimal

/-- The reals that round to a positive number, as naturals over a common denominator: the number
itself, the ends of the interval, and whether the ends belong to it. -/
structure Interval where
  value : Nat
  low : Nat
  high : Nat
  denominator : Nat
  closed : Bool

/-- The interval of `significand * 2 ^ exponent`. Below a power of two the next number is only
half as far away as above it, except at the least exponent. -/
def Interval.of (significand : Nat) (exponent : Int) : Interval :=
  let reach := if significand = Nat.pow 2 52 ∧ exponent ≠ -1074 then 1 else 2
  let up := Nat.pow 2 exponent.toNat
  { value := 4 * significand * up
    low := (4 * significand - reach) * up
    high := (4 * significand + 2) * up
    denominator := 4 * Nat.pow 2 (-exponent).toNat
    closed := significand % 2 = 0 }

def Interval.holds (interval : Interval) (point : Nat) : Bool :=
  if interval.closed then interval.low ≤ point && point ≤ interval.high
  else interval.low < point && point < interval.high

def Interval.rescaled (interval : Interval) (scale : Int) : Interval :=
  let up := Nat.pow 10 (-scale).toNat
  { interval with
    value := interval.value * up
    low := interval.low * up
    high := interval.high * up
    denominator := interval.denominator * Nat.pow 10 scale.toNat }

/-- The point of the grid of multiples of `10 ^ scale` to write the number with: of the two
points beside the number the one that reads back, and if both do, the nearer one. -/
def Interval.pointAt? (interval : Interval) (scale : Int) : Option Nat :=
  let grid := interval.rescaled scale
  let below := grid.value / grid.denominator
  let distance := grid.value % grid.denominator
  let lowHolds := grid.holds (below * grid.denominator)
  let highHolds := grid.holds ((below + 1) * grid.denominator)
  if lowHolds && highHolds then
    some (if 2 * distance < grid.denominator then below else below + 1)
  else if lowHolds then some below
  else if highHolds then some (below + 1)
  else none

/-- How many digits stand before the point: the least `places` with
`value < 10 ^ places * denominator`, searched upwards from `start` for `fuel` steps. -/
def Interval.places (interval : Interval) : (fuel : Nat) → (start : Int) → Int
  | 0, start => start
  | fuel + 1, start =>
      let value := interval.value * Nat.pow 10 (-start).toNat
      if value < Nat.pow 10 start.toNat * interval.denominator then start
      else interval.places fuel (start + 1)

def Interval.search (interval : Interval) (places : Int) : (fuel count : Nat) → Decimal
  | 0, _ => ⟨interval.value / interval.denominator, 0⟩
  | fuel + 1, count =>
      match interval.pointAt? (places - Int.ofNat count) with
      | some point => ⟨point, places - Int.ofNat count⟩
      | none => interval.search places fuel (count + 1)

/-- The shortest decimal that reads back as `significand * 2 ^ exponent`, without trailing zeros;
zero for zero. -/
def shortest (significand : Nat) (exponent : Int) : Decimal :=
  if significand = 0 then ⟨0, 0⟩
  else
    let interval := Interval.of significand exponent
    let binaryDigits := Int.ofNat significand.log2 + exponent
    let places := interval.places 8 (binaryDigits * 30103 / 100000 - 2)
    (interval.search places 20 1).trimmed 20

end StagedRuns.Number
