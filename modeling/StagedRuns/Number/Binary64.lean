/-!
Binary floating-point numbers of 64 bits taken apart: a finite number is a natural significand
times a power of two. Here are that form, the nearest number to a ratio of naturals, and the
remainder of a division, all in exact arithmetic.
-/

namespace StagedRuns.Number

/-- A finite number: `significand * 2 ^ exponent`, or its negative. -/
structure Binary64 where
  negative : Bool
  significand : Nat
  exponent : Int
deriving DecidableEq, Repr

namespace Binary64

def ofFloat? (x : Float) : Option Binary64 :=
  let bits := x.toBits.toNat
  let negative := bits / Nat.pow 2 63 = 1
  let field := bits / Nat.pow 2 52 % Nat.pow 2 11
  let fraction := bits % Nat.pow 2 52
  if field = 2047 then none
  else if field = 0 then some ⟨negative, fraction, -1074⟩
  else some ⟨negative, Nat.pow 2 52 + fraction, Int.ofNat field - 1075⟩

def infinity : Float :=
  Float.ofBits (UInt64.ofNat (2047 * Nat.pow 2 52))

/-- The number with a significand below `2 ^ 54` and an exponent from -1074 on; infinity where
the exponent is out of range. A significand below `2 ^ 52` belongs to exponent -1074 alone. -/
def assemble (significand : Nat) (exponent : Int) : Float :=
  if significand < Nat.pow 2 52 then
    Float.ofBits (UInt64.ofNat significand)
  else
    let field := (exponent + 1075).toNat
    if 2047 ≤ field then
      infinity
    else
      Float.ofBits (UInt64.ofNat (field * Nat.pow 2 52 + (significand - Nat.pow 2 52)))

/-- The quotient of two naturals rounded to the nearest natural, a tie to the even one. -/
def divideToEven (numerator denominator : Nat) : Nat :=
  let quotient := numerator / denominator
  let rest := numerator % denominator
  if 2 * rest < denominator then quotient
  else if denominator < 2 * rest then quotient + 1
  else quotient + quotient % 2

def unscaled (numerator denominator : Nat) (exponent : Int) : Nat × Nat :=
  if 0 ≤ exponent then (numerator, denominator * Nat.pow 2 exponent.toNat)
  else (numerator * Nat.pow 2 (-exponent).toNat, denominator)

/-- The number nearest to a ratio of naturals, a tie to the even significand. -/
def nearest (numerator denominator : Nat) : Float :=
  if numerator = 0 then 0.0
  else
    let guess : Int := Int.ofNat numerator.log2 - Int.ofNat denominator.log2 - 53
    let scaled := unscaled numerator denominator guess
    let exact := if scaled.1 / scaled.2 < Nat.pow 2 53 then guess else guess + 1
    let exponent := max exact (-1074)
    let scaled := unscaled numerator denominator exponent
    assemble (divideToEven scaled.1 scaled.2) exponent

def toFloat (parts : Binary64) : Float :=
  let magnitude :=
    if 0 ≤ parts.exponent then nearest (parts.significand * Nat.pow 2 parts.exponent.toNat) 1
    else nearest parts.significand (Nat.pow 2 (-parts.exponent).toNat)
  if parts.negative then -magnitude else magnitude

end Binary64

/-- What is left of `x` after taking away `y` as often as it fits, with the sign of `x`. No
rounding takes place. A division by zero or of an infinity leaves no number, and a division by
an infinity leaves `x`. -/
def remainder (x y : Float) : Float :=
  match Binary64.ofFloat? x, Binary64.ofFloat? y with
  | some dividend, some divisor =>
      if divisor.significand = 0 then 0.0 / 0.0
      else
        let exponent := min dividend.exponent divisor.exponent
        let above := dividend.significand * Nat.pow 2 (dividend.exponent - exponent).toNat
        let below := divisor.significand * Nat.pow 2 (divisor.exponent - exponent).toNat
        Binary64.toFloat ⟨dividend.negative, above % below, exponent⟩
  | some _, none => if y.isNaN then y else x
  | none, _ => 0.0 / 0.0

end StagedRuns.Number
