import StagedRuns.Number.Decimal

/-!
Two ways to write a number in decimal. Both use the fewest digits that read back. Positional
notation shows every place; general notation turns to a power of ten for the very large and the
very small.
-/

namespace StagedRuns.Number

def Decimal.positional (decimal : Decimal) : List Char :=
  let digits := Nat.toDigits 10 decimal.digits
  if 0 ≤ decimal.scale then
    digits ++ List.replicate decimal.scale.toNat '0'
  else
    let behind := (-decimal.scale).toNat
    let padded := List.replicate (behind + 1 - digits.length) '0' ++ digits
    padded.take (padded.length - behind) ++ '.' :: padded.drop (padded.length - behind)

def Decimal.leading (decimal : Decimal) : Int :=
  decimal.scale + Int.ofNat (Nat.toDigits 10 decimal.digits).length - 1

def Decimal.scientific (decimal : Decimal) : List Char :=
  let exponent := decimal.leading
  let power := Nat.toDigits 10 exponent.natAbs
  let mantissa :=
    match Nat.toDigits 10 decimal.digits with
    | [] => []
    | [digit] => [digit]
    | digit :: more => digit :: '.' :: more
  mantissa ++ 'e' :: (if exponent < 0 then '-' else '+') ::
    List.replicate (2 - power.length) '0' ++ power

structure Style where
  notNumber : String
  infinity : String
  negativeInfinity : String
  signedZero : Bool
  /-- The exponents of the leading digit that are written by place, from the first to below the
  second; all if none. -/
  byPlace : Option (Int × Int)

def positionalStyle : Style :=
  { notNumber := "NaN", infinity := "inf", negativeInfinity := "-inf", signedZero := true
    byPlace := none }

/-- Exponents from -4 to 5 are written by place, and zero has no sign. -/
def generalStyle : Style :=
  { notNumber := "NaN", infinity := "+Inf", negativeInfinity := "-Inf", signedZero := false
    byPlace := some (-4, 6) }

def Style.showsPlaces (style : Style) (decimal : Decimal) : Bool :=
  match style.byPlace with
  | none => true
  | some (first, bound) => first ≤ decimal.leading && decimal.leading < bound

def Style.render (style : Style) (x : Float) : String :=
  match Binary64.ofFloat? x with
  | none =>
      if x.isNaN then style.notNumber
      else if x < 0.0 then style.negativeInfinity
      else style.infinity
  | some parts =>
      let decimal := shortest parts.significand parts.exponent
      let body := if style.showsPlaces decimal then decimal.positional else decimal.scientific
      if parts.negative && (style.signedZero || parts.significand != 0) then
        String.ofList ('-' :: body)
      else
        String.ofList body

def positional (x : Float) : String :=
  positionalStyle.render x

def general (x : Float) : String :=
  generalStyle.render x

end StagedRuns.Number
