import StagedRuns.Number.Decimal
import StagedRuns.Yaml.Value

/-!
What a plain scalar stands for: null, a truth value, a number, or else its own text. An integer is
written in decimal, or in hexadecimal, octal or binary behind `0x`, `0o` or `0b`. Digits behind a
leading zero are no number.
-/

namespace StagedRuns.Yaml.Plain

open StagedRuns.Number (Decimal)

def isNull (content : String) : Bool :=
  ["null", "Null", "NULL", "~"].contains content

def bool? (content : String) : Option Bool :=
  if ["true", "True", "TRUE"].contains content then some true
  else if ["false", "False", "FALSE"].contains content then some false
  else none

def digitValue? (c : Char) : Option Nat :=
  if c.isDigit then some (c.toNat - '0'.toNat)
  else if 'a' ≤ c ∧ c ≤ 'f' then some (c.toNat - 'a'.toNat + 10)
  else if 'A' ≤ c ∧ c ≤ 'F' then some (c.toNat - 'A'.toNat + 10)
  else none

def natural? (base : Nat) (digits : List Char) : Option Nat :=
  if digits.isEmpty then none
  else
    digits.foldlM (fun value c =>
      match digitValue? c with
      | some digit => if digit < base then some (value * base + digit) else none
      | none => none) 0

def unsigned : List Char → List Char
  | '+' :: rest => rest
  | '-' :: rest => rest
  | all => all

/-- Whether a text is made of digits, a sign apart, and begins with a zero that is not all of
it. -/
def hasLeadingZero (content : List Char) : Bool :=
  match unsigned content with
  | '0' :: rest => !rest.isEmpty && rest.all Char.isDigit
  | _ => false

def unsignedInteger? (bound : Nat) (content : List Char) : Option Nat :=
  let inBase (base : Nat) (digits : List Char) := (natural? base digits).filter (· < bound)
  match content with
  | '0' :: 'x' :: digits => inBase 16 digits
  | '0' :: 'o' :: digits => inBase 8 digits
  | '0' :: 'b' :: digits => inBase 2 digits
  | digits => if hasLeadingZero digits then none else inBase 10 digits

/-- The integer from `-bound` to below `2 * bound` that a text spells. -/
def integer? (bound : Nat) (content : List Char) : Option Int :=
  match content with
  | '-' :: digits => (unsignedInteger? (bound + 1) digits).map fun value => -Int.ofNat value
  | '+' :: digits => (unsignedInteger? (2 * bound) digits).map Int.ofNat
  | digits => (unsignedInteger? (2 * bound) digits).map Int.ofNat

/-- The exponent that a text of the form `e5`, `e+5` or `e-5` spells; zero for the empty text. -/
def exponent? : List Char → Option Int
  | [] => some 0
  | mark :: rest =>
      if mark ≠ 'e' ∧ mark ≠ 'E' then none
      else
        match rest with
        | '+' :: digits => (natural? 10 digits).map Int.ofNat
        | '-' :: digits => (natural? 10 digits).map fun value => -Int.ofNat value
        | digits => (natural? 10 digits).map Int.ofNat

def decimal? (content : List Char) : Option Decimal := do
  let whole := content.takeWhile Char.isDigit
  let rest := content.dropWhile Char.isDigit
  let fraction :=
    match rest with
    | '.' :: rest => rest.takeWhile Char.isDigit
    | _ => []
  let rest :=
    match rest with
    | '.' :: rest => rest.dropWhile Char.isDigit
    | rest => rest
  let digits ← natural? 10 (whole ++ fraction)
  let exponent ← exponent? rest
  some ⟨digits, exponent - Int.ofNat fraction.length⟩

def finite? (content : List Char) : Option Float := do
  let value := (← decimal? content).toFloat
  if value.isFinite then some value else none

def binary? (content : String) : Option Float :=
  if [".inf", ".Inf", ".INF", "+.inf", "+.Inf", "+.INF"].contains content then
    some Number.Binary64.infinity
  else if ["-.inf", "-.Inf", "-.INF"].contains content then some (-Number.Binary64.infinity)
  else if [".nan", ".NaN", ".NAN"].contains content then some (0.0 / 0.0)
  else
    match content.toList with
    | '-' :: rest => (finite? rest).map (- ·)
    | '+' :: rest => finite? rest
    | rest => finite? rest

def integerBound : Nat := Nat.pow 2 63

/-- Integers up to this bound are recognised, but only those of 64 bits can be used. -/
def wideBound : Nat := Nat.pow 2 127

def usableInteger? (content : String) : Except Problem (Option Int) :=
  match integer? integerBound content.toList with
  | some value => .ok (some value)
  | none =>
      if (integer? wideBound content.toList).isSome then problem "an integer is too large"
      else .ok none

def value (content : String) : Except Problem Value := do
  if content = "" ∨ isNull content then .ok .null
  else
    match bool? content with
    | some value => .ok (.bool value)
    | none =>
        match ← usableInteger? content with
        | some value => .ok (.number (.integer value))
        | none =>
            match if hasLeadingZero content.toList then none else binary? content with
            | some value => .ok (.number (.binary value))
            | none => .ok (.string content)

end StagedRuns.Yaml.Plain
