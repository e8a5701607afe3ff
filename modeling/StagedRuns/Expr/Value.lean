import StagedRuns.Dictionary
import StagedRuns.Json.Basic
import StagedRuns.Number.Notation

/-!
The values of expressions, their text, and the value of a JSON document. Every number is a
floating-point number of 64 bits, and the entries of a map stand in the order of their keys.
-/

namespace StagedRuns.Expr

/-- A value. The entries of a map are in key order and no key occurs twice. -/
inductive Value where
  | null
  | bool (value : Bool)
  | number (value : Float)
  | text (content : String)
  | list (items : List Value)
  | map (entries : List (String × Value))
deriving Inhabited

inductive Kind where
  | null
  | bool
  | number
  | text
  | list
  | map
deriving DecidableEq, Repr

def Kind.name : Kind → String
  | .null => "null"
  | .bool => "bool"
  | .number => "double"
  | .text => "string"
  | .list => "list"
  | .map => "map"

namespace Value

def kind : Value → Kind
  | .null => .null
  | .bool _ => .bool
  | .number _ => .number
  | .text _ => .text
  | .list _ => .list
  | .map _ => .map

def isTrue : Value → Bool
  | .bool true => true
  | _ => false

mutual

/-- Equality of values: numbers compare as numbers, so one that is not a number equals nothing. -/
def equals : Value → Value → Bool
  | .null, .null => true
  | .bool left, .bool right => left == right
  | .number left, .number right => left == right
  | .text left, .text right => left == right
  | .list left, .list right => listEquals left right
  | .map left, .map right => entriesEqual left right
  | _, _ => false

def listEquals : List Value → List Value → Bool
  | [], [] => true
  | left :: lefts, right :: rights => equals left right && listEquals lefts rights
  | _, _ => false

def entriesEqual : List (String × Value) → List (String × Value) → Bool
  | [], [] => true
  | (leftKey, left) :: lefts, (rightKey, right) :: rights =>
      leftKey == rightKey && equals left right && entriesEqual lefts rights
  | _, _ => false

end

mutual

/-- The text of a value: lists in brackets, maps in braces, texts without quotes. -/
def display : Value → String
  | .null => "null"
  | .bool true => "true"
  | .bool false => "false"
  | .number value => Number.general value
  | .text content => content
  | .list items => "[" ++ ", ".intercalate (displayItems items) ++ "]"
  | .map entries => "\x7b" ++ ", ".intercalate (displayEntries entries) ++ "\x7d"

def displayItems : List Value → List String
  | [] => []
  | item :: rest => display item :: displayItems rest

def displayEntries : List (String × Value) → List String
  | [] => []
  | (key, value) :: rest => (key ++ ": " ++ display value) :: displayEntries rest

end

def powerOfTen (exponent : Nat) : Float :=
  Number.Binary64.nearest (Nat.pow 10 exponent) 1

/-- `value * 10 ^ exponent`, by division for a negative exponent; steps of `10 ^ 308` come first,
at most `fuel` of them. -/
def scaleByTen : (fuel : Nat) → (value : Float) → (exponent : Int) → Float
  | 0, value, _ => value
  | fuel + 1, value, exponent =>
      if exponent.natAbs ≤ 308 then
        if 0 ≤ exponent then value * powerOfTen exponent.natAbs
        else value / powerOfTen exponent.natAbs
      else if value == 0.0 then value
      else if 0 ≤ exponent then value * powerOfTen 308 * powerOfTen 308
      else scaleByTen fuel (value / powerOfTen 308) (exponent + 308)

/-- The digits of a number's whole part taken into a significand of 64 bits, and how many were
left over. -/
def takeWhole : (significand : Nat) → List Char → Nat × Nat
  | significand, [] => (significand, 0)
  | significand, digit :: rest =>
      let next := significand * 10 + (digit.toNat - '0'.toNat)
      if next < Nat.pow 2 64 then takeWhole next rest else (significand, rest.length + 1)

def takeFraction : (significand : Nat) → List Char → Nat × Nat
  | significand, [] => (significand, 0)
  | significand, digit :: rest =>
      let next := significand * 10 + (digit.toNat - '0'.toNat)
      if next < Nat.pow 2 64 then
        let (significand, taken) := takeFraction next rest
        (significand, taken + 1)
      else (significand, 0)

/-- The magnitude of a numeral from as many of its digits as 64 bits hold, scaled by a power of
ten. -/
def scaledMagnitude (numeral : Json.Numeral) : Float :=
  let (whole, leftOver) := takeWhole 0 (Nat.toDigits 10 numeral.whole)
  let (significand, taken) := takeFraction whole numeral.fraction
  let exponent :=
    Int.ofNat leftOver - Int.ofNat taken + numeral.exponent.getD 0
  scaleByTen (exponent.natAbs / 308 + 1) (Float.ofNat significand) exponent

/-- The number that a numeral of a document stands for. A whole number of 64 bits is converted
as it is. -/
def ofNumeral (numeral : Json.Numeral) : Float :=
  let magnitude :=
    if numeral.whole < Nat.pow 2 64 ∧ numeral.fraction = [] ∧ numeral.exponent = none then
      (UInt64.ofNat numeral.whole).toFloat
    else scaledMagnitude numeral
  if numeral.negative then -magnitude else magnitude

mutual

def ofJson : Json → Value
  | .null => .null
  | .bool value => .bool value
  | .number numeral => .number (ofNumeral numeral)
  | .string content => .text content
  | .illegible => .null
  | .array items => .list (ofItems items)
  | .object members => .map (ofMembers members)

def ofItems : List Json → List Value
  | [] => []
  | item :: rest => ofJson item :: ofItems rest

/-- The entries of an object in key order; of the members with one key the last counts. -/
def ofMembers : List (String × Json) → List (String × Value)
  | [] => []
  | (key, member) :: rest =>
      let entries := ofMembers rest
      if entries.any (·.1 = key) then entries
      else insertEntry key (ofJson member) entries

end

def ofTexts (texts : Dictionary String) : Value :=
  .map (texts.toList.map fun (key, content) => (key, .text content))

end Value

end StagedRuns.Expr
