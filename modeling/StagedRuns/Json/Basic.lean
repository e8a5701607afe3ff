/-!
JSON values. Members of an object keep their order and may repeat a key; a number keeps the
parts of its notation, so a whole number is told from one written with a fraction or an exponent.
-/

namespace StagedRuns

/-- A number as it is written. The digits of the fraction are empty where there is none. -/
structure Json.Numeral where
  negative : Bool
  whole : Nat
  fraction : List Char
  exponent : Option Int
deriving DecidableEq, Repr

inductive Json where
  | null
  | bool (value : Bool)
  | number (value : Json.Numeral)
  | string (value : String)
  /-- A string, or an object with a key, that is closed as it should be but spells no text: its
  bytes or its escapes are malformed. It can be skipped but not used. -/
  | illegible
  | array (items : List Json)
  | object (members : List (String × Json))
deriving Inhabited

namespace Json

def natural (value : Nat) : Json :=
  .number ⟨false, value, [], none⟩

/-- A number below the bound of unsigned 64-bit integers, written without sign, fraction and
exponent. -/
def asNatural? : Json → Option Nat
  | .number ⟨false, whole, [], none⟩ => if whole < Nat.pow 2 64 then some whole else none
  | _ => none

def asString? : Json → Option String
  | .string text => some text
  | _ => none

def asBool? : Json → Option Bool
  | .bool value => some value
  | _ => none

def asArray? : Json → Option (List Json)
  | .array items => some items
  | _ => none

def member? (key : String) : Json → Option Json
  | .object members => members.lookup key
  | _ => none

def strings (texts : List String) : Json :=
  .array (texts.map .string)

def optionalString : Option String → Json
  | some text => .string text
  | none => .null

end Json

end StagedRuns
