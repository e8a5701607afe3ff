import StagedRuns.Json.Basic
import StagedRuns.Text.Utf8

/-!
Reading JSON. The input is a list of letters: the characters of a text, with `none` for bytes
that spell no character. Such bytes, and escapes that are half of a pair, do no harm inside a
string that is skipped; everywhere else they make the input no JSON.
-/

namespace StagedRuns.Json

/-- A character of the input, or a run of bytes that is none. -/
abbrev Letter := Option Char

def lettersOf (bytes : List UInt8) : List Letter :=
  (Text.Utf8.pieces bytes).map fun
    | .char c => some c
    | .malformed _ _ => none

def isGap : Letter → Bool
  | some c => c = ' ' || c = '\n' || c = '\t' || c = '\r'
  | none => false

def skipGap (letters : List Letter) : List Letter :=
  letters.dropWhile isGap

inductive Mark where
  | char (c : Char)
  /-- A half of a pair of escapes that stands for one character. -/
  | half (unit : Nat)
  | broken
deriving DecidableEq

def hexDigit? (letter : Letter) : Option Nat :=
  match letter with
  | none => none
  | some c =>
      if '0' ≤ c ∧ c ≤ '9' then some (c.toNat - '0'.toNat)
      else if 'a' ≤ c ∧ c ≤ 'f' then some (c.toNat - 'a'.toNat + 10)
      else if 'A' ≤ c ∧ c ≤ 'F' then some (c.toNat - 'A'.toNat + 10)
      else none

def hexQuad? (a b c d : Letter) : Option Nat := do
  let a ← hexDigit? a
  let b ← hexDigit? b
  let c ← hexDigit? c
  let d ← hexDigit? d
  return ((a * 16 + b) * 16 + c) * 16 + d

def isHalf (unit : Nat) : Bool :=
  0xD800 ≤ unit && unit ≤ 0xDFFF

def escape? : Char → Option Char
  | '"' => some '"'
  | '\\' => some '\\'
  | '/' => some '/'
  | 'b' => some '\x08'
  | 'f' => some '\x0c'
  | 'n' => some '\n'
  | 'r' => some '\r'
  | 't' => some '\t'
  | _ => none

def readMarks : List Letter → Option (List Mark × List Letter)
  | [] => none
  | none :: rest => do
      let (marks, rest) ← readMarks rest
      return (.broken :: marks, rest)
  | some '"' :: rest => some ([], rest)
  | some '\\' :: some 'u' :: a :: b :: c :: d :: rest => do
      let unit ← hexQuad? a b c d
      let (marks, rest) ← readMarks rest
      return ((if isHalf unit then .half unit else .char (Char.ofNat unit)) :: marks, rest)
  | some '\\' :: some letter :: rest => do
      let c ← escape? letter
      let (marks, rest) ← readMarks rest
      return (.char c :: marks, rest)
  | some '\\' :: _ => none
  | some c :: rest =>
      if c.toNat < 0x20 then none
      else do
        let (marks, rest) ← readMarks rest
        return (.char c :: marks, rest)

/-- The text that marks spell, if every half is the first or the second of a pair. -/
def textOfMarks : List Mark → Option (List Char)
  | [] => some []
  | .char c :: rest => (textOfMarks rest).map (c :: ·)
  | .half high :: .half low :: rest =>
      if high < 0xDC00 ∧ 0xDC00 ≤ low then
        (textOfMarks rest).map
          (Char.ofNat (0x10000 + (high - 0xD800) * 0x400 + (low - 0xDC00)) :: ·)
      else none
  | .half _ :: _ => none
  | .broken :: _ => none

/-- Reads a string after its opening quote: its text, or none if it spells none. -/
def readString (letters : List Letter) : Option (Option String × List Letter) := do
  let (marks, rest) ← readMarks letters
  return ((textOfMarks marks).map String.ofList, rest)

def takeDigits : List Letter → List Char × List Letter
  | some c :: rest =>
      if c.isDigit then
        let (digits, rest) := takeDigits rest
        (c :: digits, rest)
      else ([], some c :: rest)
  | rest => ([], rest)

def naturalOfDigits (digits : List Char) : Nat :=
  digits.foldl (fun value digit => value * 10 + (digit.toNat - '0'.toNat)) 0

def readFraction : List Letter → Option (List Char × List Letter)
  | some '.' :: rest =>
      match takeDigits rest with
      | ([], _) => none
      | (digits, rest) => some (digits, rest)
  | rest => some ([], rest)

def readPower (negative : Bool) (letters : List Letter) : Option (Option Int × List Letter) :=
  match takeDigits letters with
  | ([], _) => none
  | (digits, rest) =>
      let power := Int.ofNat (naturalOfDigits digits)
      some (some (if negative then -power else power), rest)

def readExponent : List Letter → Option (Option Int × List Letter)
  | some c :: rest =>
      if c = 'e' ∨ c = 'E' then
        match rest with
        | some '+' :: rest => readPower false rest
        | some '-' :: rest => readPower true rest
        | rest => readPower false rest
      else some (none, some c :: rest)
  | rest => some (none, rest)

def readNumber (negative : Bool) (letters : List Letter) : Option (Json × List Letter) := do
  let (digits, rest) := takeDigits letters
  let whole ←
    match digits with
    | [] => none
    | ['0'] => some 0
    | '0' :: _ => none
    | digits => some (naturalOfDigits digits)
  let (fraction, rest) ← readFraction rest
  let (exponent, rest) ← readExponent rest
  return (.number ⟨negative, whole, fraction, exponent⟩, rest)

def readWord (value : Json) : List Char → List Letter → Option (Json × List Letter)
  | [], rest => some (value, rest)
  | c :: word, some d :: rest => if c = d then readWord value word rest else none
  | _ :: _, _ => none

/-- The object with the members read; it is illegible if one of its keys is. -/
def objectOf (members : List (Option String × Json)) : Json :=
  match members.mapM fun (key, value) => key.map fun key => (key, value) with
  | some members => .object members
  | none => .illegible

mutual

/-- Reads a value. `fuel` bounds the number of values and is more than enough if it is the number
of letters. -/
def readValue : (fuel : Nat) → List Letter → Option (Json × List Letter)
  | 0, _ => none
  | fuel + 1, letters =>
      match skipGap letters with
      | some '{' :: rest =>
          match skipGap rest with
          | some '}' :: rest => some (.object [], rest)
          | rest => do
              let (members, rest) ← readMembers fuel rest
              return (objectOf members, rest)
      | some '[' :: rest =>
          match skipGap rest with
          | some ']' :: rest => some (.array [], rest)
          | rest => do
              let (items, rest) ← readItems fuel rest
              return (.array items, rest)
      | some '"' :: rest => do
          let (text, rest) ← readString rest
          return (match text with | some text => .string text | none => .illegible, rest)
      | some 'n' :: rest => readWord .null ['u', 'l', 'l'] rest
      | some 't' :: rest => readWord (.bool true) ['r', 'u', 'e'] rest
      | some 'f' :: rest => readWord (.bool false) ['a', 'l', 's', 'e'] rest
      | some '-' :: rest => readNumber true rest
      | rest => readNumber false rest

def readItems : (fuel : Nat) → List Letter → Option (List Json × List Letter)
  | 0, _ => none
  | fuel + 1, letters => do
      let (item, rest) ← readValue fuel letters
      match skipGap rest with
      | some ',' :: rest => do
          let (items, rest) ← readItems fuel rest
          return (item :: items, rest)
      | some ']' :: rest => return ([item], rest)
      | _ => none

def readMembers : (fuel : Nat) → List Letter →
    Option (List (Option String × Json) × List Letter)
  | 0, _ => none
  | fuel + 1, letters =>
      match skipGap letters with
      | some '"' :: rest => do
          let (key, rest) ← readString rest
          match skipGap rest with
          | some ':' :: rest => do
              let (value, rest) ← readValue fuel rest
              match skipGap rest with
              | some ',' :: rest => do
                  let (members, rest) ← readMembers fuel rest
                  return ((key, value) :: members, rest)
              | some '}' :: rest => return ([(key, value)], rest)
              | _ => none
          | _ => none
      | _ => none

end

def readLetters (letters : List Letter) : Option Json := do
  let (value, rest) ← readValue (2 * letters.length + 2) letters
  match skipGap rest with
  | [] => some value
  | _ :: _ => none

/-- Reads bytes that hold one value and nothing else. -/
def read (bytes : List UInt8) : Option Json :=
  readLetters (lettersOf bytes)

end StagedRuns.Json
