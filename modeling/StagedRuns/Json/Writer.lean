import StagedRuns.Json.Basic
import StagedRuns.Text.Utf8

/-!
Writing JSON without any space. Inside a string a quote, a backslash and the controls are
escaped, the controls by a letter where there is one; every other character stands for itself.
Each function writes in front of the characters that follow.
-/

namespace StagedRuns.Json

def escaped (c : Char) : List Char :=
  match c with
  | '"' => ['\\', '"']
  | '\\' => ['\\', '\\']
  | '\x08' => ['\\', 'b']
  | '\x0c' => ['\\', 'f']
  | '\n' => ['\\', 'n']
  | '\r' => ['\\', 'r']
  | '\t' => ['\\', 't']
  | c =>
      if c.toNat < 0x20 then
        ['\\', 'u', '0', '0', Nat.digitChar (c.toNat / 16), Nat.digitChar (c.toNat % 16)]
      else [c]

def writeText (text after : List Char) : List Char :=
  text.foldr (fun c written => escaped c ++ written) after

def writeString (text : String) (after : List Char) : List Char :=
  '"' :: writeText text.toList ('"' :: after)

def writeNumeral (numeral : Numeral) (after : List Char) : List Char :=
  let exponent :=
    match numeral.exponent with
    | none => after
    | some power =>
        'e' :: ((if power < 0 then ['-'] else []) ++ Nat.toDigits 10 power.natAbs ++ after)
  let fraction :=
    match numeral.fraction with
    | [] => exponent
    | digits => '.' :: (digits ++ exponent)
  (if numeral.negative then ['-'] else []) ++ Nat.toDigits 10 numeral.whole ++ fraction

mutual

/-- Writes a value. What cannot be used is written as null. -/
def write : Json → List Char → List Char
  | .null, after => 'n' :: 'u' :: 'l' :: 'l' :: after
  | .bool true, after => 't' :: 'r' :: 'u' :: 'e' :: after
  | .bool false, after => 'f' :: 'a' :: 'l' :: 's' :: 'e' :: after
  | .number numeral, after => writeNumeral numeral after
  | .string text, after => writeString text after
  | .illegible, after => 'n' :: 'u' :: 'l' :: 'l' :: after
  | .array [], after => '[' :: ']' :: after
  | .array (item :: items), after => '[' :: write item (writeItems items (']' :: after))
  | .object [], after => '{' :: '}' :: after
  | .object ((key, value) :: members), after =>
      '{' :: writeString key (':' :: write value (writeMembers members ('}' :: after)))

def writeItems : List Json → List Char → List Char
  | [], after => after
  | item :: items, after => ',' :: write item (writeItems items after)

def writeMembers : List (String × Json) → List Char → List Char
  | [], after => after
  | (key, value) :: members, after =>
      ',' :: writeString key (':' :: write value (writeMembers members after))

end

def render (value : Json) : String :=
  String.ofList (write value [])

def bytes (value : Json) : List UInt8 :=
  Text.Utf8.encode (render value)

end StagedRuns.Json
