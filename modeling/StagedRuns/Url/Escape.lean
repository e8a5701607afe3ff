import StagedRuns.Text.Utf8

/-!
Percent-encoding: a character outside a class is written by its octets, each as a percent sign and
two hexadecimal digits.
-/

namespace StagedRuns.Url.Escape

def hexDigit (n : Nat) : Char :=
  if n < 10 then Char.ofNat ('0'.toNat + n) else Char.ofNat ('A'.toNat + n - 10)

def hexValue? (c : Char) : Option Nat :=
  if c.isDigit then some (c.toNat - '0'.toNat)
  else if 'a' ≤ c ∧ c ≤ 'f' then some (c.toNat - 'a'.toNat + 10)
  else if 'A' ≤ c ∧ c ≤ 'F' then some (c.toNat - 'A'.toNat + 10)
  else none

def octet (byte : UInt8) : List Char :=
  ['%', hexDigit (byte.toNat / 16), hexDigit (byte.toNat % 16)]

def char (c : Char) : List Char :=
  (Text.Utf8.encode (String.singleton c)).flatMap octet

/-- A text in which the characters outside a class are percent-encoded. -/
def encode (keeps : Char → Bool) (text : List Char) : List Char :=
  text.flatMap fun c => if keeps c then [c] else char c

def octet? (mark high low : UInt8) : Option UInt8 := do
  let high ← hexValue? (Char.ofNat high.toNat)
  let low ← hexValue? (Char.ofNat low.toNat)
  if mark = 0x25 then some (UInt8.ofNat (16 * high + low)) else none

/-- The octets of a percent-encoded text. A percent sign without two digits stands for itself. -/
def decode : List UInt8 → List UInt8
  | mark :: high :: low :: rest =>
      match octet? mark high low with
      | some byte => byte :: decode rest
      | none => mark :: decode (high :: low :: rest)
  | short => short

def isPlain (c : Char) : Bool :=
  0x20 ≤ c.toNat && c.toNat < 0x7F

def keptInPath (c : Char) : Bool :=
  isPlain c && !" \"<>\x60#?\x7b\x7d".toList.contains c

/-- Whether a character stands unchanged in a query. A quote is encoded where the scheme is
special. -/
def keptInQuery (special : Bool) (c : Char) : Bool :=
  isPlain c && !" \"#<>".toList.contains c && !(special && c = '\'')

def keptInFragment (c : Char) : Bool :=
  isPlain c && !" \"<>\x60".toList.contains c

def keptInUser (c : Char) : Bool :=
  keptInPath c && !"/:;=@[\\]^|".toList.contains c

/-- A value as it is written in a form: a space becomes a plus sign. -/
def form (text : String) : String :=
  let kept (c : Char) : Bool := c.isAlphanum || "*-._".toList.contains c
  String.ofList (text.toList.flatMap fun c =>
    if c = ' ' then ['+'] else if kept c then [c] else char c)

end StagedRuns.Url.Escape
