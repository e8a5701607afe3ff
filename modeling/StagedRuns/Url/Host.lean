import StagedRuns.Url.Domain.Basic
import StagedRuns.Url.Escape

/-!
The hosts of URLs: domains, addresses of both versions, and hosts of schemes of one's own, about
which nothing is known. A domain whose last label is a number has to be an address.
-/

namespace StagedRuns.Url

inductive Host where
  | empty
  | domain (name : String)
  | ipv4 (address : Nat)
  | ipv6 (groups : List Nat)
deriving DecidableEq, Repr

namespace Host

def isForbidden (c : Char) : Bool :=
  "\x00\t\n\r #/:<>?@[\\]^|".toList.contains c

def isForbiddenInDomain (c : Char) : Bool :=
  isForbidden c || c = '%' || c.toNat < 0x20 || c.toNat = 0x7F

/-! ### Addresses of version 4 -/

/-- The digits of a text, and their base: hexadecimal behind `0x`, octal behind `0`. -/
def numberParts : List Char → Nat × List Char
  | '0' :: 'x' :: digits => (16, digits)
  | '0' :: 'X' :: digits => (16, digits)
  | '0' :: c :: digits => (8, c :: digits)
  | digits => (10, digits)

def number? (text : List Char) : Option Nat :=
  let (base, digits) := numberParts text
  if text.isEmpty then none
  else
    digits.foldlM (fun value c =>
      match Escape.hexValue? c with
      | some digit => if digit < base then some (value * base + digit) else none
      | none => none) 0

/-- The parts of a text between dots, of which an empty last one does not count. -/
def labels (text : List Char) : List (List Char) :=
  let parts := text.splitOn '.'
  if parts.getLast? = some [] then parts.dropLast else parts

def endsInNumber (text : List Char) : Bool :=
  match (labels text).getLast? with
  | some last => (!last.isEmpty && last.all Char.isDigit) || (number? last).isSome
  | none => false

/-- The address that a text spells. The last number stands for all bytes that are left. -/
def ipv4? (text : List Char) : Option Nat := do
  let numbers ← (labels text).mapM number?
  let last ← numbers.getLast?
  let others := numbers.dropLast
  let bound := Nat.pow 256 (4 - others.length)
  if 4 < numbers.length || others.any (255 < ·) || bound ≤ last then none
  else
    let high := others.zipIdx.map fun (byte, place) => byte * Nat.pow 256 (3 - place)
    some (high.foldr (· + ·) last)

def ipv4Text (address : Nat) : String :=
  ".".intercalate ([3, 2, 1, 0].map fun place => toString (address / Nat.pow 256 place % 256))

/-! ### Addresses of version 6 -/

def group? (digits : List Char) : Option Nat :=
  if digits.isEmpty ∨ 4 < digits.length then none
  else
    digits.foldlM (fun value c => (Escape.hexValue? c).map (value * 16 + ·)) 0

def embedded? (text : List Char) : Option (List Nat) := do
  let parts := text.splitOn '.'
  let bytes ← parts.mapM fun part =>
    if part.all Char.isDigit && (part.length = 1 || part.head? ≠ some '0') then
      (number? part).filter (· ≤ 255)
    else none
  match bytes with
  | [a, b, c, d] => some [256 * a + b, 256 * c + d]
  | _ => none

def groups? (text : List Char) : Option (List Nat) :=
  if text.isEmpty then some []
  else do
    let parts := text.splitOn ':'
    let last ← parts.getLast?
    let front ← parts.dropLast.mapM group?
    if last.contains '.' then
      let embedded ← embedded? last
      some (front ++ embedded)
    else
      let group ← group? last
      some (front ++ [group])

def splitAtGap : List Char → Option (List Char × List Char)
  | ':' :: ':' :: rest => some ([], rest)
  | c :: rest => (splitAtGap rest).map fun (before, after) => (c :: before, after)
  | [] => none

/-- The address that a text spells. A double colon stands for at least one group of zeros. -/
def ipv6? (text : List Char) : Option (List Nat) :=
  match splitAtGap text with
  | none => (groups? text).filter (·.length = 8)
  | some (before, after) => do
      let front ← groups? before
      let back ← groups? after
      if before.contains '.' || 7 < front.length + back.length then none
      else some (front ++ List.replicate (8 - front.length - back.length) 0 ++ back)

def hexText (n : Nat) : String :=
  String.ofList (Nat.toDigits 16 n)

def zeros (groups : List Nat) : Nat :=
  (groups.takeWhile (· = 0)).length

/-- The text of an address of version 6, in which the first longest run of several zeros is a
double colon. -/
def ipv6Text (groups : List Nat) : String :=
  let runs := (List.range groups.length).map fun start => zeros (groups.drop start)
  let longest := runs.foldl max 0
  let start := runs.findIdx (· = longest)
  let text (part : List Nat) : String := ":".intercalate (part.map hexText)
  if longest < 2 then text groups
  else text (groups.take start) ++ "::" ++ text (groups.drop (start + longest))

/-! ### Reading and writing -/

def bracketed? (text : List Char) : Option Host :=
  if text.getLast? = some ']' then (ipv6? text.tail.dropLast).map ipv6 else none

/-- Reads the host of a special scheme, which may be percent-encoded. -/
def special? (text : List Char) : Option Host :=
  if text.head? = some '[' then bracketed? text
  else do
    let bytes := Escape.decode (Text.Utf8.encode (String.ofList text))
    let decoded ← (Text.Utf8.decode bytes).toOption
    let name ← Domain.toAscii? decoded.toList
    if name.isEmpty || name.any isForbiddenInDomain then none
    else if endsInNumber name then (ipv4? name).map ipv4
    else some (domain (String.ofList name))

def own? (text : List Char) : Option Host :=
  if text.head? = some '[' then bracketed? text
  else if text.isEmpty then some empty
  else if text.any isForbidden then none
  else some (domain (String.ofList (Escape.encode Escape.isPlain text)))

def text : Host → String
  | .empty => ""
  | .domain name => name
  | .ipv4 address => ipv4Text address
  | .ipv6 groups => "[" ++ ipv6Text groups ++ "]"

end Host

end StagedRuns.Url
