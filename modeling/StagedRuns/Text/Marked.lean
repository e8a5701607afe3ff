import StagedRuns.Text.Utf8

/-!
Bytes read as a text whose encoding they may tell themselves: a byte order mark at the beginning
stands for UTF-8, or for UTF-16 in one of the two orders of bytes. Without a mark the text is in
UTF-8. What spells no character is shown as a replacement character.
-/

namespace StagedRuns.Text

namespace Utf16

/-- The order of the two bytes of a unit. -/
inductive Order where
  | highFirst
  | lowFirst
deriving DecidableEq, Repr

def Order.unit (order : Order) (first second : UInt8) : Nat :=
  match order with
  | .highFirst => 256 * first.toNat + second.toNat
  | .lowFirst => 256 * second.toNat + first.toNat

def units (order : Order) : List UInt8 → List Nat × Bool
  | first :: second :: rest =>
      let (more, left) := units order rest
      (order.unit first second :: more, left)
  | [_] => ([], true)
  | [] => ([], false)

def beginsPair (unit : Nat) : Bool :=
  0xD800 ≤ unit && unit < 0xDC00

def endsPair (unit : Nat) : Bool :=
  0xDC00 ≤ unit && unit < 0xE000

def ofPair (high low : Nat) : Char :=
  Char.ofNat (0x10000 + (high - 0xD800) * 0x400 + (low - 0xDC00))

/-- The characters of units. A byte left over behind half of a pair breaks off the same character
as the pair itself does. -/
def characters (left : Bool) : List Nat → List Char
  | [] => if left then ['\uFFFD'] else []
  | [unit] =>
      if beginsPair unit then ['\uFFFD']
      else
        (if endsPair unit then '\uFFFD' else Char.ofNat unit) ::
          (if left then ['\uFFFD'] else [])
  | unit :: next :: rest =>
      if beginsPair unit then
        if endsPair next then ofPair unit next :: characters left rest
        else '\uFFFD' :: characters left (next :: rest)
      else
        (if endsPair unit then '\uFFFD' else Char.ofNat unit) :: characters left (next :: rest)

def decodeWithReplacement (order : Order) (bytes : List UInt8) : String :=
  let (units, left) := units order bytes
  String.ofList (characters left units)

end Utf16

/-- The text of bytes, in the encoding that a byte order mark tells. -/
def decodeMarked : List UInt8 → String
  | 0xEF :: 0xBB :: 0xBF :: rest => Utf8.decodeWithReplacement rest
  | 0xFF :: 0xFE :: rest => Utf16.decodeWithReplacement .lowFirst rest
  | 0xFE :: 0xFF :: rest => Utf16.decodeWithReplacement .highFirst rest
  | bytes => Utf8.decodeWithReplacement bytes

end StagedRuns.Text
