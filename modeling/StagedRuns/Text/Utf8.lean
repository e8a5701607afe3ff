/-!
Bytes read as UTF-8. A byte sequence is cut into characters and malformed runs, a malformed run
being the longest beginning of some character that its bytes spell. Strict reading, reading with
replacement characters and the fault of a malformed text are all functions of that cut.
-/

namespace StagedRuns.Text.Utf8

/-- A part of a byte sequence: a character, or a run of bytes that spells none. -/
inductive Piece where
  | char (c : Char)
  /-- `length` bytes that begin a character, if any, which is broken off by the byte after them
  or, if `atEnd`, by the end of the sequence. -/
  | malformed (length : Nat) (atEnd : Bool)
deriving DecidableEq, Repr

def Piece.size : Piece → Nat
  | .char c => c.utf8Size
  | .malformed length _ => length

/-- What a leading byte announces: the continuation bytes after it, the bits of the character
that it holds itself, and the range of the first continuation byte. -/
structure Lead where
  tails : Nat
  bits : Nat
  low : UInt8
  high : UInt8
deriving DecidableEq, Repr

def Lead.of? (byte : UInt8) : Option Lead :=
  if byte < 0xC2 then none
  else if byte ≤ 0xDF then some ⟨1, byte.toNat - 0xC0, 0x80, 0xBF⟩
  else if byte = 0xE0 then some ⟨2, 0, 0xA0, 0xBF⟩
  else if byte = 0xED then some ⟨2, 0xD, 0x80, 0x9F⟩
  else if byte ≤ 0xEF then some ⟨2, byte.toNat - 0xE0, 0x80, 0xBF⟩
  else if byte = 0xF0 then some ⟨3, 0, 0x90, 0xBF⟩
  else if byte = 0xF4 then some ⟨3, 4, 0x80, 0x8F⟩
  else if byte < 0xF4 then some ⟨3, byte.toNat - 0xF0, 0x80, 0xBF⟩
  else none

/-- Reads the continuation bytes of a character of which `used` bytes have given `bits`. -/
def continuation : (tails bits used : Nat) → List UInt8 → Piece × List UInt8
  | 0, bits, _, rest => (.char (Char.ofNat bits), rest)
  | _ + 1, _, used, [] => (.malformed used true, [])
  | tails + 1, bits, used, byte :: rest =>
      if 0x80 ≤ byte ∧ byte ≤ 0xBF then
        continuation tails (bits * 64 + (byte.toNat - 0x80)) (used + 1) rest
      else
        (.malformed used false, byte :: rest)

def first (byte : UInt8) (rest : List UInt8) : Piece × List UInt8 :=
  if byte < 0x80 then
    (.char (Char.ofNat byte.toNat), rest)
  else
    match Lead.of? byte, rest with
    | none, _ => (.malformed 1 false, rest)
    | some _, [] => (.malformed 1 true, [])
    | some lead, next :: _ =>
        if next < lead.low ∨ lead.high < next then
          (.malformed 1 false, rest)
        else
          continuation lead.tails lead.bits 1 rest

theorem continuation_length (tails bits used : Nat) (bytes : List UInt8) :
    (continuation tails bits used bytes).2.length ≤ bytes.length := by
  fun_induction continuation tails bits used bytes with
  | case1 => exact Nat.le_refl _
  | case2 => exact Nat.le_refl _
  | case3 _ _ _ _ _ _ shorter => exact Nat.le_succ_of_le shorter
  | case4 => exact Nat.le_refl _

theorem first_length (byte : UInt8) (rest : List UInt8) :
    (first byte rest).2.length ≤ rest.length := by
  unfold first
  split
  · exact Nat.le_refl _
  · split
    · exact Nat.le_refl _
    · exact Nat.le_refl _
    · split
      · exact Nat.le_refl _
      · exact continuation_length _ _ _ _

def pieces (bytes : List UInt8) : List Piece :=
  match bytes with
  | [] => []
  | byte :: rest => (first byte rest).1 :: pieces (first byte rest).2
termination_by bytes.length
decreasing_by exact Nat.lt_succ_of_le (first_length byte rest)

inductive Fault where
  /-- `length` bytes at `index` that no character begins with. -/
  | invalid (length index : Nat)
  /-- A character that begins at `index` and that the sequence ends within. -/
  | incomplete (index : Nat)
deriving DecidableEq, Repr

def Fault.message : Fault → String
  | .invalid length index => s!"invalid utf-8 sequence of {length} bytes from index {index}"
  | .incomplete index => s!"incomplete utf-8 byte sequence from index {index}"

def characters (index : Nat) : List Piece → Except Fault (List Char)
  | [] => .ok []
  | .char c :: rest => do
      let more ← characters (index + c.utf8Size) rest
      return c :: more
  | .malformed _ true :: _ => .error (.incomplete index)
  | .malformed length false :: _ => .error (.invalid length index)

def decode (bytes : List UInt8) : Except Fault String := do
  let text ← characters 0 (pieces bytes)
  return String.ofList text

/-- The text of bytes in which every malformed run is shown as one replacement character. -/
def decodeWithReplacement (bytes : List UInt8) : String :=
  String.ofList <| (pieces bytes).map fun
    | .char c => c
    | .malformed _ _ => '\uFFFD'

def encode (text : String) : List UInt8 :=
  text.toUTF8.data.toList

end StagedRuns.Text.Utf8
