/-!
Punycode: a text spelled with ASCII alone. Its ASCII characters come first. Behind a hyphen come
the others as they are put in among them, in the order of their code points and then of their
places: each is a number, which counts the places that are passed over, place by place and code
point by code point, since the one before.
-/

namespace StagedRuns.Url.Punycode

/-! ### Numbers -/

def digit (n : Nat) : Char :=
  if n < 26 then Char.ofNat ('a'.toNat + n) else Char.ofNat ('0'.toNat + (n - 26))

def value? (c : Char) : Option Nat :=
  if c.isLower then some (c.toNat - 'a'.toNat)
  else if c.isUpper then some (c.toNat - 'A'.toNat)
  else if c.isDigit then some (c.toNat - '0'.toNat + 26)
  else none

/-- The value from which on a digit is not the last one of its number. It rises from digit to digit,
from the bias on. -/
def threshold (bias position : Nat) : Nat :=
  min 26 (max 1 (36 * position - bias))

theorem one_le_threshold (bias position : Nat) : 1 ≤ threshold bias position := by
  unfold threshold
  omega

/-- The digits of a number, from the given position on and lowest first. -/
def digits (bias position number : Nat) : List Char :=
  let least := threshold bias position
  if number < least then [digit number]
  else
    digit (least + (number - least) % (36 - least)) ::
      digits bias (position + 1) ((number - least) / (36 - least))
termination_by number
decreasing_by
  have positive := one_le_threshold bias position
  have bounded := Nat.div_le_self (number - threshold bias position)
    (36 - threshold bias position)
  omega

/-- The bias that fits a number, once it is scaled down to at most 455. -/
def biasFor (number : Nat) : Nat :=
  if 455 < number then 36 + biasFor (number / 35) else 36 * number / (number + 38)
termination_by number
decreasing_by exact Nat.div_lt_self (by omega) (by omega)

/-! ### Places -/

structure Progress where
  count : Nat
  /-- The least code point that may come next. -/
  code : Nat
  /-- The first place where it may come. -/
  index : Nat
  bias : Nat
deriving DecidableEq, Repr

namespace Progress

def initial (count : Nat) : Progress :=
  { count, code := 0x80, index := 0, bias := 72 }

def distance (progress : Progress) (code index : Nat) : Nat :=
  (code - progress.code) * (progress.count + 1) + index - progress.index

def destination (progress : Progress) (number : Nat) : Nat × Nat :=
  let total := progress.index + number
  (progress.code + total / (progress.count + 1), total % (progress.count + 1))

/-- A text with one more character. The first number is often a long way, so it counts for less. -/
def advance (progress : Progress) (code index number : Nat) : Progress :=
  let scaled := number / if progress.code = 0x80 && progress.index = 0 then 700 else 2
  { count := progress.count + 1, code, index := index + 1
    bias := biasFor (scaled + scaled / (progress.count + 1)) }

end Progress

/-! ### Writing -/

def isAscii (c : Char) : Bool :=
  c.toNat < 0x80

/-- The characters beyond ASCII in the order in which they are put in, each with the number of
characters that are in place before it by then. -/
def insertions (text : List Char) : List (Char × Nat) :=
  let others := text.zipIdx.filter fun (c, _) => !isAscii c
  (others.mergeSort fun first second => first.1 ≤ second.1).map fun (c, place) =>
    (c, ((text.take place).filter (· ≤ c)).length)

def numbers : Progress → List (Char × Nat) → List Char
  | _, [] => []
  | progress, (c, index) :: rest =>
      let number := progress.distance c.toNat index
      digits progress.bias 1 number ++
        numbers (progress.advance c.toNat index number) rest

def encode (text : List Char) : List Char :=
  let plain := text.filter isAscii
  (if plain.isEmpty then [] else plain ++ ['-']) ++
    numbers (.initial plain.length) (insertions text)

/-! ### Reading -/

structure Reading where
  text : List Char
  progress : Progress
  position : Nat
  /-- What it counts for. -/
  weight : Nat
  number : Nat

namespace Reading

def initial (text : List Char) : Reading :=
  { text, progress := .initial text.length, position := 1, weight := 1, number := 0 }

def insert? (reading : Reading) (number : Nat) : Option Reading :=
  let (code, index) := reading.progress.destination number
  if code.isValidChar then
    some
      { text := reading.text.take index ++ Char.ofNat code :: reading.text.drop index
        progress := reading.progress.advance code index number
        position := 1, weight := 1, number := 0 }
  else none

def step? (reading : Reading) (c : Char) : Option Reading := do
  let value ← value? c
  let number := reading.number + value * reading.weight
  let least := threshold reading.progress.bias reading.position
  if value < least then reading.insert? number
  else
    some
      { reading with
        position := reading.position + 1, weight := reading.weight * (36 - least), number }

end Reading

def split (spelling : List Char) : List Char × List Char :=
  let digits := (spelling.reverse.takeWhile (· ≠ '-')).reverse
  let plain := spelling.take (spelling.length - digits.length - 1)
  if plain.isEmpty then ([], spelling) else (plain, digits)

def decode? (spelling : List Char) : Option (List Char) := do
  let (plain, digits) := split spelling
  let reading ← digits.foldlM Reading.step? (.initial plain)
  if plain.all isAscii && reading.position = 1 then some reading.text else none

end StagedRuns.Url.Punycode
