/-!
A place in a YAML text, and the classes of characters that matter there. A line ends with a line
feed, a carriage return or both, or with one of three line ends beyond ASCII.
-/

namespace StagedRuns.Yaml

def isBreak (c : Char) : Bool :=
  c = '\n' || c = '\r' || c = '\x85' || c = '\u2028' || c = '\u2029'

def isSpace (c : Char) : Bool :=
  c = ' ' || c = '\t'

/-- Whether a character may stand in an anchor, a directive or the handle of a tag. -/
def isWordChar (c : Char) : Bool :=
  c.isAlphanum || c = '_' || c = '-'

def isAllowed (c : Char) : Bool :=
  let code := c.toNat
  code = 0x9 || code = 0xA || code = 0xD || (0x20 ≤ code && code ≤ 0x7E) || code = 0x85 ||
    (0xA0 ≤ code && code ≤ 0xD7FF) || (0xE000 ≤ code && code ≤ 0xFFFD) || 0x10000 ≤ code

def hexValue? (c : Char) : Option Nat :=
  if '0' ≤ c ∧ c ≤ '9' then some (c.toNat - '0'.toNat)
  else if 'a' ≤ c ∧ c ≤ 'f' then some (c.toNat - 'a'.toNat + 10)
  else if 'A' ≤ c ∧ c ≤ 'F' then some (c.toNat - 'A'.toNat + 10)
  else none

/-- A place in a text: the characters from there on, how many came before them, and how many of
those on the same line. -/
structure Cursor where
  rest : List Char
  index : Nat
  line : Nat
  column : Nat

namespace Cursor

def start (text : List Char) : Cursor :=
  ⟨text, 0, 0, 0⟩

/-- A bound on the steps that a loop over the rest of the text can take. -/
def fuel (cursor : Cursor) : Nat :=
  cursor.rest.length + 1

def peekAt (cursor : Cursor) (skipped : Nat) : Option Char :=
  cursor.rest[skipped]?

def peek (cursor : Cursor) : Option Char :=
  cursor.rest.head?

def sees (cursor : Cursor) (c : Char) : Bool :=
  cursor.peek == some c

def atEnd (cursor : Cursor) : Bool :=
  cursor.rest.isEmpty

def atBreak (cursor : Cursor) : Bool :=
  cursor.peek.any isBreak

def atSpace (cursor : Cursor) : Bool :=
  cursor.peek.any isSpace

/-- Whether the next character but `skipped` is a space, a tab or a line end, or the end of the
text. -/
def blankAt (cursor : Cursor) (skipped : Nat) : Bool :=
  (cursor.peekAt skipped).all fun c => isSpace c || isBreak c

def atLineEnd (cursor : Cursor) : Bool :=
  cursor.peek.all isBreak

def skip (cursor : Cursor) : Cursor :=
  { cursor with
    rest := cursor.rest.tail, index := cursor.index + 1, column := cursor.column + 1 }

def skipMany (cursor : Cursor) (count : Nat) : Cursor :=
  { cursor with
    rest := cursor.rest.drop count, index := cursor.index + count
    column := cursor.column + count }

/-- The cursor behind a line end, and the line end as it counts in a scalar. -/
def takeBreak (cursor : Cursor) : List Char × Cursor :=
  match cursor.rest with
  | '\r' :: '\n' :: rest => (['\n'], ⟨rest, cursor.index + 2, cursor.line + 1, 0⟩)
  | c :: rest =>
      if isBreak c then
        (if c = '\u2028' ∨ c = '\u2029' then [c] else ['\n'],
          ⟨rest, cursor.index + 1, cursor.line + 1, 0⟩)
      else ([], cursor)
  | [] => ([], cursor)

def skipBreak (cursor : Cursor) : Cursor :=
  cursor.takeBreak.2

def span (cursor : Cursor) (member : Char → Bool) : List Char × Cursor :=
  let found := cursor.rest.takeWhile member
  (found, cursor.skipMany found.length)

def skipSpaces (cursor : Cursor) : Cursor :=
  (cursor.span isSpace).2

def toLineEnd (cursor : Cursor) : Cursor :=
  (cursor.span fun c => !isBreak c).2

def atDocumentMark (cursor : Cursor) : Bool :=
  cursor.column = 0 && cursor.blankAt 3 &&
    (cursor.rest.take 3 = ['-', '-', '-'] || cursor.rest.take 3 = ['.', '.', '.'])

end Cursor

end StagedRuns.Yaml
