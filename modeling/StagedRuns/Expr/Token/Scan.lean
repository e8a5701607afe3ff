import StagedRuns.Expr.Token
import StagedRuns.Text.Blank
import StagedRuns.Text.Letter
import StagedRuns.Text.Numeral

/-!
Cutting the text of an expression into tokens. Blanks separate tokens and are dropped. Positions
count bytes.
-/

namespace StagedRuns.Expr

open StagedRuns.Number (Decimal)

def byteLength (text : List Char) : Nat :=
  text.foldr (fun c length => c.utf8Size + length) 0

def beginsName (c : Char) : Bool :=
  Text.isLetter c || c = '_'

def continuesName (c : Char) : Bool :=
  Text.isLetter c || Text.isNumeral c || c = '_'

structure Lexeme where
  token : Token
  position : Nat
  rest : List Char

def unescape : Char → Char
  | 'n' => '\n'
  | 't' => '\t'
  | 'r' => '\r'
  | c => c

/-- Reads the content of a text up to the quote that ends it. `start` is the position of the quote
that began it, `position` that of the next character. -/
def readText (quote : Char) (start : Nat) :
    (position : Nat) → List Char → Except SyntaxFault (List Char × Nat × List Char)
  | _, [] => .error (.unfinishedText start)
  | position, c :: rest =>
      if c = quote then
        .ok ([], position + c.utf8Size, rest)
      else if c = '\\' then
        match rest with
        | [] => .error (.unfinishedEscape position)
        | next :: rest => do
            let (content, after) ← readText quote start (position + 1 + next.utf8Size) rest
            .ok (unescape next :: content, after)
      else do
        let (content, after) ← readText quote start (position + c.utf8Size) rest
        .ok (c :: content, after)

def digitsValue (digits : List Char) : Nat :=
  digits.foldl (fun value digit => value * 10 + (digit.toNat - '0'.toNat)) 0

def decimalOf (whole fraction : List Char) : Decimal :=
  ⟨digitsValue (whole ++ fraction), -Int.ofNat fraction.length⟩

def readDecimal (position : Nat) (text : List Char) : Lexeme :=
  let whole := text.takeWhile Char.isDigit
  match text.dropWhile Char.isDigit with
  | '.' :: rest =>
      let fraction := rest.takeWhile Char.isDigit
      { token := .number (decimalOf whole fraction)
        position := position + whole.length + 1 + fraction.length
        rest := rest.dropWhile Char.isDigit }
  | rest =>
      { token := .number (decimalOf whole [])
        position := position + whole.length
        rest }

def readName (position : Nat) (text : List Char) : Lexeme :=
  let word := text.takeWhile continuesName
  { token := Token.ofWord (String.ofList word)
    position := position + byteLength word
    rest := text.dropWhile continuesName }

def single? : Char → Option Token
  | '+' => some .plus
  | '-' => some .minus
  | '*' => some .star
  | '/' => some .slash
  | '%' => some .percent
  | '.' => some .dot
  | ',' => some .comma
  | ':' => some .colon
  | '?' => some .question
  | '(' => some .openParen
  | ')' => some .closeParen
  | '[' => some .openBracket
  | ']' => some .closeBracket
  | _ => none

/-- For a character that begins a token of two characters: the second one, the token of the two,
and the token of the first one alone. -/
def double? : Char → Option (Char × Token × Option Token)
  | '=' => some ('=', .equal, none)
  | '&' => some ('&', .both, none)
  | '|' => some ('|', .either, none)
  | '!' => some ('=', .unequal, some .not)
  | '<' => some ('=', .atMost, some .less)
  | '>' => some ('=', .atLeast, some .greater)
  | _ => none

def lexeme (position : Nat) (c : Char) (rest : List Char) : Except SyntaxFault Lexeme :=
  match single? c, double? c with
  | some token, _ => .ok ⟨token, position + 1, rest⟩
  | none, some (second, token, alone) =>
      if rest.head? = some second then
        .ok ⟨token, position + 2, rest.tail⟩
      else
        match alone with
        | some token => .ok ⟨token, position + 1, rest⟩
        | none => .error (.unrecognized c position)
  | none, none =>
      if c = '\'' ∨ c = '"' then do
        let (content, position, rest) ← readText c position (position + 1) rest
        .ok ⟨.text (String.ofList content), position, rest⟩
      else if c.isDigit then
        .ok (readDecimal position (c :: rest))
      else if beginsName c then
        .ok (readName position (c :: rest))
      else
        .error (.unrecognized c position)

/-- The tokens of a text whose first character has the given position. `fuel` bounds the number of
tokens. -/
def scanFrom : (fuel position : Nat) → List Char → Except SyntaxFault (List Token)
  | 0, _, _ => .ok [.endOfInput]
  | fuel + 1, position, text =>
      match text.dropWhile Text.isBlank with
      | [] => .ok [.endOfInput]
      | c :: rest => do
          let position := position + byteLength (text.takeWhile Text.isBlank)
          let found ← lexeme position c rest
          let tokens ← scanFrom fuel found.position found.rest
          .ok (found.token :: tokens)

/-- The tokens of a text, with the end of the input as the last one. -/
def scan (text : String) : Except SyntaxFault (List Token) :=
  scanFrom (text.toList.length + 1) 0 text.toList

end StagedRuns.Expr
