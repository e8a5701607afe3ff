import StagedRuns.Yaml.Cursor
import StagedRuns.Yaml.Value.Plain

/-!
Writing a text as a scalar. It is plain where that reads back as the same text, between single
quotes where a plain one would be taken for something else, and between double quotes where some
character has to be escaped. A text of several lines is a literal if it can be one.
-/

namespace StagedRuns.Yaml.Printer

inductive Style where
  | plain
  | single
  | double
  | literal
deriving DecidableEq, Repr

def needsEscape (c : Char) : Bool :=
  (!isAllowed c && c ≠ '\n') || (isBreak c && c ≠ '\n') || c = '\t' || c = '\ufeff'

def blankAhead : List Char → Bool
  | [] => true
  | c :: _ => isSpace c || isBreak c

def startsWithMark : List Char → Bool
  | [] => false
  | c :: rest =>
      "#,[]\x7b\x7d&*!|>'\"%@\x60".toList.contains c ||
        (['?', ':', '-'].contains c && blankAhead rest)

/-- Whether a plain scalar would end or turn into a comment after one of these characters. -/
def holdsMark : List Char → Bool
  | [] => false
  | c :: rest =>
      (c = ':' && blankAhead rest) || (isSpace c && rest.head? = some '#') || holdsMark rest

def startsWithDocumentMark (content : List Char) : Bool :=
  ['-', '-', '-'].isPrefixOf content || ['.', '.', '.'].isPrefixOf content

/-- Words that older readers take for truth values. -/
def doubtfulWords : List String :=
  [ "y", "Y", "yes", "Yes", "YES", "n", "N", "no", "No", "NO", "on", "On", "ON", "off", "Off"
  , "OFF" ]

def readsAsText (content : String) : Bool :=
  match Plain.value content with
  | .ok (.string _) => !Plain.hasLeadingZero content.toList && !doubtfulWords.contains content
  | _ => false

def fitsPlain (content : String) : Bool :=
  let chars := content.toList
  readsAsText content && !startsWithMark chars && !holdsMark chars &&
    !startsWithDocumentMark chars && chars.head? ≠ some ' ' && chars.getLast? ≠ some ' '

def hasTrailingSpace : List Char → Bool
  | [] => false
  | [c] => c = ' '
  | c :: next :: rest => (c = ' ' && next = '\n') || hasTrailingSpace (next :: rest)

def styleOf (content : String) : Style :=
  let chars := content.toList
  if chars.any needsEscape then .double
  else if chars.contains '\n' then if hasTrailingSpace chars then .double else .literal
  else if fitsPlain content then .plain
  else .single

def keyStyleOf (content : String) : Style :=
  match styleOf content with
  | .literal => .double
  | style => style

def hexDigits (count value : Nat) : List Char :=
  let digits := (Nat.toDigits 16 value).map Char.toUpper
  List.replicate (count - digits.length) '0' ++ digits

def escaped (c : Char) : List Char :=
  match c with
  | '"' => ['\\', '"']
  | '\\' => ['\\', '\\']
  | '\x00' => ['\\', '0']
  | '\x07' => ['\\', 'a']
  | '\x08' => ['\\', 'b']
  | '\t' => ['\\', 't']
  | '\n' => ['\\', 'n']
  | '\x0b' => ['\\', 'v']
  | '\x0c' => ['\\', 'f']
  | '\r' => ['\\', 'r']
  | '\x1b' => ['\\', 'e']
  | '\x85' => ['\\', 'N']
  | '\u2028' => ['\\', 'L']
  | '\u2029' => ['\\', 'P']
  | c =>
      if !needsEscape c then [c]
      else if c.toNat ≤ 0xFF then ['\\', 'x'] ++ hexDigits 2 c.toNat
      else if c.toNat ≤ 0xFFFF then ['\\', 'u'] ++ hexDigits 4 c.toNat
      else ['\\', 'U'] ++ hexDigits 8 c.toNat

def doubleQuoted (content : List Char) : List Char :=
  '"' :: content.flatMap escaped ++ ['"']

/-- A text between single quotes, each of its own written twice. -/
def singleQuoted (content : List Char) : List Char :=
  '\'' :: content.flatMap (fun c => if c = '\'' then ['\'', '\''] else [c]) ++ ['\'']

/-- The lines of a text; the one after a last line end is not counted. -/
def linesOf : List Char → List (List Char)
  | [] => []
  | c :: rest =>
      if c = '\n' then [] :: linesOf rest
      else
        match linesOf rest with
        | [] => [[c]]
        | line :: lines => (c :: line) :: lines

/-- What tells the reader how the lines of a literal begin and how it ends. -/
def literalHints (content : List Char) : List Char :=
  let depth := if blankAhead content then ['2'] else []
  let ending :=
    match content.reverse with
    | '\n' :: '\n' :: _ => ['+']
    | ['\n'] => ['+']
    | '\n' :: _ => []
    | _ => ['-']
  depth ++ ending

/-- The first line of a scalar, and the lines below it, which belong further in. -/
def scalar (style : Style) (content : String) : List Char × List (List Char) :=
  let chars := content.toList
  match style with
  | .plain => (chars, [])
  | .single => (singleQuoted chars, [])
  | .double => (doubleQuoted chars, [])
  | .literal => ('|' :: literalHints chars, linesOf chars)

def key (content : String) : List Char :=
  (scalar (keyStyleOf content) content).1 ++ [':']

end StagedRuns.Yaml.Printer
