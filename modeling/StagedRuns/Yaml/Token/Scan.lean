import StagedRuns.Yaml.Token.Scalar
import StagedRuns.Yaml.Token.Tag

/-!
Cutting a YAML text into tokens. Indentation opens and closes blocks outside flow collections. A
key of a mapping need not be marked: whether a token began one shows only at the colon behind it,
and the marks that it lacked are then put in before it. Such a key ends on the line where it began
and within a fixed number of characters.
-/

namespace StagedRuns.Yaml

/-- A place where a key without a mark may have begun. -/
structure KeyStart where
  /-- Whether the block cannot go on with anything but a key. -/
  required : Bool
  position : Nat
  index : Nat
  line : Nat
  column : Nat

/-- How many characters a key without a mark may span. -/
def maxKeyLength : Nat := 1024

def KeyStart.isStale (keyStart : KeyStart) (cursor : Cursor) : Bool :=
  keyStart.line < cursor.line || keyStart.index + maxKeyLength < cursor.index

structure Scanner where
  cursor : Cursor
  tokens : Array Token
  /-- Where a key may have begun in the innermost collection. -/
  keyStart : Option KeyStart
  /-- Where a key may have begun in the collections around the open flow collections. -/
  outerKeyStarts : List (Option KeyStart)
  columns : List Nat
  keyAllowed : Bool

namespace Scanner

def start (text : List Char) : Scanner :=
  { cursor := Cursor.start text, tokens := #[], keyStart := none, outerKeyStarts := []
    columns := [], keyAllowed := true }

def inFlow (scanner : Scanner) : Bool :=
  !scanner.outerKeyStarts.isEmpty

/-- The indentation of the innermost block, -1 outside all blocks. -/
def indent (scanner : Scanner) : Int :=
  scanner.columns.head?.elim (-1) Int.ofNat

def push (scanner : Scanner) (token : Token) (cursor : Cursor) : Scanner :=
  { scanner with tokens := scanner.tokens.push token, cursor }

def allowKey (scanner : Scanner) (keyAllowed : Bool) : Scanner :=
  { scanner with keyAllowed }

/-! ### Keys without a mark -/

def dropKeyStart : Option KeyStart → Except Problem (Option KeyStart)
  | some keyStart =>
      if keyStart.required then problem "a key has no colon behind it" else .ok none
  | none => .ok none

def dropStale (cursor : Cursor) (keyStart : Option KeyStart) :
    Except Problem (Option KeyStart) :=
  if keyStart.any (·.isStale cursor) then dropKeyStart keyStart else .ok keyStart

def dropAllStale (scanner : Scanner) : Except Problem Scanner := do
  let keyStart ← dropStale scanner.cursor scanner.keyStart
  let outerKeyStarts ← scanner.outerKeyStarts.mapM (dropStale scanner.cursor)
  .ok { scanner with keyStart, outerKeyStarts }

def noKey (scanner : Scanner) : Except Problem Scanner := do
  .ok { scanner with keyStart := ← dropKeyStart scanner.keyStart }

def mayBeKey (scanner : Scanner) : Except Problem Scanner := do
  if scanner.keyAllowed then
    let scanner ← scanner.noKey
    let cursor := scanner.cursor
    let required := !scanner.inFlow && scanner.indent == Int.ofNat cursor.column
    let keyStart := ⟨required, scanner.tokens.size, cursor.index, cursor.line, cursor.column⟩
    .ok { scanner with keyStart := some keyStart }
  else .ok scanner

/-! ### Blocks -/

def closeBlocks (scanner : Scanner) (goesOn : Nat → Bool) : Scanner :=
  if scanner.inFlow then scanner
  else
    let closed := scanner.columns.takeWhile (!goesOn ·)
    { scanner with
      columns := scanner.columns.drop closed.length
      tokens := scanner.tokens ++ (closed.map fun _ => Token.blockEnd).toArray }

/-- Opens a block at a column, with its token before the others from `position` on, unless such a
block is open. -/
def openBlock (scanner : Scanner) (column position : Nat) (token : Token) : Scanner :=
  if !scanner.inFlow && scanner.indent < Int.ofNat column then
    { scanner with
      columns := column :: scanner.columns
      tokens := scanner.tokens.insertIdxIfInBounds position token }
  else scanner

/-- Opens a block here. Outside flow collections that needs a place where a key may begin. -/
def openBlockHere (scanner : Scanner) (token : Token) : Except Problem Scanner :=
  if scanner.inFlow then .ok scanner
  else if scanner.keyAllowed then
    .ok (scanner.openBlock scanner.cursor.column scanner.tokens.size token)
  else problem "a block cannot begin here"

/-! ### Single tokens -/

/-- A mark between documents, a directive or the end of the text: nothing stays open. -/
def betweenDocuments (scanner : Scanner) : Except Problem Scanner := do
  let scanner ← (scanner.closeBlocks fun _ => false).noKey
  .ok (scanner.allowKey false)

def openFlow (scanner : Scanner) (token : Token) : Except Problem Scanner := do
  let scanner ← scanner.mayBeKey
  let scanner := scanner.push token scanner.cursor.skip
  .ok { scanner with
        keyStart := none, outerKeyStarts := scanner.keyStart :: scanner.outerKeyStarts
        keyAllowed := true }

def closeFlow (scanner : Scanner) (token : Token) : Except Problem Scanner := do
  let scanner ← scanner.noKey
  let scanner := (scanner.push token scanner.cursor.skip).allowKey false
  match scanner.outerKeyStarts with
  | keyStart :: outerKeyStarts => .ok { scanner with keyStart, outerKeyStarts }
  | [] => .ok scanner

def flowEntry (scanner : Scanner) : Except Problem Scanner := do
  let scanner ← scanner.noKey
  .ok ((scanner.push .flowEntry scanner.cursor.skip).allowKey true)

def blockEntry (scanner : Scanner) : Except Problem Scanner := do
  let scanner ← scanner.openBlockHere .blockSequenceStart
  let scanner ← scanner.noKey
  .ok ((scanner.push .blockEntry scanner.cursor.skip).allowKey true)

def markedKey (scanner : Scanner) : Except Problem Scanner := do
  let scanner ← scanner.openBlockHere .blockMappingStart
  let scanner ← scanner.noKey
  .ok ((scanner.push .key scanner.cursor.skip).allowKey !scanner.inFlow)

/-- The mark of a value, which may reveal that a key began before. -/
def markedValue (scanner : Scanner) : Except Problem Scanner := do
  match scanner.keyStart with
  | some keyStart =>
      let scanner :=
        { scanner with
          tokens := scanner.tokens.insertIdxIfInBounds keyStart.position .key, keyStart := none }
      let scanner := scanner.openBlock keyStart.column keyStart.position .blockMappingStart
      .ok ((scanner.push .value scanner.cursor.skip).allowKey false)
  | none =>
      let scanner ← scanner.openBlockHere .blockMappingStart
      .ok ((scanner.push .value scanner.cursor.skip).allowKey !scanner.inFlow)

/-- A token that may begin a key and is read on its own. -/
def single (scanner : Scanner) (read : Cursor → Except Problem (Token × Cursor)) :
    Except Problem Scanner := do
  let scanner ← scanner.mayBeKey
  let (token, after) ← read scanner.cursor
  .ok ((scanner.push token after).allowKey false)

def named (scanner : Scanner) (make : String → Token) : Except Problem Scanner :=
  scanner.single fun cursor => do
    let (name, after) ← readAnchorName cursor
    .ok (make name, after)

def block (scanner : Scanner) (folded : Bool) : Except Problem Scanner := do
  let scanner ← scanner.noKey
  let (token, after) ← readBlock folded scanner.indent scanner.cursor
  .ok ((scanner.push token after).allowKey true)

def plain (scanner : Scanner) : Except Problem Scanner := do
  let scanner ← scanner.mayBeKey
  let (token, broken, after) ←
    readPlain scanner.inFlow (scanner.indent + 1).toNat scanner.cursor
  .ok ((scanner.push token after).allowKey broken)

def beginsPlain (scanner : Scanner) : Bool :=
  let cursor := scanner.cursor
  match cursor.peek with
  | none => false
  | some c =>
      !(isSpace c || isBreak c || "-?:,[]\x7b\x7d#&*!|>'\"%@\x60".toList.contains c) ||
        (c = '-' && !(cursor.peekAt 1).any isSpace) ||
        (!scanner.inFlow && (c = '?' || c = ':') && !cursor.blankAt 1)

def token (scanner : Scanner) (c : Char) : Except Problem Scanner :=
  let cursor := scanner.cursor
  if cursor.column = 0 ∧ c = '%' then do
    let scanner ← scanner.betweenDocuments
    let (directive, after) ← readDirective cursor
    .ok (scanner.push directive after)
  else if cursor.atDocumentMark then do
    let scanner ← scanner.betweenDocuments
    .ok (scanner.push (if c = '-' then .documentStart else .documentEnd) (cursor.skipMany 3))
  else if c = '[' then scanner.openFlow .flowSequenceStart
  else if c = '\x7b' then scanner.openFlow .flowMappingStart
  else if c = ']' then scanner.closeFlow .flowSequenceEnd
  else if c = '\x7d' then scanner.closeFlow .flowMappingEnd
  else if c = ',' then scanner.flowEntry
  else if c = '-' && cursor.blankAt 1 then scanner.blockEntry
  else if c = '?' && (scanner.inFlow || cursor.blankAt 1) then scanner.markedKey
  else if c = ':' && (scanner.inFlow || cursor.blankAt 1) then scanner.markedValue
  else if c = '*' then scanner.named .alias
  else if c = '&' then scanner.named .anchor
  else if c = '!' then scanner.single (readTag scanner.inFlow)
  else if c = '|' && !scanner.inFlow then scanner.block false
  else if c = '>' && !scanner.inFlow then scanner.block true
  else if c = '\'' then scanner.single (readQuoted true)
  else if c = '"' then scanner.single (readQuoted false)
  else if scanner.beginsPlain then scanner.plain
  else problem "no token begins with such a character"

/-- Passes over white space, comments, and a byte order mark that begins a line, which takes up a
column. On a new line outside flow collections a key may begin; where one may begin, no tab is
passed over. -/
def skipBlanks : (fuel : Nat) → Scanner → Scanner
  | 0, scanner => scanner
  | fuel + 1, scanner =>
      let cursor := scanner.cursor
      let cursor := if cursor.column = 0 && cursor.sees '\uFEFF' then cursor.skip else cursor
      let tabs := scanner.inFlow || !scanner.keyAllowed
      let cursor := (cursor.span fun c => c = ' ' || (tabs && c = '\t')).2
      let cursor := if cursor.sees '#' then cursor.toLineEnd else cursor
      if cursor.atBreak then
        skipBlanks fuel
          { scanner with
            cursor := cursor.skipBreak, keyAllowed := scanner.keyAllowed || !scanner.inFlow }
      else { scanner with cursor }

def run : (fuel : Nat) → Scanner → Except Problem (Array Token)
  | 0, _ => problem "the text does not end"
  | fuel + 1, scanner => do
      let scanner ← (skipBlanks scanner.cursor.fuel scanner).dropAllStale
      let scanner := scanner.closeBlocks (· ≤ scanner.cursor.column)
      match scanner.cursor.peek with
      | none => do
          let scanner ← scanner.betweenDocuments
          .ok (scanner.tokens.push .streamEnd)
      | some c => do
          let scanner ← scanner.token c
          run fuel scanner

end Scanner

def scan (text : String) : Except Problem (Array Token) :=
  let characters := text.toList
  if characters.all isAllowed then Scanner.run (characters.length + 1) (Scanner.start characters)
  else problem "a character is not allowed in a text"

end StagedRuns.Yaml
