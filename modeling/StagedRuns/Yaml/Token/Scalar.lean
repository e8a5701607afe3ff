import StagedRuns.Yaml.Cursor
import StagedRuns.Yaml.Token

/-!
Reading scalars. Lines of a quoted or plain scalar are folded: a single line end becomes a space,
and of several all but the first are kept. In a block scalar the indentation is taken away, and
the header says whether lines are folded and what becomes of the line ends at the end.
-/

namespace StagedRuns.Yaml

/-! ### White space within a scalar -/

/-- White space between two words of a scalar: spaces on the same line, or a line end and more
line ends after it. -/
structure Gap where
  spaces : List Char
  broken : Bool
  lineEnd : List Char
  moreEnds : List Char

namespace Gap

def none : Gap := ⟨[], false, [], []⟩

/-- An escaped line end, which counts for nothing itself. -/
def escapedBreak : Gap := ⟨[], true, [], []⟩

def fold (gap : Gap) : List Char :=
  if gap.broken then
    if gap.lineEnd = ['\n'] then
      if gap.moreEnds.isEmpty then [' '] else gap.moreEnds
    else gap.lineEnd ++ gap.moreEnds
  else gap.spaces

/-- Reads white space. A tab before column `indent` of a new line is refused. -/
def read (indent : Nat) : (fuel : Nat) → Gap → Cursor → Except Problem (Gap × Cursor)
  | 0, gap, cursor => .ok (gap, cursor)
  | fuel + 1, gap, cursor =>
      match cursor.peek with
      | some c =>
          if isSpace c then
            if gap.broken then
              if c = '\t' ∧ cursor.column < indent then
                problem "a tab stands where the indentation ends"
              else read indent fuel gap cursor.skip
            else read indent fuel { gap with spaces := gap.spaces ++ [c] } cursor.skip
          else if isBreak c then
            let (lineEnd, after) := cursor.takeBreak
            if gap.broken then
              read indent fuel { gap with moreEnds := gap.moreEnds ++ lineEnd } after
            else
              read indent fuel { gap with spaces := [], broken := true, lineEnd } after
          else .ok (gap, cursor)
      | .none => .ok (gap, cursor)

end Gap

/-! ### Quoted scalars -/

def escaped? : Char → Option Char
  | '0' => some '\x00'
  | 'a' => some '\x07'
  | 'b' => some '\x08'
  | 't' => some '\t'
  | '\t' => some '\t'
  | 'n' => some '\n'
  | 'v' => some '\x0b'
  | 'f' => some '\x0c'
  | 'r' => some '\r'
  | 'e' => some '\x1b'
  | ' ' => some ' '
  | '"' => some '"'
  | '/' => some '/'
  | '\\' => some '\\'
  | 'N' => some '\x85'
  | '_' => some '\xa0'
  | 'L' => some '\u2028'
  | 'P' => some '\u2029'
  | _ => none

def escapeDigits? : Char → Option Nat
  | 'x' => some 2
  | 'u' => some 4
  | 'U' => some 8
  | _ => none

def hexNumber? (digits : List Char) : Option Nat :=
  digits.foldlM (fun value digit => (hexValue? digit).map (value * 16 + ·)) 0

def readEscape (cursor : Cursor) : Except Problem (Char × Cursor) :=
  match cursor.peek with
  | none => problem "the text ends within an escape"
  | some letter =>
      match escaped? letter, escapeDigits? letter with
      | some c, _ => .ok (c, cursor.skip)
      | none, some count =>
          let digits := cursor.skip.rest.take count
          match hexNumber? digits with
          | some code =>
              if digits.length < count then problem "an escape has too few digits"
              else if code.isValidChar then
                .ok (Char.ofNat code, cursor.skip.skipMany count)
              else problem "an escape stands for no character"
          | none => problem "an escape has a letter among its digits"
      | none, none => problem "a backslash stands before a letter without meaning"

inductive RunEnd where
  | ordinary
  | escapedBreak

def readRun (single : Bool) : (fuel : Nat) → Cursor →
    Except Problem (List Char × RunEnd × Cursor)
  | 0, cursor => .ok ([], .ordinary, cursor)
  | fuel + 1, cursor =>
      match cursor.rest with
      | [] => .ok ([], .ordinary, cursor)
      | c :: _ =>
          if isSpace c || isBreak c then .ok ([], .ordinary, cursor)
          else if single then
            if c = '\'' then
              if cursor.peekAt 1 = some '\'' then do
                let (run, ending, after) ← readRun single fuel (cursor.skipMany 2)
                .ok ('\'' :: run, ending, after)
              else .ok ([], .ordinary, cursor)
            else do
              let (run, ending, after) ← readRun single fuel cursor.skip
              .ok (c :: run, ending, after)
          else if c = '"' then .ok ([], .ordinary, cursor)
          else if c = '\\' then
            if cursor.skip.atBreak then .ok ([], .escapedBreak, cursor.skip.skipBreak)
            else do
              let (escaped, after) ← readEscape cursor.skip
              let (run, ending, after) ← readRun single fuel after
              .ok (escaped :: run, ending, after)
          else do
            let (run, ending, after) ← readRun single fuel cursor.skip
            .ok (c :: run, ending, after)

def readQuotedContent (single : Bool) : (fuel : Nat) → Cursor →
    Except Problem (List Char × Cursor)
  | 0, _ => problem "a quoted scalar does not end"
  | fuel + 1, cursor =>
      if cursor.atDocumentMark then problem "a document ends within a quoted scalar"
      else if cursor.atEnd then problem "the text ends within a quoted scalar"
      else do
        let (run, ending, after) ← readRun single cursor.fuel cursor
        if after.sees (if single then '\'' else '"') &&
            (match ending with | .ordinary => true | .escapedBreak => false) then
          .ok (run, after.skip)
        else do
          let before :=
            match ending with
            | .ordinary => Gap.none
            | .escapedBreak => Gap.escapedBreak
          if after.sees (if single then '\'' else '"') then
            .ok (run, after.skip)
          else do
            let (gap, after) ← Gap.read 0 after.fuel before after
            let (content, after) ← readQuotedContent single fuel after
            .ok (run ++ gap.fold ++ content, after)

def readQuoted (single : Bool) (cursor : Cursor) : Except Problem (Token × Cursor) := do
  let (content, after) ← readQuotedContent single cursor.fuel cursor.skip
  .ok (.scalar false (String.ofList content), after)

/-! ### Plain scalars -/

def isFlowMark (c : Char) : Bool :=
  c = ',' || c = '[' || c = ']' || c = '{' || c = '}'

def readWord (inFlow : Bool) : (fuel : Nat) → Cursor → Except Problem (List Char × Cursor)
  | 0, cursor => .ok ([], cursor)
  | fuel + 1, cursor =>
      match cursor.rest with
      | [] => .ok ([], cursor)
      | c :: _ =>
          if isSpace c || isBreak c then .ok ([], cursor)
          else if inFlow && c = ':' &&
              (cursor.peekAt 1).any (fun next => isFlowMark next || next = '?') then
            problem "a colon stands before a mark of the collection"
          else if (c = ':' && cursor.blankAt 1) || (inFlow && isFlowMark c) then
            .ok ([], cursor)
          else do
            let (word, after) ← readWord inFlow fuel cursor.skip
            .ok (c :: word, after)

/-- Reads the words of a plain scalar, `gap` being the white space before the next one. Also tells
whether it ended on a later line than its last word. -/
def readWords (inFlow : Bool) (indent : Nat) : (fuel : Nat) → Gap → Cursor →
    Except Problem (List Char × Bool × Cursor)
  | 0, gap, cursor => .ok ([], gap.broken, cursor)
  | fuel + 1, gap, cursor =>
      if cursor.atDocumentMark || cursor.sees '#' then .ok ([], gap.broken, cursor)
      else do
        let (word, after) ← readWord inFlow cursor.fuel cursor
        let (text, gap) := if word.isEmpty then ([], gap) else (gap.fold ++ word, Gap.none)
        if !(after.atSpace || after.atBreak) then .ok (text, gap.broken, after)
        else do
          let (gap, after) ← Gap.read indent after.fuel gap after
          if !inFlow && after.column < indent then .ok (text, gap.broken, after)
          else do
            let (more, broken, after) ← readWords inFlow indent fuel gap after
            .ok (text ++ more, broken, after)

/-- Reads a plain scalar whose later lines have to reach column `indent`, unless it stands in a
flow collection. Also tells whether it ended on a later line than its last word. -/
def readPlain (inFlow : Bool) (indent : Nat) (cursor : Cursor) :
    Except Problem (Token × Bool × Cursor) := do
  let (content, broken, after) ← readWords inFlow indent cursor.fuel .none cursor
  .ok (.scalar true (String.ofList content), broken, after)

/-! ### Block scalars -/

/-- What becomes of the line ends at the end of a block scalar. -/
inductive Chomping where
  | strip
  | clip
  | keep
deriving DecidableEq

def chomping? : Option Char → Option Chomping
  | some '+' => some .keep
  | some '-' => some .strip
  | _ => none

def indentation? (c : Option Char) : Except Problem (Option Nat) :=
  match c with
  | some c =>
      if c.isDigit then
        if c = '0' then problem "a block scalar has an indentation of zero"
        else .ok (some (c.toNat - '0'.toNat))
      else .ok none
  | none => .ok none

/-- Reads the header of a block scalar: chomping and indentation in either order. -/
def readHeader (cursor : Cursor) : Except Problem (Chomping × Option Nat × Cursor) :=
  match chomping? cursor.peek with
  | some chomping => do
      match ← indentation? cursor.skip.peek with
      | some indentation => .ok (chomping, some indentation, cursor.skipMany 2)
      | none => .ok (chomping, none, cursor.skip)
  | none => do
      match ← indentation? cursor.peek with
      | some indentation =>
          match chomping? cursor.skip.peek with
          | some chomping => .ok (chomping, some indentation, cursor.skipMany 2)
          | none => .ok (.clip, some indentation, cursor.skip)
      | none => .ok (.clip, none, cursor)

/-- Reads the lines of a block scalar that are empty up to column `indent`; while the indentation
is unknown, all lines of spaces. Also gives the greatest column reached. -/
def readEmptyLines (indent : Option Nat) : (fuel : Nat) → (widest : Nat) → Cursor →
    Except Problem (List Char × Nat × Cursor)
  | 0, widest, cursor => .ok ([], widest, cursor)
  | fuel + 1, widest, cursor =>
      let room := indent.map (· - cursor.column)
      let spaces := cursor.rest.takeWhile (· = ' ')
      let cursor := cursor.skipMany (room.elim spaces.length (min spaces.length))
      let widest := max widest cursor.column
      let inIndentation := indent.all (cursor.column < ·)
      if inIndentation && cursor.sees '\t' then
        problem "a tab stands where an indentation by spaces is wanted"
      else if cursor.atBreak then do
        let (lineEnd, after) := cursor.takeBreak
        let (ends, widest, after) ← readEmptyLines indent fuel widest after
        .ok (lineEnd ++ ends, widest, after)
      else .ok ([], widest, cursor)

/-- Reads the lines of a block scalar. `lineEnd` is the end of the line before, `ends` are those of
empty lines after it, and `spaced` tells whether that line began with white space. -/
def readLines (folded : Bool) (chomping : Chomping) (indent : Nat) :
    (fuel : Nat) → (lineEnd ends : List Char) → (spaced : Bool) → Cursor →
    Except Problem (List Char × Cursor)
  | 0, _, _, _, cursor => .ok ([], cursor)
  | fuel + 1, lineEnd, ends, spaced, cursor =>
      if cursor.column = indent && !cursor.atEnd then do
        let spacedNow := cursor.atSpace
        let before :=
          if folded && lineEnd = ['\n'] && !spaced && !spacedNow then
            if ends.isEmpty then [' '] else []
          else lineEnd
        let (line, after) := cursor.span fun c => !isBreak c
        let (lineEnd, after) := after.takeBreak
        let (nextEnds, _, after) ← readEmptyLines (some indent) after.fuel 0 after
        let (more, after) ← readLines folded chomping indent fuel lineEnd nextEnds spacedNow after
        .ok (before ++ ends ++ line ++ more, after)
      else
        let kept :=
          match chomping with
          | .strip => []
          | .clip => lineEnd
          | .keep => lineEnd ++ ends
        .ok (kept, cursor)

/-- Reads a block scalar from its mark on, inside a block with the given indentation. -/
def readBlock (folded : Bool) (outer : Int) (cursor : Cursor) :
    Except Problem (Token × Cursor) := do
  let (chomping, indentation, after) ← readHeader cursor.skip
  let after := after.skipSpaces
  let after := if after.sees '#' then after.toLineEnd else after
  if !after.atLineEnd then problem "the header of a block scalar does not end with its line"
  else do
    let after := after.skipBreak
    let indent := indentation.map fun more => (if 0 ≤ outer then outer.toNat else 0) + more
    let (ends, widest, after) ← readEmptyLines indent after.fuel 0 after
    let indent := indent.getD (max widest (max (outer + 1).toNat 1))
    let (content, after) ← readLines folded chomping indent after.fuel [] ends false after
    .ok (.scalar false (String.ofList content), after)

end StagedRuns.Yaml
