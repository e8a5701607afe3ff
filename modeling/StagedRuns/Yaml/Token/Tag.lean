import StagedRuns.Yaml.Cursor
import StagedRuns.Yaml.Tag
import StagedRuns.Yaml.Token

/-!
Reading anchors, aliases, tags and directives.
-/

namespace StagedRuns.Yaml

/-- Whether a character may stand in the suffix of a tag. `whole` allows also the characters that
would end it in a flow collection. -/
def isTagChar (whole : Bool) (c : Char) : Bool :=
  isWordChar c || ";/?:@&=+$.%!~*'()".toList.contains c || (whole && ",[]".toList.contains c)

def percentOctet? : List Char → Option UInt8
  | '%' :: high :: low :: _ => do
      let high ← hexValue? high
      let low ← hexValue? low
      some (UInt8.ofNat (16 * high + low))
  | _ => none

/-- How many octets a character has whose first octet is given; zero if none begins so. -/
def octetCount (first : UInt8) : Nat :=
  if first < 0x80 then 1
  else if 0xC0 ≤ first ∧ first < 0xE0 then 2
  else if 0xE0 ≤ first ∧ first < 0xF0 then 3
  else if 0xF0 ≤ first ∧ first < 0xF8 then 4
  else 0

def isLaterOctet (octet : UInt8) : Bool :=
  0x80 ≤ octet && octet < 0xC0

/-- Reads octets behind percent signs, as many as the first one announces. What they spell does
not matter. -/
def readPercentOctets (cursor : Cursor) : Except Problem (List UInt8 × Cursor) :=
  match percentOctet? cursor.rest with
  | none => problem "a percent sign stands without two digits"
  | some first =>
      let count := octetCount first
      let octets :=
        (List.range count).mapM fun place => percentOctet? (cursor.rest.drop (3 * place))
      match octets with
      | some [] => problem "no character begins with such an octet"
      | some (first :: more) =>
          if more.all isLaterOctet then .ok (first :: more, cursor.skipMany (3 * count))
          else problem "no character goes on with such an octet"
      | none => problem "a percent sign stands without two digits"

def readTagSuffix (whole : Bool) : (fuel : Nat) → Cursor → Except Problem (List UInt8 × Cursor)
  | 0, cursor => .ok ([], cursor)
  | fuel + 1, cursor =>
      match cursor.peek with
      | some c =>
          if c = '%' then do
            let (octets, after) ← readPercentOctets cursor
            let (suffix, after) ← readTagSuffix whole fuel after
            .ok (octets ++ suffix, after)
          else if isTagChar whole c then do
            let (suffix, after) ← readTagSuffix whole fuel cursor.skip
            .ok (UInt8.ofNat c.toNat :: suffix, after)
          else .ok ([], cursor)
      | none => .ok ([], cursor)

/-- The octets before the first one that is zero, which ends a tag. -/
def untilZero (octets : List UInt8) : List UInt8 :=
  octets.takeWhile (· ≠ 0)

def readSomeTagSuffix (whole : Bool) (cursor : Cursor) :
    Except Problem (List UInt8 × Cursor) := do
  let (suffix, after) ← readTagSuffix whole cursor.fuel cursor
  if suffix.isEmpty then problem "a tag has no suffix" else .ok (untilZero suffix, after)

/-- Reads the handle of a tag: an exclamation mark, a word, and perhaps a second mark. -/
def readTagHandle (cursor : Cursor) : List Char × Cursor :=
  let (word, after) := cursor.skip.span isWordChar
  if after.sees '!' then ('!' :: word ++ ['!'], after.skip) else ('!' :: word, after)

def readTag (inFlow : Bool) (cursor : Cursor) : Except Problem (Token × Cursor) := do
  let (tag, after) ←
    if cursor.peekAt 1 = some '<' then do
      let (suffix, after) ← readSomeTagSuffix true (cursor.skipMany 2)
      if after.sees '>' then .ok (Token.tag "" suffix, after.skip)
      else problem "a tag in angle brackets does not end"
    else do
      let (handle, after) := readTagHandle cursor
      if 1 < handle.length ∧ handle.getLast? = some '!' then do
        let (suffix, after) ← readSomeTagSuffix false after
        .ok (Token.tag (String.ofList handle) suffix, after)
      else do
        let (suffix, after) ← readTagSuffix false after.fuel after
        let suffix := untilZero (Text.Utf8.encode (String.ofList handle.tail) ++ suffix)
        if suffix.isEmpty then .ok (Token.tag "" Tag.unspecific.octets, after)
        else .ok (Token.tag "!" suffix, after)
  if after.blankAt 0 || (inFlow && after.sees ',') then .ok (tag, after)
  else problem "no white space follows a tag"

def readAnchorName (cursor : Cursor) : Except Problem (String × Cursor) :=
  let (name, after) := cursor.skip.span isWordChar
  if name.isEmpty then problem "an anchor has no name"
  else if after.blankAt 0 || after.peek.any ("?:,]\x7d%@\x60".toList.contains ·) then
    .ok (String.ofList name, after)
  else problem "the name of an anchor goes on in an odd way"

def maxVersionDigits : Nat := 9

def readVersionPart (cursor : Cursor) : Except Problem (Nat × Cursor) :=
  let (digits, after) := cursor.span Char.isDigit
  if digits.isEmpty then problem "a version has no digits"
  else if maxVersionDigits < digits.length then problem "a version has too many digits"
  else .ok (digits.foldl (fun value digit => value * 10 + (digit.toNat - '0'.toNat)) 0, after)

def readDirectiveValue (name : String) (cursor : Cursor) : Except Problem (Token × Cursor) :=
  if name = "YAML" then do
    let (major, after) ← readVersionPart cursor.skipSpaces
    if !after.sees '.' then problem "a version has no second part"
    else do
      let (minor, after) ← readVersionPart after.skip
      .ok (.versionDirective major minor, after)
  else if name = "TAG" then
    let cursor := cursor.skipSpaces
    if !cursor.sees '!' then problem "a directive has no handle"
    else
      let (handle, after) := readTagHandle cursor
      if handle ≠ ['!'] ∧ handle.getLast? ≠ some '!' then problem "a handle does not end"
      else if !after.atSpace then problem "no white space follows a handle"
      else do
        let (expansion, after) ← readSomeTagSuffix true after.skipSpaces
        if after.blankAt 0 then
          .ok (.tagDirective (String.ofList handle) expansion, after)
        else problem "no white space follows the expansion of a handle"
  else problem "a directive is unknown"

def readDirective (cursor : Cursor) : Except Problem (Token × Cursor) := do
  let (name, after) := cursor.skip.span isWordChar
  if name.isEmpty then problem "a directive has no name"
  else if !after.blankAt 0 then problem "no white space follows the name of a directive"
  else do
    let (directive, after) ← readDirectiveValue (String.ofList name) after
    let after := after.skipSpaces
    let after := if after.sees '#' then after.toLineEnd else after
    if after.atLineEnd then .ok (directive, after.skipBreak)
    else problem "a directive does not end with its line"

end StagedRuns.Yaml
