import StagedRuns.Text.Utf8

/-!
Tags. A tag is a sequence of octets, since it may be written by octets that spell no text. Tags
that begin with an exclamation mark are the document's own; those of YAML itself have a common
beginning.
-/

namespace StagedRuns.Yaml

structure Tag where
  octets : List UInt8
deriving DecidableEq, Repr

namespace Tag

def ofText (text : String) : Tag :=
  ⟨Text.Utf8.encode text⟩

/-- The tag that says nothing about a scalar. -/
def unspecific : Tag := ofText "!"

def coreStart : String := "tag:yaml.org,2002:"

def bool : Tag := ofText (coreStart ++ "bool")

def int : Tag := ofText (coreStart ++ "int")

def float : Tag := ofText (coreStart ++ "float")

def null : Tag := ofText (coreStart ++ "null")

def mark : UInt8 := 0x21

def isOwn (tag : Tag) : Bool :=
  tag.octets.head? = some mark

/-- A name without the mark that it begins with, unless the mark is all of it. -/
def withoutMark : List UInt8 → List UInt8
  | first :: second :: rest => if first = mark then second :: rest else first :: second :: rest
  | short => short

/-- The name of a tag of the document's own, if it spells a text. A mark that the name begins with
does not count either. -/
def ownName? (tag : Tag) : Option String :=
  if tag.isOwn then (Text.Utf8.decode (withoutMark (withoutMark tag.octets))).toOption
  else none

end Tag

end StagedRuns.Yaml
