import StagedRuns.Url.Domain.Composition
import StagedRuns.Url.Domain.Direction
import StagedRuns.Url.Domain.Joining
import StagedRuns.Url.Domain.Mapping
import StagedRuns.Url.Domain.Punycode

/-!
Domains, whose labels are between dots. A domain is asked for in ASCII, so a label with other
characters is spelled in Punycode. Before that its characters are replaced by what they stand for,
and it is put into its composed form.
-/

namespace StagedRuns.Url.Domain

def maxLabelLength : Nat := 1000

def maxSpellingLength : Nat := 2000

/-- The label that a text stands for. What is spelled in Punycode could not be spelled otherwise. -/
def label? : List Char → Option (List Char)
  | 'x' :: 'n' :: '-' :: '-' :: spelling =>
      if maxSpellingLength < spelling.length then none
      else do
        let text ← Punycode.decode? spelling
        if text.all Punycode.isAscii || composed text ≠ text then none else some text
  | text => some text

/-- Whether a label can be in a domain. It does not begin with a mark, its characters stand for
themselves, and joiners are where they have a meaning. -/
def isSound (label : List Char) : Bool :=
  !label.head?.any Text.isMark && label.all isPlain && hasJoinersInPlace [] label &&
    (label.all Punycode.isAscii || label.length ≤ maxLabelLength)

def spelled (label : List Char) : List Char :=
  if label.all Punycode.isAscii then label else "xn--".toList ++ Punycode.encode label

def toAscii? (text : List Char) : Option (List Char) := do
  let images ← text.mapM image?
  let labels ← ((composed images.flatten).splitOn '.').mapM label?
  if labels.all isSound && canMix labels then some (['.'].intercalate (labels.map spelled))
  else none

end StagedRuns.Url.Domain
