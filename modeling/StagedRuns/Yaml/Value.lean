import StagedRuns.Yaml.Token

/-!
The values that a YAML document stands for, and when two of them are the same. No mapping has two
keys that are the same.
-/

namespace StagedRuns.Yaml

/-- A number: an integer of 64 bits, or a binary number. -/
inductive Number where
  | integer (value : Int)
  | binary (value : Float)

/-- Whether two numbers are the same. What is no number is the same as itself, and an integer is
the same as no binary number. -/
def Number.same : Number → Number → Bool
  | .integer left, .integer right => left == right
  | .binary left, .binary right => (left.isNaN && right.isNaN) || left == right
  | _, _ => false

inductive Value where
  | null
  | bool (value : Bool)
  | number (value : Number)
  | string (content : String)
  | sequence (items : List Value)
  | mapping (entries : List (Value × Value))
  /-- A value with a tag of the document's own. -/
  | tagged (tag : String) (value : Value)
deriving Inhabited

namespace Value

mutual

/-- Whether two values are the same. The order of the entries of a mapping does not matter. -/
def same : Value → Value → Bool
  | .null, .null => true
  | .bool left, .bool right => left == right
  | .number left, .number right => left.same right
  | .string left, .string right => left == right
  | .sequence left, .sequence right => sameItems left right
  | .mapping left, .mapping right => left.length == right.length && sameEntries left right
  | .tagged leftTag left, .tagged rightTag right => leftTag == rightTag && same left right
  | _, _ => false

def sameItems : List Value → List Value → Bool
  | [], [] => true
  | left :: lefts, right :: rights => same left right && sameItems lefts rights
  | _, _ => false

def sameEntries : List (Value × Value) → List (Value × Value) → Bool
  | [], _ => true
  | (key, value) :: rest, others =>
      others.any (fun other => same key other.1 && same value other.2) &&
        sameEntries rest others

end

def repeatsKey : List (Value × Value) → Bool
  | [] => false
  | (key, _) :: rest => rest.any (fun entry => same key entry.1) || repeatsKey rest

def untagged : Value → Value
  | .tagged _ value => untagged value
  | value => value

end Value

end StagedRuns.Yaml
