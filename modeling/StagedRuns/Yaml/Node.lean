import StagedRuns.Yaml.Tag

/-!
The nodes of a YAML document: scalars, sequences and mappings as they are written, each perhaps
with a tag, and aliases of nodes that stand elsewhere.
-/

namespace StagedRuns.Yaml

inductive Node where
  | alias (anchor : Nat)
  /-- A scalar; `plain` if it stands without quotes and in no block of its own. -/
  | scalar (tag : Option Tag) (plain : Bool) (content : String)
  | sequence (tag : Option Tag) (items : List Node)
  | mapping (tag : Option Tag) (entries : List (Node × Node))
deriving Repr, Inhabited

namespace Node

def missing : Node := .scalar none true ""

mutual

/-- How many events it takes to tell of a node: one for a scalar or an alias, and two for the
ends of a collection. -/
def events : Node → Nat
  | .alias _ => 1
  | .scalar _ _ _ => 1
  | .sequence _ items => 2 + eventsOfItems items
  | .mapping _ entries => 2 + eventsOfEntries entries

def eventsOfItems : List Node → Nat
  | [] => 0
  | item :: rest => events item + eventsOfItems rest

def eventsOfEntries : List (Node × Node) → Nat
  | [] => 0
  | (key, value) :: rest => events key + events value + eventsOfEntries rest

end

mutual

def same : Node → Node → Bool
  | .alias left, .alias right => left == right
  | .scalar leftTag leftPlain left, .scalar rightTag rightPlain right =>
      leftTag == rightTag && leftPlain == rightPlain && left == right
  | .sequence leftTag left, .sequence rightTag right => leftTag == rightTag && sameItems left right
  | .mapping leftTag left, .mapping rightTag right => leftTag == rightTag && sameEntries left right
  | _, _ => false

def sameItems : List Node → List Node → Bool
  | [], [] => true
  | left :: lefts, right :: rights => same left right && sameItems lefts rights
  | _, _ => false

def sameEntries : List (Node × Node) → List (Node × Node) → Bool
  | [], [] => true
  | (leftKey, left) :: lefts, (rightKey, right) :: rights =>
      same leftKey rightKey && same left right && sameEntries lefts rights
  | _, _ => false

end

mutual

theorem same_iff : (left right : Node) → (same left right ↔ left = right)
  | .alias _, right => by cases right <;> simp [same]
  | .scalar _ _ _, right => by cases right <;> simp [same, and_assoc]
  | .sequence _ items, right => by cases right <;> simp [same, sameItems_iff items]
  | .mapping _ entries, right => by cases right <;> simp [same, sameEntries_iff entries]

theorem sameItems_iff : (left right : List Node) → (sameItems left right ↔ left = right)
  | [], right => by cases right <;> simp [sameItems]
  | head :: tail, right => by
      cases right <;> simp [sameItems, same_iff head, sameItems_iff tail]

theorem sameEntries_iff :
    (left right : List (Node × Node)) → (sameEntries left right ↔ left = right)
  | [], right => by cases right <;> simp [sameEntries]
  | (key, value) :: tail, right => by
      cases right <;>
        simp [sameEntries, Prod.ext_iff, same_iff key, same_iff value, sameEntries_iff tail]

end

instance : DecidableEq Node := fun left right => decidable_of_iff _ (same_iff left right)

end Node

structure Anchored where
  number : Nat
  /-- How many anchors come before. -/
  place : Nat
  node : Node
deriving DecidableEq, Repr, Inhabited

structure Document where
  root : Node
  anchored : List Anchored
deriving DecidableEq, Repr, Inhabited

/-- The node that stands for a number: of those with that number, the one that begins last. An
alias may thus stand for a node behind it. -/
def Document.anchored? (document : Document) (number : Nat) : Option Node :=
  let later : Option Anchored → Anchored → Option Anchored
    | some found, next => if found.place < next.place then some next else some found
    | none, next => some next
  ((document.anchored.filter (·.number = number)).foldl later none).map (·.node)

end StagedRuns.Yaml
