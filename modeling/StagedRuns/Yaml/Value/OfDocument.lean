import StagedRuns.Yaml.Node.Record

/-!
The value of a document. An alias stands for a copy of its node, and collections nest to a limited
depth.
-/

namespace StagedRuns.Yaml

def maxNesting : Nat := 128

namespace Value

def withTag (tag : Option Tag) (value : Value) : Value :=
  match tag.bind Tag.ownName? with
  | some name => .tagged name value
  | none => value

def ofContent (plain : Bool) (content : String) : Except Problem Value :=
  if plain then Plain.value content else .ok (.string content)

def ofScalar (tag : Option Tag) (plain : Bool) (content : String) : Except Problem Value := do
  match tag with
  | none => ofContent plain content
  | some tag =>
      if tag.isOwn then return withTag (some tag) (← ofContent plain content)
      else if tag = Tag.bool then
        match Plain.bool? content with
        | some value => return .bool value
        | none => problem "a truth value is wanted"
      else if tag = Tag.int then
        match ← Plain.usableInteger? content with
        | some value => return .number (.integer value)
        | none => problem "an integer is wanted"
      else if tag = Tag.float then
        match Plain.binary? content with
        | some value => return .number (.binary value)
        | none => problem "a number is wanted"
      else if tag = Tag.null then
        if Plain.isNull content then return .null else problem "null is wanted"
      else return .string content

def ofNode : (depth : Nat) → Node → Following Value
  | depth, node => do
      match ← node.follow with
      | .scalar tag plain content => ofScalar tag plain content
      | .sequence tag items =>
          match depth with
          | 0 => throw ⟨"collections nest too deep"⟩
          | depth + 1 => do
              let items ← items.mapM (ofNode depth)
              return withTag tag (.sequence items)
      | .mapping tag entries =>
          match depth with
          | 0 => throw ⟨"collections nest too deep"⟩
          | depth + 1 => do
              let entries ← entries.mapM fun entry => do
                let key ← ofNode depth entry.1
                let value ← ofNode depth entry.2
                return (key, value)
              if repeatsKey entries then throw ⟨"a key occurs twice"⟩
              else return withTag tag (.mapping entries)
      | .alias _ => throw ⟨"an alias is of an alias"⟩

end Value

/-- The entries of a mapping, whatever its tag; an empty plain scalar has none. -/
def entriesOf (node : Node) : Following (List (Value × Value)) := do
  match node with
  | .mapping _ entries => do
      match ← Value.ofNode maxNesting (.mapping none entries) with
      | .mapping entries => return entries
      | _ => return []
  | other => if other.isMissing then return [] else throw ⟨"a mapping is wanted"⟩

/-- The entries of the mapping that is the root of a document; none for an empty text or a root
that is null. -/
def readMapping (text : String) : Except Problem (List (Value × Value)) := do
  match ← Document.read text with
  | none => .ok []
  | some document => return (← document.run (document.root.nullable entriesOf)).getD []

end StagedRuns.Yaml
