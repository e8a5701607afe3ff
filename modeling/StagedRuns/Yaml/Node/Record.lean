import StagedRuns.Record
import StagedRuns.Yaml.Node.Follow
import StagedRuns.Yaml.Value.Plain

/-!
Records in YAML nodes. Here the kind of a scalar does not matter: any scalar is a text, and an
empty plain one stands for the list, the dictionary or the record without content. Unknown keys
and their values are passed over, and no known key occurs twice.
-/

namespace StagedRuns.Yaml.Node

variable {α : Type}

def text (node : Node) : Following String := do
  match ← node.follow with
  | .scalar _ _ content => return content
  | _ => throw ⟨"a text is wanted"⟩

def isMissing : Node → Bool
  | .scalar _ true "" => true
  | _ => false

def list (decode : Node → Following α) (node : Node) : Following (List α) := do
  match ← node.follow with
  | .sequence _ items => items.mapM decode
  | other => if other.isMissing then return [] else throw ⟨"a sequence is wanted"⟩

def entries (node : Node) : Following (List (String × Node)) := do
  match ← node.follow with
  | .mapping _ entries => entries.mapM fun entry => do return (← entry.1.text, entry.2)
  | other => if other.isMissing then return [] else throw ⟨"a mapping is wanted"⟩

def dictionary (decode : Node → Following α) (node : Node) : Following (Dictionary α) := do
  let bindings ← (← node.entries).mapM fun entry => do return (entry.1, ← decode entry.2)
  return Dictionary.ofList bindings

def nullable (decode : Node → Following α) (node : Node) : Following (Option α) := do
  let node ← node.follow
  match node with
  | .scalar none true content =>
      if content = "" ∨ Plain.isNull content then return none else some <$> decode node
  | .scalar (some tag) true content =>
      if tag ≠ Tag.null then some <$> decode node
      else if Plain.isNull content then return none
      else throw ⟨"null is wanted"⟩
  | _ => some <$> decode node

def record (names : List String) (node : Node) : Following (Record Node) := do
  let known := (← node.entries).filter fun entry => names.contains entry.1
  if (known.map (·.1)).Nodup then return ⟨false, known⟩
  else throw ⟨"a field occurs twice"⟩

instance : RecordData Node Following where
  text := text
  list := list
  dictionary := dictionary
  nullable := nullable
  record := record
  missing := fun name => throw ⟨"the field " ++ name ++ " is missing"⟩

end StagedRuns.Yaml.Node
