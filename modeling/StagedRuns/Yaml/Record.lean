import StagedRuns.Record
import StagedRuns.Yaml.Value

/-!
Records in YAML values. A record is a mapping from texts, in which unknown keys are passed over and
no known one occurs twice. Null is the record, the list or the dictionary without content. Tags
are passed over, but what bears one is not null where a value may be missing.
-/

namespace StagedRuns.Yaml

variable {α : Type}

def Value.asText (value : Value) : Except Problem String :=
  match value.untagged with
  | .string content => .ok content
  | _ => problem "a text is wanted"

def Value.asEntries (value : Value) : Except Problem (List (String × Value)) :=
  match value.untagged with
  | .mapping entries =>
      entries.mapM fun entry => do
        let key ← entry.1.asText
        return (key, entry.2)
  | .null => .ok []
  | _ => problem "a mapping is wanted"

def listOf (decode : Value → Except Problem α) (value : Value) : Except Problem (List α) :=
  match value.untagged with
  | .sequence items => items.mapM decode
  | .null => .ok []
  | _ => problem "a sequence is wanted"

def dictionaryOf (decode : Value → Except Problem α) (value : Value) :
    Except Problem (Dictionary α) := do
  let entries ← value.asEntries
  let bindings ← entries.mapM fun entry => do
    let value ← decode entry.2
    return (entry.1, value)
  return Dictionary.ofList bindings

def nullable (decode : Value → Except Problem α) : Value → Except Problem (Option α)
  | .null => .ok none
  | value => do
      let value ← decode value
      return some value

def readRecord (names : List String) (value : Value) : Except Problem (Record Value) := do
  let entries ← value.asEntries
  let known := entries.filter fun entry => names.contains entry.1
  if (known.map (·.1)).Nodup then .ok ⟨false, known⟩
  else problem "a field occurs twice"

instance : RecordData Value (Except Problem) where
  text := Value.asText
  list := listOf
  dictionary := dictionaryOf
  nullable := nullable
  record := readRecord
  missing := fun name => problem ("the field " ++ name ++ " is missing")

end StagedRuns.Yaml
