import StagedRuns.Definition.Basic
import StagedRuns.Run.Read
import StagedRuns.Yaml.Node.Record

/-!
Reading definitions of runs from YAML.
-/

namespace StagedRuns

open StagedRuns.RecordData (text list nullable record)
open StagedRuns.Yaml (Node Following Problem)

def Binding.read (node : Node) : Following Binding := do
  let fields ← record ["name", "expression"] node
  let name ← fields.withDefault "name" "" text
  let expression ← fields.withDefault "expression" "" text
  return { name, expression }

namespace Definition

def ofNode (node : Node) : Following Definition := do
  let fields ← record ["expression", "param_bindings", "pipeline_run_spec"] node
  let filter ← fields.withDefault "expression" "" text
  let bindings ← fields.withDefault "param_bindings" [] (list Binding.read)
  let spec ← fields.withDefault "pipeline_run_spec" .empty Run.Spec.read
  return { filter, bindings, spec }

/-- Reads a definition from the text of a file. An empty text or null is the definition without
content. -/
def read (source : String) : Except Problem Definition := do
  match ← Yaml.Document.read source with
  | none => return empty
  | some document => return (← document.run (nullable ofNode document.root)).getD empty

def readingMessage (problem : Problem) : String :=
  "failed to decode YAML: " ++ problem.reason

end Definition

end StagedRuns
