import StagedRuns.Json.Record
import StagedRuns.Run.Basic

/-!
Writing runs as JSON. Optional texts and lists that are empty are left out, workspaces, nodes,
steps, labels and annotations are always there.
-/

namespace StagedRuns

namespace Run

open StagedRuns.Json (unlessEmpty unlessBlank ifPresent)

def Variable.toJson (v : Variable) : Json :=
  .object [("name", .string v.name), ("value", .string v.value)]

def Step.toJson (step : Step) : Json :=
  .object
    (unlessBlank "name" step.name ++ [("image", .string step.image)] ++
      unlessEmpty "command" Json.string step.command ++
      unlessEmpty "args" Json.string step.args ++
      unlessEmpty "env" Variable.toJson step.env ++
      unlessBlank "workingDir" step.workingDir ++ unlessBlank "script" step.script)

def declarationToJson (name : String) : Json :=
  .object [("name", .string name)]

def TaskSpec.toJson (spec : TaskSpec) : Json :=
  .object
    [ ("workspaces", .array (spec.workspaces.map declarationToJson))
    , ("steps", .array (spec.steps.map Step.toJson)) ]

def TaskRef.toJson (ref : TaskRef) : Json :=
  .object [("name", .string ref.name), ("kind", .string ref.kind)]

def Param.toJson (param : Param) : Json :=
  .object [("name", .string param.name), ("value", .string param.value)]

def NodeWorkspace.toJson (workspace : NodeWorkspace) : Json :=
  .object [("name", .string workspace.name), ("workspace", .string workspace.workspace)]

def Node.toJson (node : Node) : Json :=
  .object
    ([("name", .string node.name)] ++ unlessEmpty "runAfter" Json.string node.runAfter ++
      unlessEmpty "workspaces" NodeWorkspace.toJson node.workspaces ++
      ifPresent "taskRef" TaskRef.toJson node.taskRef ++
      unlessEmpty "params" Param.toJson node.params ++
      ifPresent "taskSpec" TaskSpec.toJson node.taskSpec)

def ParamSpec.toJson (spec : ParamSpec) : Json :=
  .object
    ([("name", .string spec.name)] ++ unlessBlank "type" spec.type ++
      unlessBlank "description" spec.description)

def Graph.toJson (graph : Graph) : Json :=
  .object
    (unlessEmpty "params" ParamSpec.toJson graph.params ++
      [ ("workspaces", .array (graph.workspaces.map declarationToJson))
      , ("tasks", .array (graph.nodes.map Node.toJson)) ])

def Workspace.toJson (workspace : Workspace) : Json :=
  .object
    [ ("name", .string workspace.name)
    , ("persistentVolumeClaim", .object [("claimName", .string workspace.claimName)]) ]

def Spec.toJson (spec : Spec) : Json :=
  .object
    (unlessBlank "serviceAccountName" spec.serviceAccountName ++
      unlessEmpty "params" Param.toJson spec.params ++
      [ ("workspaces", .array (spec.workspaces.map Workspace.toJson))
      , ("pipelineSpec", spec.graph.toJson) ])

def Metadata.toJson (metadata : Metadata) : Json :=
  .object
    (ifPresent "name" Json.string metadata.name ++
      ifPresent "generateName" Json.string metadata.generateName ++
      ifPresent "namespace" Json.string metadata.space ++
      ifPresent "resourceVersion" Json.string metadata.resourceVersion ++
      [ ("labels", Json.ofDictionary Json.string metadata.labels)
      , ("annotations", Json.ofDictionary Json.string metadata.annotations) ])

def Condition.toJson (condition : Condition) : Json :=
  .object
    ([("type", .string condition.type), ("status", .string condition.status)] ++
      ifPresent "reason" Json.string condition.reason)

def Status.toJson (status : Status) : Json :=
  .object [("conditions", .array (status.conditions.map Condition.toJson))]

def toJson (run : Run) : Json :=
  .object
    ([ ("apiVersion", .string run.apiVersion), ("kind", .string run.kind)
     , ("metadata", run.metadata.toJson), ("spec", run.spec.toJson) ] ++
      ifPresent "status" Status.toJson run.status)

end Run

end StagedRuns
