import StagedRuns.Json.Record
import StagedRuns.Run.Basic

/-!
Reading runs. What a run is made of is read alike from JSON and from other data with records. Most
fields may be missing and are then empty.
-/

namespace StagedRuns

namespace Run

open StagedRuns.RecordData (text list dictionary nullable record)

variable {Data : Type} {m : Type → Type} [Monad m] [RecordData Data m]

def texts : Data → m (List String) :=
  list text

def Variable.read (data : Data) : m Variable := do
  let fields ← record ["name", "value"] data
  let name ← fields.required "name" text
  let value ← fields.required "value" text
  return { name, value }

def Step.read (data : Data) : m Step := do
  let fields ←
    record ["name", "image", "command", "args", "env", "workingDir", "script"] data
  let name ← fields.withDefault "name" "" text
  let image ← fields.required "image" text
  let command ← fields.withDefault "command" [] texts
  let args ← fields.withDefault "args" [] texts
  let env ← fields.withDefault "env" [] (list Variable.read)
  let workingDir ← fields.withDefault "workingDir" "" text
  let script ← fields.withDefault "script" "" text
  return { name, image, command, args, env, workingDir, script }

def readDeclaration (data : Data) : m String := do
  let fields ← record ["name"] data
  fields.required "name" text

def TaskSpec.read (data : Data) : m TaskSpec := do
  let fields ← record ["workspaces", "steps"] data
  let workspaces ← fields.withDefault "workspaces" [] (list readDeclaration)
  let steps ← fields.withDefault "steps" [] (list Step.read)
  return { workspaces, steps }

def TaskRef.read (data : Data) : m TaskRef := do
  let fields ← record ["name", "kind"] data
  let name ← fields.required "name" text
  let kind ← fields.withDefault "kind" "" text
  return { name, kind }

def Param.read (data : Data) : m Param := do
  let fields ← record ["name", "value"] data
  let name ← fields.required "name" text
  let value ← fields.required "value" text
  return { name, value }

def NodeWorkspace.read (data : Data) : m NodeWorkspace := do
  let fields ← record ["name", "workspace"] data
  let name ← fields.required "name" text
  let workspace ← fields.required "workspace" text
  return { name, workspace }

def Node.read (data : Data) : m Node := do
  let fields ←
    record ["name", "runAfter", "workspaces", "taskRef", "params", "taskSpec"] data
  let name ← fields.required "name" text
  let runAfter ← fields.withDefault "runAfter" [] texts
  let workspaces ← fields.withDefault "workspaces" [] (list NodeWorkspace.read)
  let taskRef ← fields.withDefault "taskRef" none (nullable TaskRef.read)
  let params ← fields.withDefault "params" [] (list Param.read)
  let taskSpec ← fields.withDefault "taskSpec" none (nullable TaskSpec.read)
  return { name, runAfter, workspaces, taskRef, params, taskSpec }

def ParamSpec.read (data : Data) : m ParamSpec := do
  let fields ← record ["name", "type", "description"] data
  let name ← fields.required "name" text
  let type ← fields.withDefault "type" "" text
  let description ← fields.withDefault "description" "" text
  return { name, type, description }

def Graph.read (data : Data) : m Graph := do
  let fields ← record ["params", "workspaces", "tasks"] data
  let params ← fields.withDefault "params" [] (list ParamSpec.read)
  let workspaces ← fields.withDefault "workspaces" [] (list readDeclaration)
  let nodes ← fields.withDefault "tasks" [] (list Node.read)
  return { params, workspaces, nodes }

def readClaim (data : Data) : m String := do
  let fields ← record ["claimName"] data
  fields.required "claimName" text

def Workspace.read (data : Data) : m Workspace := do
  let fields ← record ["name", "persistentVolumeClaim"] data
  let name ← fields.required "name" text
  let claimName ← fields.required "persistentVolumeClaim" readClaim
  return { name, claimName }

def Spec.read (data : Data) : m Spec := do
  let fields ← record ["serviceAccountName", "params", "workspaces", "pipelineSpec"] data
  let serviceAccountName ← fields.withDefault "serviceAccountName" "" text
  let params ← fields.withDefault "params" [] (list Param.read)
  let workspaces ← fields.withDefault "workspaces" [] (list Workspace.read)
  let graph ← fields.withDefault "pipelineSpec" .empty Graph.read
  return { serviceAccountName, params, workspaces, graph }

def Metadata.read (data : Data) : m Metadata := do
  let fields ← record
    ["name", "generateName", "namespace", "resourceVersion", "labels", "annotations"] data
  let name ← fields.withDefault "name" none (nullable text)
  let generateName ← fields.withDefault "generateName" none (nullable text)
  let space ← fields.withDefault "namespace" none (nullable text)
  let resourceVersion ← fields.withDefault "resourceVersion" none (nullable text)
  let labels ← fields.withDefault "labels" .empty (dictionary text)
  let annotations ← fields.withDefault "annotations" .empty (dictionary text)
  return { name, generateName, space, resourceVersion, labels, annotations }

def Condition.read (data : Data) : m Condition := do
  let fields ← record ["type", "status", "reason"] data
  let type ← fields.required "type" text
  let status ← fields.required "status" text
  let reason ← fields.withDefault "reason" none (nullable text)
  return { type, status, reason }

def Status.read (data : Data) : m Status := do
  let fields ← record ["conditions"] data
  let conditions ← fields.withDefault "conditions" [] (list Condition.read)
  return { conditions }

def read (data : Data) : m Run := do
  let fields ← record ["apiVersion", "kind", "metadata", "spec", "status"] data
  let apiVersion ← fields.required "apiVersion" text
  let kind ← fields.required "kind" text
  let metadata ← fields.required "metadata" Metadata.read
  let spec ← fields.required "spec" Spec.read
  let status ← fields.withDefault "status" none (nullable Status.read)
  return { apiVersion, kind, metadata, spec, status }

def ofJson? (value : Json) : Option Run :=
  read value

end Run

end StagedRuns
