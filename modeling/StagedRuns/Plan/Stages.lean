import StagedRuns.Plan.Basic

/-!
Planning the nodes of a pipeline. A node of a stage runs after the nodes that end the stage before
it; a stage without nodes does not come between its neighbours. The variants of a task are
siblings, and what archives the artifacts of a node comes right after it.
-/

namespace StagedRuns

namespace Plan

open StagedRuns.Run (Node Variable)

inductive Origin where
  | checkout
  | before
  | task (position : Nat)
  | archiver (position : Nat)
  | after
deriving DecidableEq, Repr

structure Planned where
  origin : Origin
  node : Node

structure Frame where
  pipeline : Pipeline
  settings : Settings
  context : Option Webhook.Context

namespace Frame

def env (frame : Frame) : List Variable :=
  baseEnv frame.pipeline.vars

def ruleExcludes (context : Webhook.Context) (rule : Rule) : Except PlanError Bool :=
  match context.evaluate rule.guard with
  | .ok value => .ok (value.isTrue && rule.directive = never)
  | .error error => .error (.expression error)

/-- Whether some rule takes a task out of the run. All guards are evaluated, whatever they
decide. -/
def excludes (frame : Frame) (task : Task) : Except PlanError Bool :=
  match frame.context with
  | none => .ok false
  | some context => do
      let decisions ← task.rules.mapM (ruleExcludes context)
      return decisions.any id

def param (frame : Frame) (task : String) (parameter : Parameter) :
    Except PlanError Run.Param :=
  match frame.context with
  | none => .error (.missingContext task parameter.name)
  | some context =>
      match context.evaluateText parameter.expression with
      | .ok value => .ok { name := parameter.name, value }
      | .error error => .error (.expression error)

def taskNode (frame : Frame) (frontier : List String) (task : Task) (name : String)
    (env : List Variable) : Except PlanError Node :=
  match task.taskRef? with
  | none =>
      let image := task.image?.getD frame.pipeline.image
      .ok (scriptNode name frontier env image task.script)
  | some taskRef => do
      let params ← task.parameters.mapM (frame.param task.name)
      return { bareNode name frontier with
        taskRef := some { name := taskRef, kind := "Task" }, params }

structure Variant where
  task : Planned
  archiver : Option Planned

def Variant.nodes (variant : Variant) : List Planned :=
  variant.task :: variant.archiver.toList

def Variant.exit (variant : Variant) : String :=
  (variant.archiver.getD variant.task).node.name

def variant (frame : Frame) (position : Nat) (frontier : List String) (task : Task)
    (name : String) (env : List Variable) : Except PlanError Variant := do
  let node ← frame.taskNode frontier task name env
  let archiver :=
    if task.artifacts.isEmpty then none
    else some ⟨.archiver position, archiverNode frame.settings frame.env name task.artifacts⟩
  return { task := ⟨.task position, node⟩, archiver }

def variants (frame : Frame) (position : Nat) (frontier : List String) (stage : String)
    (task : Task) : Except PlanError (List Variant) := do
  if ← frame.excludes task then return []
  else
    let envs := variantEnvs frame.env task.jobs
    envs.zipIdx.mapM fun (env, index) =>
      frame.variant position frontier task (variantName task.name stage envs.length index) env

def stage (frame : Frame) (position : Nat) (frontier : List String) (name : String) :
    Except PlanError (List Variant) := do
  let variants ← (frame.pipeline.tasksOf name).mapM (frame.variants position frontier name)
  return variants.flatten

def advance (frontier : List String) (variants : List Variant) : List String :=
  if variants.isEmpty then frontier else variants.map Variant.exit

def stages (frame : Frame) : (position : Nat) → (frontier : List String) → List String →
    Except PlanError (List Planned × List String)
  | _, frontier, [] => .ok ([], frontier)
  | position, frontier, name :: rest => do
      let variants ← frame.stage position frontier name
      let (later, last) ← frame.stages (position + 1) (advance frontier variants) rest
      return (variants.flatMap Variant.nodes ++ later, last)

def scripted (frame : Frame) (origin : Origin) (name : String) (frontier lines : List String) :
    List Planned :=
  if lines.isEmpty then []
  else [⟨origin, scriptNode name frontier frame.env frame.pipeline.image lines⟩]

def nodes (frame : Frame) (source : Source) : Except PlanError (List Planned) := do
  let pipeline := frame.pipeline
  let first := ⟨.checkout, checkoutNode frame.env source⟩
  let before := frame.scripted .before beforeName [checkoutName] pipeline.beforeScript
  let frontier := if before.isEmpty then [checkoutName] else [beforeName]
  let (staged, last) ← frame.stages 0 frontier pipeline.stages
  let after := frame.scripted .after afterName last pipeline.afterScript
  return first :: before ++ staged ++ after

end Frame

def managedBy : String := "dsl"

end Plan

namespace Pipeline

/-- The run of a pipeline for a commit, in a workspace on the volume with the given claim. Without
an event, all tasks are run, and none can have parameters. -/
def plan (pipeline : Pipeline) (settings : Settings) (source : Source) (claim : String)
    (context : Option Webhook.Context) (hookId : String) : Except PlanError Run := do
  let frame : Plan.Frame := { pipeline, settings, context }
  let nodes ← frame.nodes source
  let spec : Run.Spec :=
    { serviceAccountName := pipeline.serviceAccount?.getD settings.serviceAccount
      params := []
      workspaces := [{ name := Plan.workspace, claimName := claim }]
      graph :=
        { params := [], workspaces := [Plan.workspace], nodes := nodes.map Plan.Planned.node } }
  return (Run.new Plan.managedBy settings.runPrefix spec).correlate source hookId

end Pipeline

end StagedRuns
