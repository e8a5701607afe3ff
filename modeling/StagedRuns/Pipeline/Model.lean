import StagedRuns.Json.Record
import StagedRuns.Pipeline.Basic

/-!
Pipelines as JSON. All fields are required but those of rules and artifacts, and what may be
missing is null.
-/

namespace StagedRuns

def Rule.ofJson? (value : Json) : Option Rule := do
  let record ← Json.record? ["if", "when"] value
  let guard ← record.withDefault "if" "" Json.asString?
  let directive ← record.withDefault "when" "" Json.asString?
  return { guard, directive }

def Rule.toJson (rule : Rule) : Json :=
  .object [("if", .string rule.guard), ("when", .string rule.directive)]

def Parameter.ofJson? (value : Json) : Option Parameter := do
  let record ← Json.record? ["name", "expr"] value
  let name ← record.required "name" Json.asString?
  let expression ← record.required "expr" Json.asString?
  return { name, expression }

def Parameter.toJson (parameter : Parameter) : Json :=
  .object [("name", .string parameter.name), ("expr", .string parameter.expression)]

def TaskOptions.ofJson? (value : Json) : Option TaskOptions := do
  let record ← Json.record? ["task_ref", "image", "jobs", "params"] value
  let taskRef ← record.optional "task_ref" Json.asString?
  let image ← record.optional "image" Json.asString?
  let jobs ← record.required "jobs" (Json.listOf (Json.dictionaryOf Json.asString?))
  let parameters ← record.required "params" (Json.listOf Parameter.ofJson?)
  return { taskRef, image, jobs, parameters }

def TaskOptions.toJson (options : TaskOptions) : Json :=
  .object
    [ ("task_ref", Json.optionalString options.taskRef)
    , ("image", Json.optionalString options.image)
    , ("jobs", .array (options.jobs.map (Json.ofDictionary Json.string)))
    , ("params", .array (options.parameters.map Parameter.toJson)) ]

def artifactsOfJson? (value : Json) : Option (List String) := do
  let record ← Json.record? ["paths"] value
  record.withDefault "paths" [] (Json.listOf Json.asString?)

def Task.ofJson? (value : Json) : Option Task := do
  let record ← Json.record? ["name", "stage", "script", "rules", "artifacts", "tekton"] value
  let name ← record.required "name" Json.asString?
  let stage ← record.required "stage" Json.asString?
  let script ← record.required "script" (Json.listOf Json.asString?)
  let rules ← record.required "rules" (Json.listOf Rule.ofJson?)
  let artifacts ← record.required "artifacts" artifactsOfJson?
  let options ← record.optional "tekton" TaskOptions.ofJson?
  return { name, stage, script, rules, artifacts, options }

def Task.toJson (task : Task) : Json :=
  .object
    [ ("name", .string task.name), ("stage", .string task.stage)
    , ("script", Json.strings task.script)
    , ("rules", .array (task.rules.map Rule.toJson))
    , ("artifacts", .object [("paths", Json.strings task.artifacts)])
    , ("tekton", task.options.elim .null TaskOptions.toJson) ]

def PipelineOptions.ofJson? (value : Json) : Option PipelineOptions := do
  let record ← Json.record? ["service_account_name"] value
  let serviceAccountName ← record.optional "service_account_name" Json.asString?
  return { serviceAccountName }

def PipelineOptions.toJson (options : PipelineOptions) : Json :=
  .object [("service_account_name", Json.optionalString options.serviceAccountName)]

def Pipeline.ofJson? (value : Json) : Option Pipeline := do
  let record ← Json.record?
    ["image", "variables", "before_script", "after_script", "stages", "tasks", "tekton"] value
  let image ← record.required "image" Json.asString?
  let vars ← record.required "variables" (Json.dictionaryOf Json.asString?)
  let beforeScript ← record.required "before_script" (Json.listOf Json.asString?)
  let afterScript ← record.required "after_script" (Json.listOf Json.asString?)
  let stages ← record.required "stages" (Json.listOf Json.asString?)
  let tasks ← record.required "tasks" (Json.listOf Task.ofJson?)
  let options ← record.optional "tekton" PipelineOptions.ofJson?
  return { image, vars, beforeScript, afterScript, stages, tasks, options }

def Pipeline.toJson (pipeline : Pipeline) : Json :=
  .object
    [ ("image", .string pipeline.image)
    , ("variables", Json.ofDictionary Json.string pipeline.vars)
    , ("before_script", Json.strings pipeline.beforeScript)
    , ("after_script", Json.strings pipeline.afterScript)
    , ("stages", Json.strings pipeline.stages)
    , ("tasks", .array (pipeline.tasks.map Task.toJson))
    , ("tekton", pipeline.options.elim .null PipelineOptions.toJson) ]

end StagedRuns
