import StagedRuns.Pipeline.Basic
import StagedRuns.Text.Quoted
import StagedRuns.Yaml.Record
import StagedRuns.Yaml.Value.OfDocument

/-!
Reading pipelines from YAML. The file is a mapping; some of its keys are about the pipeline, and
every other key is the name of a task. Without a list of stages, the stages are those of the tasks
in the order in which they occur.
-/

namespace StagedRuns

open StagedRuns.RecordData (text list dictionary nullable record)
open StagedRuns.Yaml (Problem)

inductive TaskFault where
  | undecodable (problem : Problem)
  | missingScript
  | scriptAndReference
deriving DecidableEq, Repr

inductive PipelineError where
  | undecodable (problem : Problem)
  | invalidTask (task : String) (fault : TaskFault)
  | invalidParameter (task name expression : String)
  | invalidJob (task entry : String)
deriving DecidableEq, Repr

def TaskFault.message : TaskFault → String
  | .undecodable problem => problem.reason
  | .missingScript => "missing script"
  | .scriptAndReference => "provided Tekton taskRef and script"

def PipelineError.message : PipelineError → String
  | .undecodable problem => "failed to decode YAML: " ++ problem.reason
  | .invalidTask task fault => "invalid task " ++ Text.quoted task ++ ": " ++ fault.message
  | .invalidParameter task name expression =>
      "bad Tekton task parameter in " ++ Text.quoted task ++ ": name " ++ Text.quoted name ++
        " and expr " ++ Text.quoted expression ++ " are both required"
  | .invalidJob task entry =>
      "invalid job in " ++ Text.quoted task ++ ": could not parse " ++ Text.quoted entry ++
        " as an environment variable"

structure WrittenOptions where
  taskRef : Option String
  image : Option String
  jobs : List String
  parameters : List Parameter

structure WrittenTask where
  stage : Option String
  script : List String
  rules : List Rule
  artifacts : Option (List String)
  options : Option WrittenOptions

def decodeTexts : Yaml.Value → Except Problem (List String) :=
  list text

def Rule.decode (value : Yaml.Value) : Except Problem Rule := do
  let fields ← record ["if", "when"] value
  let guard ← fields.withDefault "if" "" text
  let directive ← fields.withDefault "when" "" text
  return { guard, directive }

def Parameter.decode (value : Yaml.Value) : Except Problem Parameter := do
  let fields ← record ["name", "expr"] value
  let name ← fields.withDefault "name" "" text
  let expression ← fields.withDefault "expr" "" text
  return { name, expression }

def decodeArtifacts (value : Yaml.Value) : Except Problem (List String) := do
  let fields ← record ["paths"] value
  fields.withDefault "paths" [] decodeTexts

def WrittenOptions.decode (value : Yaml.Value) : Except Problem WrittenOptions := do
  let fields ← record ["taskRef", "image", "jobs", "params"] value
  let taskRef ← fields.withDefault "taskRef" none (nullable text)
  let image ← fields.withDefault "image" none (nullable text)
  let jobs ← fields.withDefault "jobs" [] decodeTexts
  let parameters ← fields.withDefault "params" [] (list Parameter.decode)
  return { taskRef, image, jobs, parameters }

def WrittenTask.decode (value : Yaml.Value) : Except Problem WrittenTask := do
  let fields ← record ["stage", "script", "rules", "artifacts", "tekton"] value
  let stage ← fields.withDefault "stage" none (nullable text)
  let script ← fields.withDefault "script" [] decodeTexts
  let rules ← fields.withDefault "rules" [] (list Rule.decode)
  let artifacts ← fields.withDefault "artifacts" none (nullable decodeArtifacts)
  let options ← fields.withDefault "tekton" none (nullable WrittenOptions.decode)
  return { stage, script, rules, artifacts, options }

def PipelineOptions.decode (value : Yaml.Value) : Except Problem PipelineOptions := do
  let fields ← record ["serviceAccountName"] value
  let serviceAccountName ← fields.withDefault "serviceAccountName" none (nullable text)
  return { serviceAccountName }

/-- The variables of a job, which is a name and a value around the only equals sign. -/
def jobOf (task entry : String) : Except PipelineError (Dictionary String) :=
  let name := entry.toList.takeWhile (· ≠ '=')
  match entry.toList.dropWhile (· ≠ '=') with
  | _ :: value =>
      if value.contains '=' then .error (.invalidJob task entry)
      else .ok (Dictionary.empty.insert (String.ofList name) (String.ofList value))
  | [] => .error (.invalidJob task entry)

def checkParameter (task : String) (parameter : Parameter) : Except PipelineError Parameter :=
  if parameter.name = "" ∨ parameter.expression = "" then
    .error (.invalidParameter task parameter.name parameter.expression)
  else .ok parameter

def WrittenOptions.check (task : String) (written : WrittenOptions) :
    Except PipelineError TaskOptions := do
  let jobs ← written.jobs.mapM (jobOf task)
  let parameters ← written.parameters.mapM (checkParameter task)
  return { taskRef := written.taskRef, image := written.image, jobs, parameters }

def WrittenTask.check (name : String) (written : WrittenTask) : Except PipelineError Task := do
  let options ← written.options.mapM (WrittenOptions.check name)
  let task :=
    { name, stage := (present? written.stage).getD defaultStage, script := written.script
      rules := written.rules, artifacts := written.artifacts.getD [], options }
  if task.script.isEmpty && options.isNone then .error (.invalidTask name .missingScript)
  else if !task.script.isEmpty && task.taskRef?.isSome then
    .error (.invalidTask name .scriptAndReference)
  else .ok task

def Task.read (name : String) (value : Yaml.Value) : Except PipelineError Task :=
  match WrittenTask.decode value with
  | .ok written => written.check name
  | .error problem => .error (.invalidTask name (.undecodable problem))

namespace Pipeline

def decoded {α : Type} (result : Except Problem α) : Except PipelineError α :=
  result.mapError PipelineError.undecodable

def addEntry (pipeline : Pipeline) (entry : Yaml.Value × Yaml.Value) :
    Except PipelineError Pipeline := do
  let (key, value) := entry
  match ← decoded key.asText with
  | "image" => return { pipeline with image := ← decoded (text value) }
  | "variables" =>
      return { pipeline with vars := ← decoded (dictionary text value) }
  | "before_script" => return { pipeline with beforeScript := ← decoded (decodeTexts value) }
  | "after_script" => return { pipeline with afterScript := ← decoded (decodeTexts value) }
  | "stages" => return { pipeline with stages := ← decoded (decodeTexts value) }
  | "tekton" => return { pipeline with options := some (← decoded (PipelineOptions.decode value)) }
  | name => return { pipeline with tasks := pipeline.tasks ++ [← Task.read name value] }

/-- The pipeline with stages: those it lists, else those of its tasks, else the default one. -/
def withStages (pipeline : Pipeline) : Pipeline :=
  if !pipeline.stages.isEmpty then pipeline
  else if pipeline.implicitStages.isEmpty then { pipeline with stages := [defaultStage] }
  else { pipeline with stages := pipeline.implicitStages }

def ofEntries (entries : List (Yaml.Value × Yaml.Value)) : Except PipelineError Pipeline := do
  let pipeline ← entries.foldlM addEntry Pipeline.empty
  return pipeline.withStages

def read (text : String) : Except PipelineError Pipeline := do
  ofEntries (← decoded (Yaml.readMapping text))

end Pipeline

end StagedRuns
