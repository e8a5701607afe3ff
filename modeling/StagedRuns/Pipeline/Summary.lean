import StagedRuns.Pipeline.Basic

/-!
A pipeline at a glance: its stages in order, each with its tasks and what is special about them,
and a warning about tasks that no stage runs.
-/

namespace StagedRuns

namespace Task

def notes (task : Task) : List String :=
  (task.taskRef?.toList.map fun name => "taskRef " ++ name) ++
    (if task.jobs.isEmpty then [] else [s!"{task.jobs.length} jobs"]) ++
    (if task.rules.isEmpty then [] else [s!"{task.rules.length} rule(s)"]) ++
    (if task.artifacts.isEmpty then [] else ["artifacts"])

def summaryLine (task : Task) : String :=
  let notes :=
    match task.notes with
    | [] => ""
    | notes => " (" ++ ", ".intercalate notes ++ ")"
  "    - " ++ task.name ++ notes

end Task

namespace Pipeline

/-- The tasks whose stage is not declared, in the order in which they are declared. -/
def neverRun (pipeline : Pipeline) : List Task :=
  pipeline.tasks.filter fun task => !pipeline.stages.contains task.stage

def stageLines (pipeline : Pipeline) (stage : String) : List String :=
  ("  " ++ stage) :: (pipeline.tasksOf stage).map Task.summaryLine

def summaryLines (pipeline : Pipeline) : List String :=
  (if pipeline.image = "" then [] else ["Image: " ++ pipeline.image]) ++
    [s!"Pipeline: {pipeline.stages.length} stage(s), {pipeline.tasks.length} task(s)"] ++
    pipeline.stages.flatMap pipeline.stageLines ++
    match pipeline.neverRun with
    | [] => []
    | tasks =>
        [ "Warning: tasks in undeclared stages are never run: " ++
            ", ".intercalate (tasks.map Task.name) ]

def summary (pipeline : Pipeline) : String :=
  String.join (pipeline.summaryLines.map (· ++ "\n"))

end Pipeline

end StagedRuns
