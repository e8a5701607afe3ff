import StagedRuns.Dictionary

/-!
Pipelines. A pipeline has stages in the order in which they run, and tasks, each in a stage. A
task runs the lines of a script or refers to a task that the engine knows. Guards of its rules
may take it out of a run.
-/

namespace StagedRuns

structure Rule where
  guard : String
  directive : String
deriving DecidableEq, Repr, Inhabited

structure Parameter where
  name : String
  expression : String
deriving DecidableEq, Repr, Inhabited

/-- What a task says about its execution. An empty reference or image is none. -/
structure TaskOptions where
  taskRef : Option String
  image : Option String
  jobs : List (Dictionary String)
  parameters : List Parameter
deriving DecidableEq, Inhabited

structure Task where
  name : String
  stage : String
  script : List String
  rules : List Rule
  artifacts : List String
  options : Option TaskOptions
deriving DecidableEq, Inhabited

structure PipelineOptions where
  serviceAccountName : Option String
deriving DecidableEq, Repr, Inhabited

structure Pipeline where
  image : String
  vars : Dictionary String
  beforeScript : List String
  afterScript : List String
  stages : List String
  tasks : List Task
  options : Option PipelineOptions
deriving DecidableEq, Inhabited

def never : String := "never"

def defaultStage : String := "default"

def present? (text : Option String) : Option String :=
  text.filter (· ≠ "")

namespace Task

def taskRef? (task : Task) : Option String :=
  task.options.bind fun options => present? options.taskRef

def image? (task : Task) : Option String :=
  task.options.bind fun options => present? options.image

def jobs (task : Task) : List (Dictionary String) :=
  task.options.elim [] TaskOptions.jobs

def parameters (task : Task) : List Parameter :=
  task.options.elim [] TaskOptions.parameters

end Task

namespace Pipeline

def empty : Pipeline :=
  { image := "", vars := .empty, beforeScript := [], afterScript := [], stages := []
    tasks := [], options := none }

def tasksOf (pipeline : Pipeline) (stage : String) : List Task :=
  pipeline.tasks.filter (·.stage = stage)

def task? (pipeline : Pipeline) (name : String) : Option Task :=
  pipeline.tasks.find? (·.name = name)

/-- The stages of the tasks, each where it occurs first. -/
def implicitStages (pipeline : Pipeline) : List String :=
  (pipeline.tasks.map Task.stage).foldl
    (fun stages stage => if stages.contains stage then stages else stages ++ [stage]) []

def serviceAccount? (pipeline : Pipeline) : Option String :=
  pipeline.options.bind fun options => present? options.serviceAccountName

end Pipeline

end StagedRuns
