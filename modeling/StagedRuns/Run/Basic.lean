import StagedRuns.Dictionary

/-!
Runs as the engine knows them: metadata, a specification with the graph of nodes that are executed,
and the status that the engine reports.
-/

namespace StagedRuns

namespace Run

structure Variable where
  name : String
  value : String
deriving DecidableEq, Repr, Inhabited

structure Step where
  name : String
  image : String
  command : List String
  args : List String
  env : List Variable
  workingDir : String
  script : String
deriving DecidableEq, Repr, Inhabited

structure TaskSpec where
  workspaces : List String
  steps : List Step
deriving DecidableEq, Repr, Inhabited

structure TaskRef where
  name : String
  kind : String
deriving DecidableEq, Repr, Inhabited

structure Param where
  name : String
  value : String
deriving DecidableEq, Repr, Inhabited

structure NodeWorkspace where
  name : String
  workspace : String
deriving DecidableEq, Repr, Inhabited

structure Node where
  name : String
  runAfter : List String
  workspaces : List NodeWorkspace
  taskRef : Option TaskRef
  params : List Param
  taskSpec : Option TaskSpec
deriving DecidableEq, Repr, Inhabited

structure ParamSpec where
  name : String
  type : String
  description : String
deriving DecidableEq, Repr, Inhabited

structure Graph where
  params : List ParamSpec
  workspaces : List String
  nodes : List Node
deriving DecidableEq, Repr, Inhabited

structure Workspace where
  name : String
  claimName : String
deriving DecidableEq, Repr, Inhabited

structure Spec where
  serviceAccountName : String
  params : List Param
  workspaces : List Workspace
  graph : Graph
deriving DecidableEq, Repr, Inhabited

structure Metadata where
  name : Option String
  generateName : Option String
  space : Option String
  resourceVersion : Option String
  labels : Dictionary String
  annotations : Dictionary String
deriving DecidableEq, Inhabited

structure Condition where
  type : String
  status : String
  reason : Option String
deriving DecidableEq, Repr, Inhabited

structure Status where
  conditions : List Condition
deriving DecidableEq, Repr, Inhabited

def Graph.empty : Graph :=
  { params := [], workspaces := [], nodes := [] }

def Spec.empty : Spec :=
  { serviceAccountName := "", params := [], workspaces := [], graph := .empty }

def Metadata.empty : Metadata :=
  { name := none, generateName := none, space := none, resourceVersion := none
    labels := .empty, annotations := .empty }

end Run

structure Run where
  apiVersion : String
  kind : String
  metadata : Run.Metadata
  spec : Run.Spec
  status : Option Run.Status
deriving DecidableEq, Inhabited

structure Source where
  repoUrl : String
  gitRef : String
deriving DecidableEq, Repr, Inhabited

namespace Run

def partOfLabel : String := "app.kubernetes.io/part-of"

def partOfValue : String := "Tekton-CI"

def managedByLabel : String := "app.kubernetes.io/managed-by"

def sourceUrlAnnotation : String := "tekton.dev/ci-source-url"

def sourceRefAnnotation : String := "tekton.dev/ci-source-ref"

def hookIdAnnotation : String := "tekton.dev/ci-hook-id"

/-- The annotation with the state that was reported last. -/
def memoAnnotation : String := "tekton.dev/ci-notification-state"

def labelSelector : String :=
  partOfLabel ++ "=" ++ partOfValue

def new (component generateName : String) (spec : Spec) : Run :=
  { apiVersion := "tekton.dev/v1"
    kind := "PipelineRun"
    metadata :=
      { Metadata.empty with
        generateName := some generateName
        labels := Dictionary.ofList
          [(managedByLabel, component), (partOfLabel, partOfValue)]
        annotations := Dictionary.ofList
          [("tekton.dev/git-status", "true"), ("tekton.dev/status-context", "tekton-ci")] }
    spec
    status := none }

def annotation? (run : Run) (key : String) : Option String :=
  run.metadata.annotations.get? key

def annotate (run : Run) (key value : String) : Run :=
  { run with
    metadata := { run.metadata with annotations := run.metadata.annotations.insert key value } }

def correlate (run : Run) (source : Source) (hookId : String) : Run :=
  ((run.annotate sourceUrlAnnotation source.repoUrl).annotate
    sourceRefAnnotation source.gitRef).annotate hookIdAnnotation hookId

def succeeded? (run : Run) : Option String := do
  let status ← run.status
  let condition ← status.conditions.find? (·.type = "Succeeded")
  return condition.status

/-- The name of a run, or else the beginning of the name that it will get. -/
def displayName (run : Run) : String :=
  (run.metadata.name <|> run.metadata.generateName).getD "<unnamed>"

end Run

end StagedRuns
