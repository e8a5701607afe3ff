import StagedRuns.Pipeline.Basic
import StagedRuns.Run.Basic
import StagedRuns.Text.Quoted
import StagedRuns.Webhook.Context

/-!
The nodes that pipelines are made into. All nodes share a workspace, into which the first one
checks the repository out.
-/

namespace StagedRuns

structure Settings where
  archiverImage : String
  archiveUrl : String
  runPrefix : String
  serviceAccount : String
  volumeSize : String
deriving DecidableEq, Repr, Inhabited

inductive PlanError where
  | expression (error : Expr.Error)
  | missingContext (task parameter : String)

def PlanError.message : PlanError → String
  | .expression error => error.message
  | .missingContext task parameter =>
      "task " ++ Text.quoted task ++ " has parameter " ++ Text.quoted parameter ++
        " but no expression context is available"

namespace Plan

open StagedRuns.Run (Node Step TaskSpec Variable)

def workspace : String := "git-checkout"

def nodeWorkspace : String := "source"

def workspacePath : String := "$(workspaces.source.path)"

def checkoutName : String := "git-clone"

def beforeName : String := "before-step"

def afterName : String := "after-step"

/-- The environment of all nodes: the variables of the pipeline, and the place of the
workspace. -/
def baseEnv (vars : Dictionary String) : List Variable :=
  vars.toList.map (fun binding => ⟨binding.1, binding.2⟩) ++
    [⟨"CI_PROJECT_DIR", workspacePath⟩]

def jobEnv (base : List Variable) (job : Dictionary String) : List Variable :=
  base ++ job.toList.map fun binding => ⟨binding.1, binding.2⟩

/-- The environments of the variants of a task, which has one variant if it has no jobs. -/
def variantEnvs (base : List Variable) (jobs : List (Dictionary String)) :
    List (List Variable) :=
  if jobs.isEmpty then [base] else jobs.map (jobEnv base)

def bareStep (image : String) : Step :=
  { name := "", image, command := [], args := [], env := [], workingDir := "", script := "" }

def bareNode (name : String) (runAfter : List String) : Node :=
  { name, runAfter, workspaces := [⟨nodeWorkspace, workspace⟩], taskRef := none, params := []
    taskSpec := none }

def stepsNode (name : String) (runAfter : List String) (steps : List Step) : Node :=
  { bareNode name runAfter with taskSpec := some { workspaces := [nodeWorkspace], steps } }

def scriptStep (env : List Variable) (image line : String) : Step :=
  { bareStep image with
    command := ["sh"], args := ["-c", line], env, workingDir := workspacePath }

def scriptNode (name : String) (runAfter : List String) (env : List Variable) (image : String)
    (lines : List String) : Node :=
  stepsNode name runAfter (lines.map (scriptStep env image))

def checkoutNode (env : List Variable) (source : Source) : Node :=
  stepsNode checkoutName []
    [ { bareStep "gcr.io/tekton-releases/github.com/tektoncd/pipeline/cmd/git-init" with
        name := checkoutName
        command :=
          [ "/ko-app/git-init", "-url", source.repoUrl, "-revision", source.gitRef
          , "-path", workspacePath ]
        env := env ++ [⟨"TEKTON_RESOURCE_NAME", "tekton-ci-git-clone"⟩] } ]

def archiverNode (settings : Settings) (env : List Variable) (task : String)
    (paths : List String) : Node :=
  let name := task ++ "-archiver"
  stepsNode name [task]
    [ { bareStep settings.archiverImage with
        name
        args := ["archive", "--bucket-url", settings.archiveUrl] ++ paths
        env, workingDir := workspacePath } ]

/-- The name of the node of a variant of a task. Variants are counted if there are several. -/
def variantName (task stage : String) (count index : Nat) : String :=
  let name := task ++ "-stage-" ++ stage
  if 1 < count then name ++ "-" ++ toString index else name

end Plan

end StagedRuns
