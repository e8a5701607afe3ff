import StagedRuns.Cli.Arguments
import StagedRuns.Config.Connection
import StagedRuns.Plan.Basic

/-!
The commands: converting a pipeline file into a run, and validating one.
-/

namespace StagedRuns.Cli

open StagedRuns.Config (Environment)

structure Conversion where
  file : String
  source : Source
  settings : Settings

inductive Command where
  | convert (conversion : Conversion)
  | validate (file : String)

namespace Conversion

def fileFlag : Flag := ⟨"pipeline-file", none, none⟩

def repositoryFlag : Flag := ⟨"repository-url", none, none⟩

def branchFlag : Flag := ⟨"branch", none, some "master"⟩

def archiverImageFlag : Flag :=
  ⟨"archiver-image", some "ARCHIVER_IMAGE", some "quay.io/kmcdermo/archiver:latest"⟩

def archiveUrlFlag : Flag := ⟨"archive-url", some "ARCHIVE_URL", some "gs://archive-bucket"⟩

def runPrefixFlag : Flag :=
  ⟨"pipelinerun-prefix", some "PIPELINERUN_PREFIX", some "test-pipelinerun-"⟩

def serviceAccountFlag : Flag :=
  ⟨"service-account", some "PIPELINERUN_SERVICE_ACCOUNT", some "default"⟩

def form : Form :=
  { flags :=
      [ fileFlag, repositoryFlag, branchFlag, archiverImageFlag, archiveUrlFlag, runPrefixFlag
      , serviceAccountFlag ]
    places := 0 }

def read (environment : Environment) (arguments : List String) : Except Refusal Conversion := do
  let given ← form.read arguments
  return {
    file := ← fileFlag.value environment given
    source :=
      { repoUrl := ← repositoryFlag.value environment given
        gitRef := ← branchFlag.value environment given }
    settings :=
      { archiverImage := ← archiverImageFlag.value environment given
        archiveUrl := ← archiveUrlFlag.value environment given
        runPrefix := ← runPrefixFlag.value environment given
        serviceAccount := ← serviceAccountFlag.value environment given
        volumeSize := "1Gi" } }

end Conversion

namespace Command

def readValidation (arguments : List String) : Except Refusal String := do
  match (← Form.read ⟨[], 1⟩ arguments).places with
  | file :: _ => .ok file
  | [] => .error .misuse

def read (environment : Environment) : List String → Except Refusal Command
  | "convert" :: arguments => (Conversion.read environment arguments).map .convert
  | "validate" :: arguments => (readValidation arguments).map .validate
  | ["help"] => .error .help
  | ["help", name] =>
      .error (if ["convert", "validate", "help"].contains name then .help else .misuse)
  | argument :: _ => .error (if Argument.of argument = .help then .help else .misuse)
  | [] => .error .misuse

def variableNames : List String :=
  Conversion.form.flags.filterMap Flag.variableName

end Command

end StagedRuns.Cli
