import StagedRuns.Cli.Command
import StagedRuns.Cli.Directory
import StagedRuns.Pipeline.Read
import StagedRuns.Pipeline.Summary
import StagedRuns.Plan.Stages
import StagedRuns.Run.Write
import StagedRuns.Yaml.Printer

/-!
What the program does with a command, and what it prints. A conversion happens without an event:
rules take no task out of the run, and a task with parameters makes it fail.
-/

namespace StagedRuns.Cli

open StagedRuns.Config (Environment)

inductive Failure where
  | unreadable (path : String) (fault : FileFault)
  | undecodable (path : String) (error : PipelineError)
  | unplanned (error : PlanError)

namespace Failure

def context : Failure → String
  | .unreadable path _ => "Failed to read pipeline file: " ++ path
  | .undecodable path _ => "Failed to decode pipeline file: " ++ path
  | .unplanned _ => "Failed to compile pipeline"

def causes : Failure → List String
  | .unreadable _ fault => [fault.message]
  | .undecodable _ (.undecodable problem) =>
      [(PipelineError.undecodable problem).message, problem.reason]
  | .undecodable _ error => [error.message]
  | .unplanned error => [error.message]

/-- A text with all lines but the first one further in. -/
def hanging (indent : String) (text : String) : String :=
  String.ofList
    (text.toList.flatMap fun c => if c = '\n' then '\n' :: indent.toList else [c])

def numbered (cause : String) (index : Nat) : String :=
  "    " ++ toString index ++ ": " ++ hanging "       " cause ++ "\n"

def causeLines : List String → String
  | [] => ""
  | [cause] => "\n\nCaused by:\n    " ++ hanging "    " cause ++ "\n"
  | causes =>
      "\n\nCaused by:\n" ++ String.join (causes.zipIdx.map fun (cause, index) =>
        numbered cause index)

def report (failure : Failure) : String :=
  "Error: " ++ failure.context ++ causeLines failure.causes

end Failure

inductive Outcome where
  | converted (run : Run)
  | validated (file : String) (pipeline : Pipeline)
  | refused (refusal : Refusal)
  | failed (failure : Failure)

def usage : String :=
  "Usage: stagecoach convert --pipeline-file <FILE> --repository-url <URL> [OPTIONS]\n" ++
    "       stagecoach validate <FILE>\n"

namespace Outcome

def output : Outcome → String
  | .converted run => Yaml.Printer.print run.toJson
  | .validated file pipeline => "✓ " ++ file ++ " is valid\n\n" ++ pipeline.summary
  | .refused .help => usage
  | .refused .misuse => ""
  | .failed _ => ""

def errorOutput : Outcome → String
  | .refused .misuse => usage
  | .failed failure => failure.report
  | _ => ""

def exitCode : Outcome → Nat
  | .refused .misuse => 2
  | .failed _ => 1
  | _ => 0

end Outcome

def volumeClaim : String := "shared-task-storage"

def deliveryName : String := "unique-id"

def pipelineOf (path : String) (content : Except FileFault (List UInt8)) :
    Except Failure Pipeline := do
  let bytes ← content.mapError (.unreadable path)
  let text ← (Text.Utf8.decode bytes).mapError fun _ => .unreadable path .encoding
  (Pipeline.read text).mapError (.undecodable path)

def Conversion.run (conversion : Conversion) (pipeline : Pipeline) : Except Failure Run :=
  (pipeline.plan conversion.settings conversion.source volumeClaim none deliveryName).mapError
    .unplanned

namespace Command

def file : Command → String
  | .convert conversion => conversion.file
  | .validate file => file

def outcome (pipeline : Pipeline) : Command → Outcome
  | .convert conversion =>
      match conversion.run pipeline with
      | .ok run => .converted run
      | .error failure => .failed failure
  | .validate file => .validated file pipeline

end Command

def execute {m : Type → Type} [Monad m]
    (readFile : String → m (Except FileFault (List UInt8))) (environment : Environment)
    (arguments : List String) : m Outcome := do
  match Command.read environment arguments with
  | .error refusal => return .refused refusal
  | .ok command =>
      match pipelineOf command.file (← readFile command.file) with
      | .ok pipeline => return command.outcome pipeline
      | .error failure => return .failed failure

end StagedRuns.Cli
