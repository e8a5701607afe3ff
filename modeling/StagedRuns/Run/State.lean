import StagedRuns.Json.Basic
import StagedRuns.Run.Basic

/-!
The state of a run as it is reported for its commit.
-/

namespace StagedRuns

namespace Run

inductive State where
  /-- The run is not complete, or the engine has reported nothing. -/
  | pending
  | failed
  | successful
  /-- The engine reported something else. -/
  | unknown
deriving DecidableEq, Repr, Inhabited

inductive CommitState where
  | pending
  | failure
  | success
  | error
deriving DecidableEq, Repr, Inhabited

namespace State

def ofRun (run : Run) : State :=
  match run.succeeded? with
  | none => .pending
  | some "True" => .successful
  | some "False" => .failed
  | some "Unknown" => .pending
  | some _ => .unknown

def text : State → String
  | .pending => "Pending"
  | .failed => "Failed"
  | .successful => "Successful"
  | .unknown => "Unknown"

def all : List State := [.pending, .failed, .successful, .unknown]

def ofText? (text : String) : Option State :=
  all.find? (·.text = text)

def unknownMessage (text : String) : String :=
  "unknown run state: " ++ text

def commitState : State → CommitState
  | .pending => .pending
  | .failed => .failure
  | .successful => .success
  | .unknown => .error

end State

def CommitState.text : CommitState → String
  | .pending => "pending"
  | .failure => "failure"
  | .success => "success"
  | .error => "error"

structure Report where
  state : CommitState
  label : String
  description : String
deriving DecidableEq, Repr

def State.report (state : State) : Report :=
  { state := state.commitState, label := "tekton-ci", description := "Tekton CI Status" }

def Report.toJson (report : Report) : Json :=
  .object
    [ ("state", .string report.state.text), ("context", .string report.label)
    , ("description", .string report.description) ]

def memo? (run : Run) : Option State :=
  run.annotation? memoAnnotation >>= State.ofText?

end Run

end StagedRuns
