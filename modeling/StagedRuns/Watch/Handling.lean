import StagedRuns.Client.Engine
import StagedRuns.Client.SourceHost
import StagedRuns.Run.State
import StagedRuns.Text.Quoted
import StagedRuns.Watch.Repository

/-!
Handling a run as it was listed: if its state is not the one that was reported last, the state is
reported for its commit, and then noted on the run. What was not reported is not noted.
-/

namespace StagedRuns.Watch

/-- Why a run could not be handled. Times are in milliseconds. -/
inductive WatchError where
  | unannotated (run key : String)
  | invalidAddress (address : String)
  | notify (error : ClientError)
  | timedOut (limit : Nat)
  | update (error : ClientError)
deriving DecidableEq, Repr

/-- A time as a text: milliseconds below a second, else seconds with as many places as needed. -/
def durationText (milliseconds : Nat) : String :=
  let rest := milliseconds % 1000
  let digits := Nat.toDigits 10 (1000 + rest) |>.tail
  let places := (digits.reverse.dropWhile (· = '0')).reverse
  if milliseconds = 0 then "0ns"
  else if milliseconds < 1000 then toString milliseconds ++ "ms"
  else if rest = 0 then toString (milliseconds / 1000) ++ "s"
  else toString (milliseconds / 1000) ++ "." ++ String.ofList places ++ "s"

def WatchError.message : WatchError → String
  | .unannotated run key =>
      "pipelinerun " ++ run ++ " has no " ++ key ++ " annotation"
  | .invalidAddress address =>
      "failed to parse repository from source URL " ++ Text.quoted address
  | .notify error => "failed to send status notification: " ++ error.message
  | .timedOut limit => "status notification timed out after " ++ durationText limit
  | .update error => "failed to record notification state: " ++ error.message

inductive Outcome where
  | unchanged (state : Run.State)
  | notified (state : Run.State)
deriving DecidableEq, Repr

structure Notice where
  repository : String
  commit : String
  state : Run.State
deriving DecidableEq, Repr

/-- The value of an annotation that is needed. An empty one is as good as none. -/
def needed (run : Run) (key : String) : Except WatchError String :=
  match (run.annotation? key).filter (· ≠ "") with
  | some value => .ok value
  | none => .error (.unannotated run.displayName key)

def noticeFor (run : Run) : Except WatchError Notice := do
  let address ← needed run Run.sourceUrlAnnotation
  match repositoryOf? address with
  | none => .error (.invalidAddress address)
  | some repository =>
      let commit ← needed run Run.sourceRefAnnotation
      return { repository, commit, state := .ofRun run }

def noticeOf (run : Run) : Except WatchError (Option Notice) :=
  if run.memo? = some (.ofRun run) then .ok none
  else Except.map some (noticeFor run)

def noted (run : Run) (state : Run.State) : Run :=
  run.annotate Run.memoAnnotation state.text

structure Timed (α : Type) where
  delay : Nat
  value : α

def Timed.within (answer : Timed (Except ClientError Unit)) (limit : Nat) :
    Except WatchError Unit :=
  if limit < answer.delay then .error (.timedOut limit)
  else answer.value.mapError WatchError.notify

structure Backend (m : Type → Type) where
  list : m (Except ClientError (List Run))
  notify : Notice → m (Timed (Except ClientError Unit))
  update : Run → m (Except ClientError Unit)

namespace Backend

variable {m : Type → Type} [Monad m]

def remote (transport : Http.Transport m) (engine : EngineClient) (host : SourceHostClient) :
    Backend (Client.Calling m) where
  list := engine.listRuns transport Run.labelSelector
  notify := fun notice => do
    let outcome ←
      host.createStatus transport notice.repository notice.commit notice.state.report
    return { delay := 0, value := outcome }
  update := fun run => do
    let outcome ← engine.updateRun transport run
    return outcome.map fun _ => ()

end Backend

variable {m : Type → Type} [Monad m]

def handle (backend : Backend m) (limit : Nat) (run : Run) : m (Except WatchError Outcome) := do
  match noticeOf run with
  | .error error => return .error error
  | .ok none => return .ok (.unchanged (.ofRun run))
  | .ok (some notice) =>
      match (← backend.notify notice).within limit with
      | .error error => return .error error
      | .ok () =>
          match ← backend.update (noted run notice.state) with
          | .error error => return .error (.update error)
          | .ok () => return .ok (.notified notice.state)

end StagedRuns.Watch
