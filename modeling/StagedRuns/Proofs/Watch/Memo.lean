import StagedRuns.Proofs.Result
import StagedRuns.Proofs.Run.Envelope
import StagedRuns.Watch.Handling

/-!
The note on a run of the state that was reported last. A run calls for a notification only if its
state is not the noted one, and what is noted can be read again.
-/

namespace StagedRuns

namespace Run

theorem State.ofText?_text (state : State) : State.ofText? state.text = some state := by
  cases state <;> rfl

end Run

namespace Watch

open StagedRuns.Run (State)

theorem noted_name (run : Run) (state : State) :
    (noted run state).metadata.name = run.metadata.name :=
  rfl

theorem ofRun_noted (run : Run) (state : State) : State.ofRun (noted run state) = State.ofRun run :=
  rfl

theorem noted_memo (run : Run) (state : State) : (noted run state).memo? = some state := by
  unfold Run.memo? noted
  rw [Run.annotation?_annotate, if_pos rfl]
  exact State.ofText?_text state

/-- What is wrong with a run for which no notification can be composed. -/
inductive Unaddressed (run : Run) : WatchError → Prop
  | unannotated (key : String) : Unaddressed run (.unannotated run.displayName key)
  | invalidAddress (address : String)
      (given : run.annotation? Run.sourceUrlAnnotation = some address) :
      Unaddressed run (.invalidAddress address)

theorem needed_ok {run : Run} {key value : String} (found : needed run key = .ok value) :
    run.annotation? key = some value := by
  unfold needed at found
  split at found
  · rename_i given
    cases found
    exact (Option.filter_eq_some_iff.mp given).1
  · cases found

theorem needed_error {run : Run} {key : String} {problem : WatchError}
    (failed : needed run key = .error problem) : Unaddressed run problem := by
  unfold needed at failed
  split at failed
  · cases failed
  · cases failed
    exact .unannotated key

theorem noticeFor_ok {run : Run} {notice : Notice} (composed : noticeFor run = .ok notice) :
    notice.state = State.ofRun run := by
  obtain ⟨address, _, located⟩ := Result.bind_eq_ok.mp composed
  cases repository : repositoryOf? address with
  | none =>
      rw [repository] at located
      cases located
  | some name =>
      rw [repository] at located
      obtain ⟨commit, _, same⟩ := Result.bind_eq_ok.mp located
      exact congrArg Notice.state (Result.pure_eq_ok.mp same).symm

theorem noticeFor_error {run : Run} {problem : WatchError}
    (failed : noticeFor run = .error problem) : Unaddressed run problem := by
  unfold noticeFor at failed
  cases located : needed run Run.sourceUrlAnnotation with
  | error missing =>
      rw [located] at failed
      cases failed
      exact needed_error located
  | ok address =>
      rw [located] at failed
      dsimp only [bind, Except.bind] at failed
      cases repository : repositoryOf? address with
      | none =>
          rw [repository] at failed
          cases failed
          exact .invalidAddress address (needed_ok located)
      | some name =>
          rw [repository] at failed
          cases committed : needed run Run.sourceRefAnnotation with
          | error missing =>
              rw [committed] at failed
              cases failed
              exact needed_error committed
          | ok commit =>
              rw [committed] at failed
              cases failed

theorem noticeOf_none_iff {run : Run} :
    noticeOf run = .ok none ↔ run.memo? = some (State.ofRun run) := by
  unfold noticeOf
  by_cases reported : run.memo? = some (State.ofRun run)
  · rw [if_pos reported]
    exact ⟨fun _ => reported, fun _ => rfl⟩
  · rw [if_neg reported]
    refine ⟨fun quiet => ?_, fun noted => absurd noted reported⟩
    cases composed : noticeFor run with
    | error problem =>
        rw [composed] at quiet
        cases quiet
    | ok notice =>
        rw [composed] at quiet
        cases quiet

/-- A notification is of the state of its run, and that is not the state that is noted on the
run. -/
theorem noticeOf_some {run : Run} {notice : Notice} (calls : noticeOf run = .ok (some notice)) :
    notice.state = State.ofRun run ∧ run.memo? ≠ some notice.state := by
  unfold noticeOf at calls
  by_cases reported : run.memo? = some (State.ofRun run)
  · rw [if_pos reported] at calls
    cases calls
  · rw [if_neg reported] at calls
    cases composed : noticeFor run with
    | error problem =>
        rw [composed] at calls
        cases calls
    | ok other =>
        rw [composed] at calls
        cases calls
        have same := noticeFor_ok composed
        exact ⟨same, same ▸ reported⟩

theorem noticeOf_error {run : Run} {problem : WatchError}
    (failed : noticeOf run = .error problem) : Unaddressed run problem := by
  unfold noticeOf at failed
  by_cases reported : run.memo? = some (State.ofRun run)
  · rw [if_pos reported] at failed
    cases failed
  · rw [if_neg reported] at failed
    cases composed : noticeFor run with
    | error missing =>
        rw [composed] at failed
        cases failed
        exact noticeFor_error composed
    | ok notice =>
        rw [composed] at failed
        cases failed

def sampleRun : Run :=
  let run := (Run.new "dsl" "run-" .empty).correlate
    { repoUrl := "ssh://host/owner/name.git", gitRef := "6113728" } "hook"
  { run with metadata := { run.metadata with name := some "run-a" } }

def sampleNotice : Notice :=
  { repository := "owner/name", commit := "6113728", state := .pending }

theorem noticeOf_sampleRun : noticeOf sampleRun = .ok (some sampleNotice) := by
  decide +kernel

end Watch

end StagedRuns
