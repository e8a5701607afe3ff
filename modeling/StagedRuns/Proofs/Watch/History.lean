import StagedRuns.Proofs.Watch.Store

/-!
Histories of a store whose runs are handled as they are stored, while the engine reports their
status and any call may fail. What is noted on a run is a state that was reported, and a state is
reported again only if it was not noted.
-/

namespace StagedRuns.Watch

open StagedRuns.Run (State)

inductive Call where
  | notify (notice : Notice) (answer : Timed (Except ClientError Unit))
  | update (run : Run) (answer : Except ClientError Unit)

structure World where
  store : Store
  calls : List Call

structure Answers where
  notify : Timed (Except ClientError Unit)
  update : Except ClientError Unit

/-- Those that give these answers. An update that succeeds puts the run into the store. -/
def Answers.backend (answers : Answers) : Backend (StateM World) where
  list := return .ok (← get).store.runs
  notify := fun notice => do
    modify fun world => { world with calls := world.calls ++ [.notify notice answers.notify] }
    return answers.notify
  update := fun run => do
    modify fun world => { world with calls := world.calls ++ [.update run answers.update] }
    modify fun world => { world with store := world.store.updated run answers.update }
    return answers.update

structure Handled where
  run : Run
  before : Store
  result : Except WatchError Outcome
  calls : List Call
  after : Store

def handleStored (limit : Nat) (answers : Answers) (store : Store) (run : Run) : Handled :=
  let (result, world) := (handle answers.backend limit run).run { store, calls := [] }
  { run, before := store, result, calls := world.calls, after := world.store }

inductive Course (limit : Nat) (answers : Answers) (store : Store) (run : Run) : Handled → Prop
  | unchanged (reported : run.memo? = some (State.ofRun run)) :
      Course limit answers store run
        { run, before := store, result := .ok (.unchanged (.ofRun run)), calls := []
          after := store }
  | unaddressed {problem : WatchError} (wrong : Unaddressed run problem) :
      Course limit answers store run
        { run, before := store, result := .error problem, calls := [], after := store }
  | unsent {notice : Notice} {problem : WatchError} (called : noticeOf run = .ok (some notice))
      (failed : answers.notify.within limit = .error problem) :
      Course limit answers store run
        { run, before := store, result := .error problem
          calls := [.notify notice answers.notify], after := store }
  | unrecorded {notice : Notice} {problem : ClientError}
      (called : noticeOf run = .ok (some notice)) (sent : answers.notify.within limit = .ok ())
      (failed : answers.update = .error problem) :
      Course limit answers store run
        { run, before := store, result := .error (.update problem)
          calls :=
            [.notify notice answers.notify, .update (noted run notice.state) (.error problem)]
          after := store }
  | recorded {notice : Notice} (called : noticeOf run = .ok (some notice))
      (sent : answers.notify.within limit = .ok ()) (done : answers.update = .ok ()) :
      Course limit answers store run
        { run, before := store, result := .ok (.notified notice.state)
          calls := [.notify notice answers.notify, .update (noted run notice.state) (.ok ())]
          after := store.put (noted run notice.state) }

theorem notify_run (answers : Answers) (notice : Notice) (world : World) :
    (answers.backend.notify notice).run world =
      pure (answers.notify,
        { world with calls := world.calls ++ [.notify notice answers.notify] }) :=
  rfl

theorem update_run (answers : Answers) (run : Run) (world : World) :
    (answers.backend.update run).run world =
      pure (answers.update,
        { store := world.store.updated run answers.update
          calls := world.calls ++ [.update run answers.update] }) :=
  rfl

theorem handleStored_course (limit : Nat) (answers : Answers) (store : Store) (run : Run) :
    Course limit answers store run (handleStored limit answers store run) := by
  unfold handleStored handle
  cases called : noticeOf run with
  | error problem => exact .unaddressed (noticeOf_error called)
  | ok called? =>
      cases called? with
      | none => exact .unchanged (noticeOf_none_iff.mp called)
      | some notice =>
          simp only [StateT.run_bind, notify_run, pure_bind, List.nil_append]
          cases sent : answers.notify.within limit with
          | error problem => exact .unsent called sent
          | ok =>
              simp only [StateT.run_bind, update_run, pure_bind]
              cases updated : answers.update with
              | error problem => exact .unrecorded called sent updated
              | ok => exact .recorded called sent updated

/-- What a handler keeps to, whatever the answers to its calls are: if it succeeds, the state of the
run as it is then stored is noted on it; if it fails, the store is as before; and it makes no call
if the state was reported or the run does not say what to report it for. -/
structure Handled.Sound (handled : Handled) : Prop where
  noted : ∀ outcome, handled.result = .ok outcome →
    ∃ stored, handled.after.get? handled.run.metadata.name = some stored ∧
      stored.memo? = some (State.ofRun stored)
  untouched : ∀ problem, handled.result = .error problem → handled.after = handled.before
  unchanged : ∀ state, handled.result = .ok (.unchanged state) → handled.calls = []
  unannotated : ∀ run key, handled.result = .error (.unannotated run key) → handled.calls = []
  invalidAddress : ∀ address, handled.result = .error (.invalidAddress address) →
    handled.calls = []

/-- Whether a notification was sent, and was answered in time that it succeeded. -/
def Handled.Sent (limit : Nat) (handled : Handled) (notice : Notice) : Prop :=
  ∃ answer, .notify notice answer ∈ handled.calls ∧ answer.within limit = .ok ()

theorem within_error {answer : Timed (Except ClientError Unit)} {limit : Nat}
    {problem : WatchError} (failed : answer.within limit = .error problem) :
    problem = .timedOut limit ∨ ∃ reason, problem = .notify reason := by
  unfold Timed.within at failed
  by_cases late : limit < answer.delay
  · rw [if_pos late] at failed
    cases failed
    exact Or.inl rfl
  · rw [if_neg late] at failed
    cases given : answer.value with
    | error reason =>
        rw [given] at failed
        cases failed
        exact Or.inr ⟨reason, rfl⟩
    | ok =>
        rw [given] at failed
        cases failed

namespace Course

variable {limit : Nat} {answers : Answers} {store : Store} {run : Run} {handled : Handled}

theorem sound (course : Course limit answers store run handled)
    (stored : store.get? run.metadata.name = some run) : handled.Sound := by
  cases course with
  | unchanged reported =>
      exact
        { noted := fun _ _ => ⟨run, stored, reported⟩
          untouched := fun _ impossible => nomatch impossible
          unchanged := fun _ _ => rfl
          unannotated := fun _ _ impossible => nomatch impossible
          invalidAddress := fun _ impossible => nomatch impossible }
  | unaddressed wrong =>
      exact
        { noted := fun _ impossible => nomatch impossible
          untouched := fun _ _ => rfl
          unchanged := fun _ impossible => nomatch impossible
          unannotated := fun _ _ _ => rfl
          invalidAddress := fun _ _ => rfl }
  | @unsent notice problem called failed =>
      -- A call was made here, so it matters that neither error can come from a call.
      have reason := within_error failed
      constructor
      · intro outcome impossible
        cases impossible
      · intro problem _
        rfl
      · intro state impossible
        cases impossible
      · intro name key same
        cases same
        rcases reason with late | ⟨refusal, refused⟩
        · cases late
        · cases refused
      · intro address same
        cases same
        rcases reason with late | ⟨refusal, refused⟩
        · cases late
        · cases refused
  | unrecorded called sent failed =>
      exact
        { noted := fun _ impossible => nomatch impossible
          untouched := fun _ _ => rfl
          unchanged := fun _ impossible => nomatch impossible
          unannotated := fun _ _ impossible => nomatch impossible
          invalidAddress := fun _ impossible => nomatch impossible }
  | @recorded notice called sent done =>
      have found : (store.put (noted run notice.state)).get? run.metadata.name =
          some (noted run notice.state) := by
        rw [Store.get?_put, noted_name, if_pos rfl]
      have state : (noted run notice.state).memo? =
          some (State.ofRun (noted run notice.state)) := by
        rw [noted_memo, ofRun_noted, (noticeOf_some called).1]
      exact
        { noted := fun _ _ => ⟨noted run notice.state, found, state⟩
          untouched := fun _ impossible => nomatch impossible
          unchanged := fun _ impossible => nomatch impossible
          unannotated := fun _ _ impossible => nomatch impossible
          invalidAddress := fun _ impossible => nomatch impossible }

/-- What a notification that was sent leaves behind: the state of the run, noted on it unless the
update failed. -/
theorem sent (course : Course limit answers store run handled) {notice : Notice}
    (sent : handled.Sent limit notice) :
    noticeOf run = .ok (some notice) ∧
      (handled.after.memo? run.metadata.name = some notice.state ∨
        ∃ problem, handled.calls =
          [.notify notice answers.notify, .update (noted run notice.state) (.error problem)]) := by
  obtain ⟨answer, member, answered⟩ := sent
  cases course with
  | unchanged reported => cases member
  | unaddressed wrong => cases member
  | unsent called failed =>
      cases List.mem_singleton.mp member
      rw [answered] at failed
      cases failed
  | unrecorded called done failed =>
      rcases List.mem_cons.mp member with same | isUpdate
      · cases same
        exact ⟨called, Or.inr ⟨_, rfl⟩⟩
      · cases List.mem_singleton.mp isUpdate
  | recorded called done updated =>
      rcases List.mem_cons.mp member with same | isUpdate
      · cases same
        refine ⟨called, Or.inl ?_⟩
        rw [Store.memo?_put, noted_name, if_pos rfl, noted_memo]
      · cases List.mem_singleton.mp isUpdate

theorem memo?_kept (course : Course limit answers store run handled) {name : Option String}
    (quiet : run.metadata.name = name → ∀ notice, ¬ handled.Sent limit notice) :
    handled.after.memo? name = store.memo? name := by
  cases course with
  | unchanged reported => rfl
  | unaddressed wrong => rfl
  | unsent called failed => rfl
  | unrecorded called done failed => rfl
  | @recorded notice called done updated =>
      have other : name ≠ (noted run notice.state).metadata.name := by
        intro same
        exact quiet same.symm notice ⟨answers.notify, List.mem_cons_self, done⟩
      rw [Store.memo?_put, if_neg other]

end Course

/-- A turn of the engine, which reports the status of a run, or of the handler, which handles a run
as it is stored. -/
inductive Turn where
  | report (name : Option String) (status : Option Run.Status)
  | handle (name : Option String) (answers : Answers)

/-- How the runs are handled over any number of turns. -/
def play (limit : Nat) : Store → List Turn → List Handled
  | _, [] => []
  | store, .report name status :: turns => play limit (store.report name status) turns
  | store, .handle name answers :: turns =>
      match store.get? name with
      | none => play limit store turns
      | some run =>
          let handled := handleStored limit answers store run
          handled :: play limit handled.after turns

variable {limit : Nat}

/-- The next run that is handled is the one that is stored then. Up to that, no note has changed. -/
theorem play_next {store : Store} {turns : List Turn} {handled : Handled} {rest : List Handled}
    (played : play limit store turns = handled :: rest) :
    ∃ answers before run later, before.get? run.metadata.name = some run ∧
      handled = handleStored limit answers before run ∧ play limit handled.after later = rest ∧
      ∀ name, before.memo? name = store.memo? name := by
  induction turns generalizing store with
  | nil => cases played
  | cons turn turns ih =>
      cases turn with
      | report name status =>
          obtain ⟨answers, before, run, later, stored, same, continued, memos⟩ := ih played
          refine ⟨answers, before, run, later, stored, same, continued, ?_⟩
          intro other
          rw [memos, Store.memo?_report]
      | handle name answers =>
          rw [play] at played
          cases found : store.get? name with
          | none =>
              rw [found] at played
              exact ih played
          | some run =>
              rw [found] at played
              obtain ⟨same, continued⟩ := List.cons.inj played
              refine ⟨answers, store, run, turns, ?_, same.symm, same ▸ continued, fun _ => rfl⟩
              rw [Store.get?_name found]
              exact found

theorem play_split {store : Store} {turns : List Turn} {early rest : List Handled}
    {handled : Handled} (played : play limit store turns = early ++ handled :: rest) :
    ∃ answers before run later, before.get? run.metadata.name = some run ∧
      handled = handleStored limit answers before run ∧ play limit handled.after later = rest := by
  induction early generalizing store turns with
  | nil =>
      obtain ⟨answers, before, run, later, stored, same, continued, _⟩ := play_next played
      exact ⟨answers, before, run, later, stored, same, continued⟩
  | cons first early ih =>
      obtain ⟨_, _, _, _, _, _, continued, _⟩ := play_next played
      exact ih continued

/-- A state that is noted is not the next one to be reported. -/
theorem differs_of_noted {store : Store} {turns : List Turn} {between late : List Handled}
    {handled : Handled} {name : Option String} {state : State} {notice : Notice}
    (remembered : store.memo? name = some state)
    (played : play limit store turns = between ++ handled :: late)
    (same : handled.run.metadata.name = name) (sent : handled.Sent limit notice)
    (quiet : ∀ other ∈ between, other.run.metadata.name = name →
      ∀ further, ¬ other.Sent limit further) :
    state ≠ notice.state := by
  induction between generalizing store turns with
  | nil =>
      obtain ⟨answers, before, run, later, stored, rfl, _, memos⟩ := play_next played
      have called := ((handleStored_course limit answers before run).sent sent).1
      have named : run.metadata.name = name := same
      have memo : run.memo? = some state := by
        rw [← remembered, ← memos, ← named, Store.memo?, stored]
        rfl
      intro equal
      exact (noticeOf_some called).2 (memo.trans (congrArg some equal))
  | cons first between ih =>
      obtain ⟨answers, before, run, later, stored, rfl, continued, memos⟩ := play_next played
      have course := handleStored_course limit answers before run
      have kept := course.memo?_kept fun named => quiet _ List.mem_cons_self named
      refine ih ?_ continued fun next member => quiet next (List.mem_cons_of_mem _ member)
      rw [kept, memos, remembered]

/-- Memos are kept through failures. Whatever the engine reports and whatever the calls come to,
every handler keeps to `Handled.Sound`, and of two notifications that were sent for one run, with
none between them, the second is of the same state only if the update after the first failed. -/
theorem play_memos (limit : Nat) (store : Store) (turns : List Turn) :
    (∀ handled ∈ play limit store turns, handled.Sound) ∧
    ∀ early first between second late,
      play limit store turns = early ++ first :: (between ++ second :: late) →
      second.run.metadata.name = first.run.metadata.name →
      (∀ other ∈ between, other.run.metadata.name = first.run.metadata.name →
        ∀ further, ¬ other.Sent limit further) →
      ∀ notice again, first.Sent limit notice → second.Sent limit again →
        notice.state = again.state →
        ∃ answer problem, first.calls =
          [.notify notice answer, .update (noted first.run notice.state) (.error problem)] := by
  constructor
  · intro handled member
    obtain ⟨early, rest, played⟩ := List.append_of_mem member
    obtain ⟨answers, before, run, later, stored, same, _⟩ := play_split played
    have course := handleStored_course limit answers before run
    rw [← same] at course
    exact course.sound stored
  · intro early first between second late played name quiet notice again sent sentAgain equal
    obtain ⟨answers, before, run, later, stored, same, continued⟩ := play_split played
    have course := handleStored_course limit answers before run
    have isRun : first.run = run := by
      rw [same]
      rfl
    rw [← same] at course
    rcases (course.sent sent).2 with remembered | ⟨problem, calls⟩
    · rw [isRun] at name quiet
      exact absurd equal (differs_of_noted remembered continued name sentAgain quiet)
    · exact ⟨answers.notify, problem, isRun ▸ calls⟩

/-- The sample is reported twice, since the first report could not be noted. -/
theorem play_memos_sample :
    ∃ first second : Handled, ∃ problem,
      play 30000 .sample
        [ .handle sampleRun.metadata.name
            { notify := { delay := 0, value := .ok () }, update := .error problem }
        , .handle sampleRun.metadata.name
            { notify := { delay := 0, value := .ok () }, update := .ok () } ] =
        [] ++ first :: ([] ++ second :: []) ∧
      first.Sent 30000 sampleNotice ∧ second.Sent 30000 sampleNotice ∧
      ∃ answer problem, first.calls =
        [.notify sampleNotice answer, .update (noted first.run .pending) (.error problem)] := by
  let conflict := ClientError.api 409 "conflict"
  let refused : Answers := { notify := { delay := 0, value := .ok () }, update := .error conflict }
  let accepted : Answers := { notify := { delay := 0, value := .ok () }, update := .ok () }
  let first := handleStored 30000 refused .sample sampleRun
  let second := handleStored 30000 accepted .sample sampleRun
  have firstCalls : first.calls =
      [ .notify sampleNotice refused.notify
      , .update (noted sampleRun .pending) (.error conflict) ] := by
    unfold first handleStored handle
    rw [noticeOf_sampleRun]
    rfl
  have secondCalls : second.calls =
      [.notify sampleNotice accepted.notify, .update (noted sampleRun .pending) (.ok ())] := by
    unfold second handleStored handle
    rw [noticeOf_sampleRun]
    rfl
  have kept : first.after = .sample := by
    unfold first handleStored handle
    rw [noticeOf_sampleRun]
    rfl
  have played : play 30000 .sample [.handle sampleRun.metadata.name refused,
      .handle sampleRun.metadata.name accepted] = [] ++ first :: ([] ++ second :: []) := by
    rw [play, Store.get?_sample]
    change first :: play 30000 first.after _ = _
    rw [kept, play, Store.get?_sample]
    rfl
  have sent : first.Sent 30000 sampleNotice :=
    ⟨refused.notify, firstCalls ▸ List.mem_cons_self, rfl⟩
  have sentAgain : second.Sent 30000 sampleNotice :=
    ⟨accepted.notify, secondCalls ▸ List.mem_cons_self, rfl⟩
  refine ⟨first, second, conflict, played, sent, sentAgain, ?_⟩
  exact (play_memos 30000 .sample _).2 [] first [] second [] played rfl
    (fun other member => nomatch member) sampleNotice sampleNotice sent sentAgain rfl

end StagedRuns.Watch
