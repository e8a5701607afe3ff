import StagedRuns.Proofs.Watch.Store
import StagedRuns.Watch.Watcher

/-!
A watcher beside the engine. The poller lists runs, also while a notification is under way, the
handler works on the runs as they were listed, and the engine reports their status, in any order.
What a step can do is said here once, for the runs in flight, the handler and the notes.
-/

namespace StagedRuns.Watch

open StagedRuns.Run (State)

structure System where
  watcher : Watcher
  store : Store

inductive Event where
  | listed (outcome : Except ClientError (List Run))
  | queued
  | woken
  | taken
  | notified (run : Run) (notice : Notice) (outcome : Except WatchError Unit)
  | recorded (run : Run) (outcome : Except ClientError Unit)
  | reported (name : Option String) (status : Option Run.Status)
  | created (run : Run)
  | signalled
  | ended

/-- A step of the poller, of the handler, of the engine, or of the one who stops the watcher. -/
inductive Step : System → Event → System → Prop
  | list {watcher : Watcher} {store : Store} (may : watcher.mayList = true) :
      Step ⟨watcher, store⟩ (.listed (.ok store.runs)) ⟨watcher.listed (.ok store.runs), store⟩
  | listFails {watcher : Watcher} {store : Store} (may : watcher.mayList = true)
      (problem : ClientError) :
      Step ⟨watcher, store⟩ (.listed (.error problem)) ⟨watcher.listed (.error problem), store⟩
  | enqueue {watcher next : Watcher} {store : Store} (moved : watcher.enqueue? = some next) :
      Step ⟨watcher, store⟩ .queued ⟨next, store⟩
  | wake {watcher next : Watcher} {store : Store} (moved : watcher.wake? = some next) :
      Step ⟨watcher, store⟩ .woken ⟨next, store⟩
  | take {watcher next : Watcher} {store : Store} (moved : watcher.take? = some next) :
      Step ⟨watcher, store⟩ .taken ⟨next, store⟩
  | notify {watcher : Watcher} {store : Store} {run : Run} {notice : Notice}
      (handling : watcher.handler = .notifying run notice) (outcome : Except WatchError Unit) :
      Step ⟨watcher, store⟩ (.notified run notice outcome) ⟨watcher.notified outcome, store⟩
  | record {watcher : Watcher} {store : Store} {run : Run} {state : State}
      (handling : watcher.handler = .recording run state) (outcome : Except ClientError Unit) :
      Step ⟨watcher, store⟩ (.recorded run outcome) ⟨watcher.recorded, store.updated run outcome⟩
  /-- The engine makes the update, but the handler hears that it failed. -/
  | lose {watcher : Watcher} {store : Store} {run : Run} {state : State}
      (handling : watcher.handler = .recording run state) (problem : ClientError) :
      Step ⟨watcher, store⟩ (.recorded run (.error problem)) ⟨watcher.recorded, store.put run⟩
  | report {watcher : Watcher} {store : Store} (name : Option String)
      (status : Option Run.Status) :
      Step ⟨watcher, store⟩ (.reported name status) ⟨watcher, store.report name status⟩
  | create {watcher : Watcher} {store : Store} {run : Run}
      (fresh : store.get? run.metadata.name = none) :
      Step ⟨watcher, store⟩ (.created run) ⟨watcher, store.put run⟩
  | signal {watcher : Watcher} {store : Store} :
      Step ⟨watcher, store⟩ .signalled ⟨{ watcher with stopped := true }, store⟩
  | stop {watcher : Watcher} {store : Store} (idle : watcher.handler = .idle) :
      Step ⟨watcher, store⟩ .ended ⟨watcher.stop, store⟩

inductive Execution : System → List Event → System → Prop
  | nil (system : System) : Execution system [] system
  | cons {first second last : System} {event : Event} {events : List Event}
      (step : Step first event second) (rest : Execution second events last) :
      Execution first (event :: events) last

theorem Execution.append {first middle last : System} {early late : List Event}
    (before : Execution first early middle) (after : Execution middle late last) :
    Execution first (early ++ late) last := by
  induction before with
  | nil system => exact after
  | cons step rest ih => exact .cons step (ih after)

theorem Execution.split {first last : System} {early late : List Event}
    (execution : Execution first (early ++ late) last) :
    ∃ middle, Execution first early middle ∧ Execution middle late last := by
  induction early generalizing first with
  | nil => exact ⟨first, .nil first, execution⟩
  | cons event early ih =>
      cases execution with
      | cons step rest =>
          obtain ⟨middle, before, after⟩ := ih rest
          exact ⟨middle, .cons step before, after⟩

/-- Whether the collaborators do what they are asked for. -/
def Event.Succeeds : Event → Prop
  | .notified _ _ outcome => outcome = .ok ()
  | .recorded _ outcome => outcome = .ok ()
  | _ => True

def Watcher.snapshots (watcher : Watcher) : List Run :=
  let handling :=
    match watcher.handler with
    | .notifying run _ => [run]
    | _ => []
  let sending :=
    match watcher.poller with
    | .sending runs => runs
    | _ => []
  handling ++ (watcher.queue ++ sending)

/-! ### What a step can do -/

/-- Whether the handler notifies of a run only what the run calls for. -/
def Watcher.Coherent (watcher : Watcher) : Prop :=
  ∀ run notice, watcher.handler = .notifying run notice → noticeOf run = .ok (some notice)

theorem enqueue?_cases {watcher next : Watcher} (moved : watcher.enqueue? = some next) :
    (watcher.poller = .sending [] ∧
        next = { watcher with poller := .next watcher.stopped }) ∨
      ∃ run runs, watcher.poller = .sending (run :: runs) ∧ watcher.queue.length < capacity ∧
        next = { watcher with poller := .sending runs, queue := watcher.queue ++ [run] } := by
  unfold Watcher.enqueue? at moved
  cases polling : watcher.poller with
  | waiting =>
      rw [polling] at moved
      cases moved
  | ended =>
      rw [polling] at moved
      cases moved
  | sending runs =>
      rw [polling] at moved
      cases runs with
      | nil => exact Or.inl ⟨rfl, (Option.some.inj moved).symm⟩
      | cons run runs =>
          by_cases room : watcher.queue.length < capacity
          · simp only [if_pos room] at moved
            exact Or.inr ⟨run, runs, rfl, room, (Option.some.inj moved).symm⟩
          · simp only [if_neg room] at moved
            cases moved

theorem wake?_cases {watcher next : Watcher} (moved : watcher.wake? = some next) :
    watcher.poller = .waiting ∧ watcher.stopped = true ∧
      next = { watcher with poller := .ended } := by
  unfold Watcher.wake? at moved
  cases polling : watcher.poller with
  | waiting =>
      cases stopped : watcher.stopped with
      | false =>
          rw [polling, stopped] at moved
          cases moved
      | true =>
          rw [polling, stopped] at moved
          exact ⟨rfl, rfl, (Option.some.inj moved).symm⟩
  | sending runs =>
      rw [polling] at moved
      cases moved
  | ended =>
      rw [polling] at moved
      cases moved

theorem take?_cases {watcher next : Watcher} (moved : watcher.take? = some next) :
    ∃ run queue, watcher.handler = .idle ∧ watcher.queue = run :: queue ∧
      (next = { watcher with queue } ∨
        ∃ notice, noticeOf run = .ok (some notice) ∧
          next = { watcher with handler := .notifying run notice, queue }) := by
  obtain ⟨poller, queue, handler, stopped⟩ := watcher
  unfold Watcher.take? at moved
  cases handler with
  | idle =>
      cases queue with
      | nil => cases moved
      | cons run queue =>
          refine ⟨run, queue, rfl, rfl, ?_⟩
          dsimp only at moved
          split at moved
          · rename_i notice called
            exact Or.inr ⟨notice, called, (Option.some.inj moved).symm⟩
          · exact Or.inl (Option.some.inj moved).symm
  | notifying run notice => cases moved
  | recording run state => cases moved
  | ended => cases moved

theorem snapshots_next (watcher : Watcher) :
    { watcher with poller := .next watcher.stopped }.snapshots =
      { watcher with poller := .ended }.snapshots := by
  obtain ⟨poller, queue, handler, stopped⟩ := watcher
  cases stopped <;> rfl

theorem snapshots_start (stopped : Bool) : (Watcher.start stopped).snapshots = [] := by
  cases stopped <;> rfl

theorem enqueue?_facts {watcher next : Watcher} (moved : watcher.enqueue? = some next) :
    next.handler = watcher.handler ∧ next.snapshots = watcher.snapshots := by
  rcases enqueue?_cases moved with ⟨polling, rfl⟩ | ⟨run, runs, polling, _, rfl⟩
  · refine ⟨rfl, ?_⟩
    rw [snapshots_next]
    unfold Watcher.snapshots
    rw [polling]
  · refine ⟨rfl, ?_⟩
    unfold Watcher.snapshots
    rw [polling]
    simp only [List.append_assoc, List.singleton_append]

theorem wake?_facts {watcher next : Watcher} (moved : watcher.wake? = some next) :
    next.handler = watcher.handler ∧ next.snapshots = watcher.snapshots := by
  obtain ⟨polling, _, rfl⟩ := wake?_cases moved
  refine ⟨rfl, ?_⟩
  unfold Watcher.snapshots
  rw [polling]

theorem take?_facts {watcher next : Watcher} (moved : watcher.take? = some next) :
    watcher.handler = .idle ∧ next.snapshots.Sublist watcher.snapshots ∧
      (next.handler = .idle ∨ ∃ run notice, next.handler = .notifying run notice ∧
        noticeOf run = .ok (some notice)) := by
  obtain ⟨run, queue, idle, queued, rfl | ⟨notice, called, rfl⟩⟩ := take?_cases moved
  · refine ⟨idle, ?_, Or.inl idle⟩
    unfold Watcher.snapshots
    rw [idle, queued]
    exact List.sublist_cons_self run _
  · refine ⟨idle, ?_, Or.inr ⟨run, notice, rfl, called⟩⟩
    unfold Watcher.snapshots
    rw [idle, queued]
    exact List.Sublist.refl _

theorem notified_facts {watcher : Watcher} {run : Run} {notice : Notice}
    (handling : watcher.handler = .notifying run notice) (outcome : Except WatchError Unit) :
    watcher.snapshots = run :: (watcher.notified outcome).snapshots ∧
      ((outcome = .ok () ∧
          (watcher.notified outcome).handler = .recording (noted run notice.state) notice.state) ∨
        (watcher.notified outcome).handler = .idle) := by
  obtain ⟨poller, queue, handler, stopped⟩ := watcher
  subst handling
  cases outcome with
  | error problem => exact ⟨rfl, Or.inr rfl⟩
  | ok => exact ⟨rfl, Or.inl ⟨rfl, rfl⟩⟩

theorem recorded_snapshots {watcher : Watcher} {run : Run} {state : State}
    (handling : watcher.handler = .recording run state) :
    watcher.recorded.snapshots = watcher.snapshots := by
  unfold Watcher.snapshots Watcher.recorded
  rw [handling]

theorem listed_snapshots {watcher : Watcher} (may : watcher.mayList = true) (runs : List Run) :
    (watcher.listed (.ok runs)).snapshots = watcher.snapshots ++ runs := by
  obtain ⟨poller, queue, handler, stopped⟩ := watcher
  cases poller with
  | waiting =>
      unfold Watcher.snapshots Watcher.listed
      simp only [List.append_nil, List.append_assoc]
  | sending runs => cases may
  | ended => cases may

theorem unlisted_snapshots {watcher : Watcher} (may : watcher.mayList = true)
    (problem : ClientError) :
    (watcher.listed (.error problem)).snapshots = watcher.snapshots := by
  obtain ⟨poller, queue, handler, stopped⟩ := watcher
  cases poller with
  | waiting => exact snapshots_next _
  | sending runs => cases may
  | ended => cases may

theorem subset_append_of_eq {runs others more : List Run} (same : runs = others) :
    runs ⊆ others ++ more :=
  same ▸ List.subset_append_left _ _

/-- The runs that are in flight after a step were so before, or are those that were just listed. -/
theorem Step.snapshots {before after : System} {event : Event} (step : Step before event after) :
    after.watcher.snapshots ⊆ before.watcher.snapshots ++ before.store.runs := by
  cases step with
  | @list watcher store may =>
      change (watcher.listed (.ok store.runs)).snapshots ⊆ _
      rw [listed_snapshots may]
      exact List.Subset.refl _
  | enqueue moved => exact subset_append_of_eq (enqueue?_facts moved).2
  | wake moved => exact subset_append_of_eq (wake?_facts moved).2
  | take moved => exact List.subset_append_of_subset_left _ (take?_facts moved).2.1.subset
  | @notify watcher store run notice handling outcome =>
      change (watcher.notified outcome).snapshots ⊆ watcher.snapshots ++ store.runs
      rw [(notified_facts handling outcome).1]
      exact List.subset_append_of_subset_left _ (List.subset_cons_self run _)
  | record handling outcome => exact subset_append_of_eq (recorded_snapshots handling)
  | lose handling problem => exact subset_append_of_eq (recorded_snapshots handling)
  | listFails may problem => exact subset_append_of_eq (unlisted_snapshots may problem)
  | stop idle => exact List.nil_subset _
  | report name status => exact List.subset_append_left _ _
  | create fresh => exact List.subset_append_left _ _
  | signal => exact List.subset_append_left _ _

/-- What becomes of the handler in a step. -/
inductive Turnover : Handler → Event → Handler → Prop
  | same {handler : Handler} {event : Event} : Turnover handler event handler
  | taken {run : Run} {notice : Notice} (called : noticeOf run = .ok (some notice)) :
      Turnover .idle .taken (.notifying run notice)
  | sent {run : Run} {notice : Notice} :
      Turnover (.notifying run notice) (.notified run notice (.ok ()))
        (.recording (noted run notice.state) notice.state)
  | unsent {run : Run} {notice : Notice} {problem : WatchError} :
      Turnover (.notifying run notice) (.notified run notice (.error problem)) .idle
  | recorded {run : Run} {state : State} {outcome : Except ClientError Unit} :
      Turnover (.recording run state) (.recorded run outcome) .idle
  | ended : Turnover .idle .ended .ended

theorem Step.turnover {before after : System} {event : Event} (step : Step before event after) :
    Turnover before.watcher.handler event after.watcher.handler := by
  cases step with
  | @enqueue watcher next store moved =>
      change Turnover watcher.handler .queued next.handler
      rw [(enqueue?_facts moved).1]
      exact .same
  | @wake watcher next store moved =>
      change Turnover watcher.handler .woken next.handler
      rw [(wake?_facts moved).1]
      exact .same
  | @take watcher next store moved =>
      obtain ⟨idle, _, turned⟩ := take?_facts moved
      change Turnover watcher.handler .taken next.handler
      rw [idle]
      rcases turned with still | ⟨run, notice, notifying, called⟩
      · rw [still]
        exact .same
      · rw [notifying]
        exact .taken called
  | @notify watcher store run notice handling outcome =>
      obtain ⟨poller, queue, handler, stopped⟩ := watcher
      subst handling
      cases outcome with
      | error problem => exact .unsent
      | ok => exact .sent
  | @record watcher store run state handling outcome =>
      change Turnover watcher.handler _ .idle
      rw [handling]
      exact .recorded
  | @lose watcher store run state handling problem =>
      change Turnover watcher.handler _ .idle
      rw [handling]
      exact .recorded
  | @stop watcher store idle =>
      change Turnover watcher.handler .ended .ended
      rw [idle]
      exact .ended
  | list may => exact .same
  | listFails may problem => exact .same
  | report name status => exact .same
  | create fresh => exact .same
  | signal => exact .same

theorem Step.coherent {before after : System} {event : Event} (step : Step before event after)
    (coherent : before.watcher.Coherent) : after.watcher.Coherent := by
  intro run notice handling
  have turnover := step.turnover
  rw [handling] at turnover
  generalize was : before.watcher.handler = handler at turnover
  cases turnover with
  | same => exact coherent run notice was
  | taken called => exact called

theorem Execution.coherent {first last : System} {events : List Event}
    (execution : Execution first events last) (coherent : first.watcher.Coherent) :
    last.watcher.Coherent := by
  induction execution with
  | nil system => exact coherent
  | cons step rest ih => exact ih (step.coherent coherent)

/-- Once the handler records, it goes on until it has an outcome. -/
theorem Step.recording {before after : System} {event : Event} {run : Run} {state : State}
    (step : Step before event after) (handling : before.watcher.handler = .recording run state) :
    (∃ outcome, event = .recorded run outcome) ∨
      after.watcher.handler = .recording run state := by
  have turnover := step.turnover
  rw [handling] at turnover
  generalize after.watcher.handler = handler at turnover
  cases turnover with
  | same => exact Or.inr rfl
  | recorded => exact Or.inl ⟨_, rfl⟩

/-- The handler records only what it has notified of. -/
theorem Step.recording_of {before after : System} {event : Event} {run : Run} {state : State}
    (step : Step before event after) (handling : after.watcher.handler = .recording run state) :
    before.watcher.handler = .recording run state ∨
      ∃ first notice, event = .notified first notice (.ok ()) ∧ run = noted first notice.state := by
  have turnover := step.turnover
  rw [handling] at turnover
  generalize before.watcher.handler = handler at turnover
  cases turnover with
  | same => exact Or.inl rfl
  | sent => exact Or.inr ⟨_, _, rfl, rfl⟩

/-- A note stays on a run as long as the handler records nothing for that run. -/
theorem Step.memo?_kept {before after : System} {event : Event} {name : Option String}
    {state : State} (step : Step before event after)
    (remembered : before.store.memo? name = some state)
    (others : ∀ run other, before.watcher.handler = .recording run other →
      run.metadata.name ≠ name) :
    after.store.memo? name = some state := by
  cases step with
  | @record watcher store run other handling outcome =>
      cases outcome with
      | error problem => exact remembered
      | ok =>
          change (store.put run).memo? name = some state
          exact Store.memo?_put_of_ne (others run other handling) remembered
  | @lose watcher store run other handling problem =>
      change (store.put run).memo? name = some state
      exact Store.memo?_put_of_ne (others run other handling) remembered
  | @report watcher store other status =>
      change (store.report other status).memo? name = some state
      rw [Store.memo?_report, remembered]
  | @create watcher store run fresh =>
      have different : run.metadata.name ≠ name := by
        intro same
        unfold Store.memo? at remembered
        rw [← same, fresh] at remembered
        cases remembered
      change (store.put run).memo? name = some state
      exact Store.memo?_put_of_ne different remembered
  | list may => exact remembered
  | listFails may problem => exact remembered
  | enqueue moved => exact remembered
  | wake moved => exact remembered
  | take moved => exact remembered
  | notify handling outcome => exact remembered
  | signal => exact remembered
  | stop idle => exact remembered

end StagedRuns.Watch
