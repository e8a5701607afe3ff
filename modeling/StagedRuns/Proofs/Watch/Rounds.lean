import StagedRuns.Proofs.Watch.History
import StagedRuns.Proofs.Watch.Repetition

/-!
Rounds of a watcher. What a watcher does from one listing to the next is one of its executions, and
when it is done, nothing is in flight. If the poller always waits for that, no state of a run is
reported twice in a row.
-/

namespace StagedRuns.Watch

open StagedRuns.Run (State)

variable {answers : Answers} {limit : Nat}

/-- What a watcher does next, if it lists no runs. -/
inductive Advance (answers : Answers) (limit : Nat) (watcher : Watcher) (world : World) :
    Option Watcher → Store → Prop
  | notified {run : Run} {notice : Notice} (handling : watcher.handler = .notifying run notice) :
      Advance answers limit watcher world
        (some (watcher.notified (answers.notify.within limit))) world.store
  | recorded {run : Run} {state : State} (handling : watcher.handler = .recording run state) :
      Advance answers limit watcher world (some watcher.recorded)
        (world.store.updated run answers.update)
  | taken {next : Watcher} (moved : watcher.take? = some next) :
      Advance answers limit watcher world (some next) world.store
  | queued {next : Watcher} (moved : watcher.enqueue? = some next) :
      Advance answers limit watcher world (some next) world.store
  | stuck (resting : watcher.handler = .idle ∨ watcher.handler = .ended)
      (noTake : watcher.take? = none) (noEnqueue : watcher.enqueue? = none) :
      Advance answers limit watcher world none world.store

theorem advance_moved {watcher : Watcher} {next? : Option Watcher} {world : World}
    (resting : watcher.handler = .idle ∨ watcher.handler = .ended)
    (moved : (watcher.take? <|> watcher.enqueue?) = next?) :
    Advance answers limit watcher world next? world.store := by
  cases taken : watcher.take? with
  | some next =>
      rw [taken] at moved
      exact moved ▸ .taken taken
  | none =>
      rw [taken] at moved
      cases queued : watcher.enqueue? with
      | some next =>
          rw [queued] at moved
          exact moved ▸ .queued queued
      | none =>
          rw [queued] at moved
          exact moved ▸ .stuck resting taken queued

theorem advance_run {watcher : Watcher} {next? : Option Watcher} {world after : World}
    (ran : (watcher.advance answers.backend limit).run world = pure (next?, after)) :
    Advance answers limit watcher world next? after.store := by
  unfold Watcher.advance at ran
  cases handling : watcher.handler with
  | notifying run notice =>
      simp only [handling, StateT.run_bind, notify_run, pure_bind] at ran
      cases ran
      exact .notified handling
  | recording run state =>
      simp only [handling, StateT.run_bind, update_run, pure_bind] at ran
      cases ran
      exact .recorded handling
  | idle =>
      simp only [handling] at ran
      obtain ⟨moved, same⟩ := Prod.mk.inj ran
      exact same ▸ advance_moved (Or.inl handling) moved
  | ended =>
      simp only [handling] at ran
      obtain ⟨moved, same⟩ := Prod.mk.inj ran
      exact same ▸ advance_moved (Or.inr handling) moved

theorem Advance.step {watcher next : Watcher} {world : World} {store : Store}
    (advance : Advance answers limit watcher world (some next) store) :
    ∃ event, Step ⟨watcher, world.store⟩ event ⟨next, store⟩ := by
  cases advance with
  | notified handling => exact ⟨_, .notify handling _⟩
  | recorded handling => exact ⟨_, .record handling _⟩
  | taken moved => exact ⟨_, .take moved⟩
  | queued moved => exact ⟨_, .enqueue moved⟩

theorem Advance.none_store {watcher : Watcher} {world : World} {store : Store}
    (advance : Advance answers limit watcher world none store) : store = world.store := by
  cases advance with
  | stuck resting noTake noEnqueue => rfl

theorem settle_execution {fuel : Nat} {watcher final : Watcher} {world after : World}
    (settled : (watcher.settle answers.backend limit fuel).run world = pure (final, after)) :
    ∃ events, Execution ⟨watcher, world.store⟩ events ⟨final, after.store⟩ := by
  induction fuel generalizing watcher world with
  | zero =>
      cases settled
      exact ⟨[], .nil _⟩
  | succ fuel ih =>
      rw [Watcher.settle, StateT.run_bind] at settled
      cases advanced : (watcher.advance answers.backend limit).run world with
      | mk next? between =>
          rw [advanced] at settled
          cases next? with
          | none =>
              cases settled
              rw [(advance_run advanced).none_store]
              exact ⟨[], .nil _⟩
          | some next =>
              obtain ⟨event, step⟩ := (advance_run advanced).step
              obtain ⟨events, execution⟩ := ih settled
              exact ⟨event :: events, .cons step execution⟩

theorem round_execution {watcher final : Watcher} {world after : World}
    (may : watcher.mayList = true)
    (ran : (watcher.round answers.backend limit).run world = pure (final, after)) :
    ∃ events, Execution ⟨watcher, world.store⟩ (.listed (.ok world.store.runs) :: events)
      ⟨final, after.store⟩ := by
  have settled : ((watcher.listed (.ok world.store.runs)).settle answers.backend limit
      (watcher.listed (.ok world.store.runs)).pending).run world = pure (final, after) := ran
  obtain ⟨events, execution⟩ := settle_execution settled
  exact ⟨events, .cons (.list may) execution⟩

/-! ### The end of a round -/

/-- The names of the runs that a watcher works on: the one that is being recorded, and those that
are in flight. -/
def Watcher.busy (watcher : Watcher) : List (Option String) :=
  let recording :=
    match watcher.handler with
    | .recording run _ => [run.metadata.name]
    | _ => []
  recording ++ watcher.snapshots.map (·.metadata.name)

theorem busy_recording {watcher : Watcher} {run : Run} {state : State}
    (handling : watcher.handler = .recording run state) :
    watcher.busy = run.metadata.name :: watcher.snapshots.map (·.metadata.name) := by
  unfold Watcher.busy
  rw [handling]
  rfl

theorem busy_notifying {watcher : Watcher} {run : Run} {notice : Notice}
    (handling : watcher.handler = .notifying run notice) :
    watcher.busy = watcher.snapshots.map (·.metadata.name) := by
  unfold Watcher.busy
  rw [handling]
  rfl

theorem busy_idle {watcher : Watcher} (handling : watcher.handler = .idle) :
    watcher.busy = watcher.snapshots.map (·.metadata.name) := by
  unfold Watcher.busy
  rw [handling]
  rfl

theorem take?_pending {watcher next : Watcher} (moved : watcher.take? = some next) :
    next.pending < watcher.pending := by
  obtain ⟨run, queue, idle, queued, rfl | ⟨notice, _, rfl⟩⟩ := take?_cases moved
  · simp only [Watcher.pending, idle, queued, List.length_cons]
    omega
  · simp only [Watcher.pending, idle, queued, List.length_cons]
    omega

theorem enqueue?_pending {watcher next : Watcher} (moved : watcher.enqueue? = some next) :
    next.pending < watcher.pending := by
  rcases enqueue?_cases moved with ⟨polling, rfl⟩ | ⟨run, runs, polling, _, rfl⟩
  · cases stopped : watcher.stopped with
    | false =>
        simp only [Watcher.pending, polling, Poller.next_false, List.length_nil]
        omega
    | true =>
        simp only [Watcher.pending, polling, Poller.next_true, List.length_nil]
        omega
  · simp only [Watcher.pending, polling, List.length_cons, List.length_append, List.length_nil]
    omega

theorem busy_of_stuck {watcher : Watcher} (idle : watcher.handler = .idle)
    (noTake : watcher.take? = none) (noEnqueue : watcher.enqueue? = none) :
    watcher.busy = [] := by
  obtain ⟨poller, queue, handler, stopped⟩ := watcher
  subst idle
  cases queue with
  | cons run queue =>
      unfold Watcher.take? at noTake
      dsimp only at noTake
      split at noTake <;> cases noTake
  | nil =>
      cases poller with
      | waiting => rfl
      | ended => rfl
      | sending runs =>
          cases runs with
          | nil => cases noEnqueue
          | cons run runs =>
              have room : ([] : List Run).length < capacity := by decide
              simp only [Watcher.enqueue?, if_pos room] at noEnqueue
              cases noEnqueue

theorem notified_pending {watcher : Watcher} {run : Run} {notice : Notice}
    (handling : watcher.handler = .notifying run notice) (outcome : Except WatchError Unit) :
    (watcher.notified outcome).pending < watcher.pending := by
  obtain ⟨poller, queue, handler, stopped⟩ := watcher
  subst handling
  cases outcome with
  | error problem =>
      simp only [Watcher.notified, Watcher.pending]
      omega
  | ok =>
      simp only [Watcher.notified, Watcher.pending]
      omega

theorem recorded_pending {watcher : Watcher} {run : Run} {state : State}
    (handling : watcher.handler = .recording run state) :
    watcher.recorded.pending < watcher.pending := by
  obtain ⟨poller, queue, handler, stopped⟩ := watcher
  subst handling
  simp only [Watcher.recorded, Watcher.pending]
  omega

theorem Advance.pending {watcher next : Watcher} {world : World} {store : Store}
    (alive : watcher.handler ≠ .ended)
    (advance : Advance answers limit watcher world (some next) store) :
    next.pending < watcher.pending ∧ next.handler ≠ .ended := by
  cases advance with
  | notified handling =>
      refine ⟨notified_pending handling _, ?_⟩
      rcases (notified_facts handling (answers.notify.within limit)).2 with ⟨_, recording⟩ | idle
      · rw [recording]
        exact Handler.noConfusion
      · rw [idle]
        exact Handler.noConfusion
  | recorded handling => exact ⟨recorded_pending handling, Handler.noConfusion⟩
  | taken moved =>
      refine ⟨take?_pending moved, ?_⟩
      rcases (take?_facts moved).2.2 with idle | ⟨run, notice, notifying, _⟩
      · rw [idle]
        exact Handler.noConfusion
      · rw [notifying]
        exact Handler.noConfusion
  | queued moved =>
      refine ⟨enqueue?_pending moved, ?_⟩
      rw [(enqueue?_facts moved).1]
      exact alive

/-- A watcher that can take no step has nothing in flight. -/
theorem Advance.none_busy {watcher : Watcher} {world : World} {store : Store}
    (alive : watcher.handler ≠ .ended)
    (advance : Advance answers limit watcher world none store) : watcher.busy = [] := by
  cases advance with
  | stuck resting noTake noEnqueue =>
      exact busy_of_stuck (resting.resolve_right alive) noTake noEnqueue

theorem settle_busy {fuel : Nat} {watcher final : Watcher} {world after : World}
    (alive : watcher.handler ≠ .ended) (enough : watcher.pending ≤ fuel)
    (settled : (watcher.settle answers.backend limit fuel).run world = pure (final, after)) :
    final.busy = [] := by
  induction fuel generalizing watcher world with
  | zero =>
      have same : watcher = final := (Prod.mk.inj settled).1
      rw [← same]
      cases advanced : (watcher.advance answers.backend limit).run world with
      | mk next? between =>
          cases next? with
          | none => exact (advance_run advanced).none_busy alive
          | some next =>
              have less := ((advance_run advanced).pending alive).1
              omega
  | succ fuel ih =>
      rw [Watcher.settle, StateT.run_bind] at settled
      cases advanced : (watcher.advance answers.backend limit).run world with
      | mk next? between =>
          rw [advanced] at settled
          cases next? with
          | none =>
              cases settled
              exact (advance_run advanced).none_busy alive
          | some next =>
              obtain ⟨less, aliveStill⟩ := (advance_run advanced).pending alive
              exact ih aliveStill (Nat.le_of_lt_succ (Nat.lt_of_lt_of_le less enough)) settled

theorem round_busy {watcher final : Watcher} {world after : World}
    (alive : watcher.handler ≠ .ended)
    (ran : (watcher.round answers.backend limit).run world = pure (final, after)) :
    final.busy = [] := by
  have settled : ((watcher.listed (.ok world.store.runs)).settle answers.backend limit
      (watcher.listed (.ok world.store.runs)).pending).run world = pure (final, after) := ran
  have aliveStill : (watcher.listed (.ok world.store.runs)).handler ≠ .ended := alive
  exact settle_busy aliveStill (Nat.le_refl _) settled

/-! ### Rounds one after the other -/

theorem listed_busy {watcher : Watcher} (may : watcher.mayList = true) (runs : List Run) :
    (watcher.listed (.ok runs)).busy = watcher.busy ++ runs.map (·.metadata.name) := by
  unfold Watcher.busy
  rw [listed_snapshots may, List.map_append, ← List.append_assoc]
  rfl

theorem busy_same {watcher next : Watcher} (handler : next.handler = watcher.handler)
    (snapshots : next.snapshots = watcher.snapshots) : next.busy = watcher.busy := by
  unfold Watcher.busy
  rw [handler, snapshots]

theorem recorded_busy {watcher : Watcher} {run : Run} {state : State}
    (handling : watcher.handler = .recording run state) (distinct : watcher.busy.Nodup) :
    watcher.recorded.busy.Nodup := by
  rw [busy_recording handling] at distinct
  rw [busy_idle rfl, recorded_snapshots handling]
  exact (List.nodup_cons.mp distinct).2

/-- A watcher works on different runs if it only lists runs when nothing is in flight. -/
theorem Step.busy_distinct {before after : System} {event : Event} (step : Step before event after)
    (patient : ∀ runs, event = .listed (.ok runs) → before.watcher.busy = [])
    (distinct : before.watcher.busy.Nodup) : after.watcher.busy.Nodup := by
  cases step with
  | @list watcher store may =>
      have drained : watcher.busy = [] := patient _ rfl
      change (watcher.listed (.ok store.runs)).busy.Nodup
      rw [listed_busy may, drained]
      exact store.distinct
  | @enqueue watcher next store moved =>
      obtain ⟨handler, snapshots⟩ := enqueue?_facts moved
      exact busy_same handler snapshots ▸ distinct
  | @wake watcher next store moved =>
      obtain ⟨handler, snapshots⟩ := wake?_facts moved
      exact busy_same handler snapshots ▸ distinct
  | @take watcher next store moved =>
      obtain ⟨idle, fewer, handler⟩ := take?_facts moved
      have names : next.busy = next.snapshots.map (·.metadata.name) := by
        rcases handler with resting | ⟨run, notice, notifying, _⟩
        · exact busy_idle resting
        · exact busy_notifying notifying
      change next.busy.Nodup
      rw [names]
      exact (busy_idle idle ▸ distinct).sublist (fewer.map _)
  | @notify watcher store run notice handling outcome =>
      obtain ⟨snapshots, handler⟩ := notified_facts handling outcome
      change watcher.busy.Nodup at distinct
      change (watcher.notified outcome).busy.Nodup
      rw [busy_notifying handling, snapshots, List.map_cons] at distinct
      rcases handler with ⟨_, recording⟩ | resting
      · rw [busy_recording recording, noted_name]
        exact distinct
      · rw [busy_idle resting]
        exact (List.nodup_cons.mp distinct).2
  | @record watcher store run state handling outcome =>
      exact recorded_busy handling distinct
  | @lose watcher store run state handling problem => exact recorded_busy handling distinct
  | @listFails watcher store may problem =>
      have same : (watcher.listed (.error problem)).busy = watcher.busy :=
        busy_same rfl (unlisted_snapshots may problem)
      exact same ▸ distinct
  | stop idle => exact List.nodup_nil
  | report name status => exact distinct
  | create fresh => exact distinct
  | signal => exact distinct

/-- Whether runs are listed only when nothing is in flight. -/
def Patient (start : System) (events : List Event) : Prop :=
  ∀ early runs late moment, events = early ++ .listed (.ok runs) :: late →
    Execution start early moment → moment.watcher.busy = []

theorem Patient.sooner {start : System} {early late : List Event}
    (patient : Patient start (early ++ late)) : Patient start early := by
  intro sooner runs later moment parts reached
  refine patient sooner runs (later ++ late) moment ?_ reached
  rw [parts, List.append_assoc, List.cons_append]

theorem Execution.busy_distinct {first last : System} {events : List Event}
    (execution : Execution first events last) (patient : Patient first events)
    (distinct : first.watcher.busy.Nodup) : last.watcher.busy.Nodup := by
  induction execution with
  | nil system => exact distinct
  | @cons first second last event events step rest ih =>
      refine ih ?_ (step.busy_distinct ?_ distinct)
      · intro early runs late moment parts before
        exact patient (event :: early) runs late moment (congrArg (event :: ·) parts)
          (.cons step before)
      · intro runs same
        exact patient [] runs events first (congrArg (· :: events) same) (.nil first)

/-- If all calls succeed, a watcher that lists runs only when nothing is in flight reports no state
of a run twice in a row. -/
theorem alternates_of_patient {stopped : Bool} {store : Store} {events : List Event}
    {last : System} (execution : Execution ⟨.start stopped, store⟩ events last)
    (succeed : ∀ event ∈ events, event.Succeeds)
    (patient : Patient ⟨.start stopped, store⟩ events) : Alternates events := by
  intro early between first second notice again consecutive same
  obtain ⟨before, rest, moment, parts, toMoment, recording, inFlight⟩ :=
    consecutive.in_flight execution (coherent_start stopped) succeed same
  obtain ⟨late, split⟩ := consecutive.split
  have whole : events = (early ++ .notified first notice (.ok ()) :: before) ++
      (.recorded (noted first notice.state) (.ok ()) :: rest ++
        .notified second again (.ok ()) :: late) := by
    rw [split, parts]
    simp only [List.append_assoc, List.cons_append]
  have free : (Watcher.start stopped).busy = [] := by
    rw [busy_idle rfl, snapshots_start, List.map_nil]
  have distinct : moment.watcher.busy.Nodup :=
    toMoment.busy_distinct (whole ▸ patient).sooner (free ▸ List.nodup_nil)
  rw [busy_recording recording, noted_name] at distinct
  exact (List.nodup_cons.mp distinct).1 (List.mem_map.mpr ⟨second, inFlight, consecutive.name⟩)

end StagedRuns.Watch
