import StagedRuns.Proofs.Watch.System

/-!
Repeated notifications. A run that was listed before its state was noted does not carry the note,
so its state may be reported again; nothing else makes it so.
-/

namespace StagedRuns.Watch

open StagedRuns.Run (State)

/-! ### After a note -/

/-- A state was noted on a run when the runs `old` were in flight: what has been listed since
carries the note, and no other state is being noted on that run. -/
structure Settled (name : Option String) (state : State) (old : List Run) (system : System) :
    Prop where
  remembered : system.store.memo? name = some state
  listed : ∀ run ∈ system.watcher.snapshots, run.metadata.name = name →
    run ∈ old ∨ run.memo? = some state
  recording : ∀ run other, system.watcher.handler = .recording run other →
    run.metadata.name ≠ name

theorem Step.settled {before after : System} {event : Event} {name : Option String}
    {state : State} {old : List Run} (step : Step before event after)
    (settled : Settled name state old before)
    (quiet : ∀ run notice, event = .notified run notice (.ok ()) → run.metadata.name ≠ name) :
    Settled name state old after := by
  constructor
  · exact step.memo?_kept settled.remembered settled.recording
  · intro run member named
    rcases List.mem_append.mp (step.snapshots member) with earlier | stored
    · exact settled.listed run earlier named
    · have found := Store.get?_of_mem stored
      have remembered := settled.remembered
      unfold Store.memo? at remembered
      rw [← named, found] at remembered
      exact Or.inr remembered
  · intro run other handling
    rcases step.recording_of handling with earlier | ⟨first, notice, happened, same⟩
    · exact settled.recording run other earlier
    · rw [same, noted_name]
      exact quiet first notice happened

theorem Execution.settled {first last : System} {events : List Event} {name : Option String}
    {state : State} {old : List Run} (execution : Execution first events last)
    (settled : Settled name state old first)
    (quiet : ∀ run notice, .notified run notice (.ok ()) ∈ events → run.metadata.name ≠ name) :
    Settled name state old last := by
  induction execution with
  | nil system => exact settled
  | cons step rest ih =>
      refine ih (step.settled settled ?_) ?_
      · intro run notice happened
        exact quiet run notice (happened ▸ List.mem_cons_self)
      · intro run notice member
        exact quiet run notice (List.mem_cons_of_mem _ member)

theorem Step.settles {before after : System} {first : Run} {state : State}
    (step : Step before (.recorded (noted first state) (.ok ())) after) :
    Settled first.metadata.name state before.watcher.snapshots after := by
  cases step with
  | @record watcher store run other handling outcome =>
      constructor
      · change (store.put (noted first state)).memo? first.metadata.name = some state
        rw [Store.memo?_put, noted_name, if_pos rfl, noted_memo]
      · intro run member _
        exact Or.inl (recorded_snapshots handling ▸ member)
      · intro run later impossible
        cases impossible

theorem Execution.recording {first last : System} {events : List Event} {run : Run}
    {state : State} (execution : Execution first events last)
    (handling : first.watcher.handler = .recording run state)
    (moved : last.watcher.handler ≠ .recording run state) :
    ∃ before rest outcome moment next, events = before ++ .recorded run outcome :: rest ∧
      Execution first before moment ∧ moment.watcher.handler = .recording run state ∧
      Step moment (.recorded run outcome) next ∧ Execution next rest last := by
  induction execution with
  | nil system => exact absurd handling moved
  | @cons first second last event events step rest ih =>
      rcases step.recording handling with ⟨outcome, rfl⟩ | still
      · exact ⟨[], events, outcome, first, second, rfl, .nil first, handling, step, rest⟩
      · obtain ⟨before, later, outcome, moment, next, same, earlier, recording, recorded, rest⟩ :=
          ih still moved
        exact ⟨event :: before, later, outcome, moment, next, by rw [same, List.cons_append],
          .cons step earlier, recording, recorded, rest⟩

/-! ### Consecutive notifications -/

/-- Two notifications that were sent for one run, the second one after `early` and the first and
`between`, where none was sent for that run. -/
structure Consecutive (events early between : List Event) (first second : Run)
    (notice again : Notice) : Prop where
  split : ∃ late, events =
    early ++ .notified first notice (.ok ()) ::
      (between ++ .notified second again (.ok ()) :: late)
  name : second.metadata.name = first.metadata.name
  quiet : ∀ run other, .notified run other (.ok ()) ∈ between →
    run.metadata.name ≠ first.metadata.name

/-- Whether no state of a run is reported twice in a row. -/
def Alternates (events : List Event) : Prop :=
  ∀ early between first second notice again,
    Consecutive events early between first second notice again → notice.state ≠ again.state

/-- Whether no run that is notified of was in flight, in a state that had been reported, when that
state was noted on it. -/
def Timely (start : System) (events : List Event) : Prop :=
  ∀ early between first second notice again,
    Consecutive events early between first second notice again →
    ∀ before rest moment,
      between = before ++ .recorded (noted first notice.state) (.ok ()) :: rest →
      Execution start (early ++ .notified first notice (.ok ()) :: before) moment →
      second ∈ moment.watcher.snapshots → State.ofRun second ≠ notice.state

theorem Step.notified_handler {before after : System} {run : Run} {notice : Notice}
    {outcome : Except WatchError Unit} (step : Step before (.notified run notice outcome) after) :
    before.watcher.handler = .notifying run notice := by
  cases step with
  | notify handling outcome => exact handling

theorem Step.notified_recording {before after : System} {run : Run} {notice : Notice}
    (step : Step before (.notified run notice (.ok ())) after) :
    after.watcher.handler = .recording (noted run notice.state) notice.state := by
  cases step with
  | notify handling outcome =>
      rcases (notified_facts handling (.ok ())).2 with ⟨_, recording⟩ | idle
      · exact recording
      · unfold Watcher.notified at idle
        rw [handling] at idle
        cases idle

theorem Consecutive.again_called {start last : System} {events early between : List Event}
    {first second : Run} {notice again : Notice} (execution : Execution start events last)
    (coherent : start.watcher.Coherent)
    (consecutive : Consecutive events early between first second notice again) :
    noticeOf second = .ok (some again) := by
  obtain ⟨late, split⟩ := consecutive.split
  rw [split, List.append_cons, ← List.append_assoc] at execution
  obtain ⟨moment, before, after⟩ := execution.split
  cases after with
  | cons step rest => exact before.coherent coherent second again step.notified_handler

/-- A state is reported again only from a run that was in flight when the state was noted. -/
theorem Consecutive.in_flight {start last : System} {events early between : List Event}
    {first second : Run} {notice again : Notice} (execution : Execution start events last)
    (coherent : start.watcher.Coherent) (succeed : ∀ event ∈ events, event.Succeeds)
    (consecutive : Consecutive events early between first second notice again)
    (same : notice.state = again.state) :
    ∃ before rest moment,
      between = before ++ .recorded (noted first notice.state) (.ok ()) :: rest ∧
      Execution start (early ++ .notified first notice (.ok ()) :: before) moment ∧
      moment.watcher.handler = .recording (noted first notice.state) notice.state ∧
      second ∈ moment.watcher.snapshots := by
  have calls := consecutive.again_called execution coherent
  obtain ⟨late, split⟩ := consecutive.split
  rw [split] at execution
  obtain ⟨notifying, toFirst, fromFirst⟩ := execution.split
  cases fromFirst with
  | cons firstStep afterFirst =>
      obtain ⟨renotifying, toSecond, fromSecond⟩ := afterFirst.split
      cases fromSecond with
      | cons secondStep _ =>
          have handling := secondStep.notified_handler
          have moved : renotifying.watcher.handler ≠
              .recording (noted first notice.state) notice.state := by
            rw [handling]
            exact Handler.noConfusion
          obtain ⟨before, rest, outcome, moment, next, parts, toMoment, recording, noting,
            fromNext⟩ := toSecond.recording firstStep.notified_recording moved
          have done : outcome = .ok () := by
            have member : Event.recorded (noted first notice.state) outcome ∈ events := by
              rw [split, parts]
              simp
            exact succeed _ member
          subst done
          have settled := fromNext.settled noting.settles (by
            intro run other member
            refine consecutive.quiet run other ?_
            rw [parts]
            exact List.mem_append_right _ (List.mem_cons_of_mem _ member))
          have held : second ∈ renotifying.watcher.snapshots := by
            unfold Watcher.snapshots
            rw [handling]
            exact List.mem_cons_self
          refine ⟨before, rest, moment, parts, toFirst.append (.cons firstStep toMoment),
            recording, ?_⟩
          rcases settled.listed second held consecutive.name with old | carries
          · exact old
          · exact absurd (same ▸ carries) (noticeOf_some calls).2

theorem coherent_start (stopped : Bool) : (Watcher.start stopped).Coherent :=
  fun _ _ impossible => nomatch impossible

/-- If all calls succeed, a state is reported twice in a row for a run exactly if the run was listed
in that state before the first report was noted on it, and handled after that. -/
theorem alternates_iff_timely {stopped : Bool} {store : Store} {events : List Event}
    {last : System} (execution : Execution ⟨.start stopped, store⟩ events last)
    (succeed : ∀ event ∈ events, event.Succeeds) :
    Alternates events ↔ Timely ⟨.start stopped, store⟩ events := by
  have coherent := coherent_start stopped
  constructor
  · intro alternates early between first second notice again consecutive _ _ _ _ _ _ same
    have calls := consecutive.again_called execution coherent
    have state := (noticeOf_some calls).1
    have equal : notice.state = again.state := same.symm.trans state.symm
    exact alternates early between first second notice again consecutive equal
  · intro timely early between first second notice again consecutive same
    obtain ⟨before, rest, moment, parts, toMoment, _, inFlight⟩ :=
      consecutive.in_flight execution coherent succeed same
    have calls := consecutive.again_called execution coherent
    have state := (noticeOf_some calls).1
    exact timely early between first second notice again consecutive before rest moment parts
      toMoment inFlight (state.symm.trans same.symm)

/-- The sample is listed, taken, and listed again while its notification is under way. -/
def overtaking : List Event :=
  [ .listed (.ok [sampleRun]), .queued, .queued, .taken
  , .listed (.ok [sampleRun]), .queued, .queued ]

/-- What happens to the sample when it is listed again too early. -/
def overtaken : List Event :=
  overtaking ++ .notified sampleRun sampleNotice (.ok ()) ::
    ([.recorded (noted sampleRun .pending) (.ok ()), .taken] ++
      .notified sampleRun sampleNotice (.ok ()) :: [])

theorem take?_sampleRun (poller : Poller) (queue : List Run) :
    Watcher.take? ⟨poller, sampleRun :: queue, .idle, false⟩ =
      some ⟨poller, queue, .notifying sampleRun sampleNotice, false⟩ := by
  simp only [Watcher.take?, noticeOf_sampleRun]

theorem overtaken_execution : ∃ last, Execution ⟨.start false, .sample⟩ overtaken last :=
  ⟨_, .cons (.list rfl) <| .cons (.enqueue rfl) <| .cons (.enqueue rfl) <|
    .cons (.take (take?_sampleRun _ _)) <| .cons (.list rfl) <| .cons (.enqueue rfl) <|
    .cons (.enqueue rfl) <| .cons (.notify rfl _) <| .cons (.record rfl _) <|
    .cons (.take (take?_sampleRun _ _)) <| .cons (.notify rfl _) <| .nil _⟩

theorem overtaken_succeed : ∀ event ∈ overtaken, event.Succeeds := by
  intro event member
  simp only [overtaken, overtaking, List.cons_append, List.nil_append, List.mem_cons,
    List.not_mem_nil, or_false] at member
  rcases member with rfl | rfl | rfl | rfl | rfl | rfl | rfl | rfl | rfl | rfl | rfl <;>
    trivial

theorem overtaken_consecutive :
    Consecutive overtaken overtaking [.recorded (noted sampleRun .pending) (.ok ()), .taken]
      sampleRun sampleRun sampleNotice sampleNotice := by
  refine ⟨⟨[], rfl⟩, rfl, ?_⟩
  intro run other member
  simp only [List.mem_cons, List.not_mem_nil, or_false] at member
  rcases member with impossible | impossible <;> cases impossible

/-- A state can be reported twice in a row although all calls succeed. -/
theorem exists_repeated :
    ∃ events last, Execution ⟨.start false, .sample⟩ events last ∧
      (∀ event ∈ events, event.Succeeds) ∧ ¬ Alternates events := by
  obtain ⟨last, execution⟩ := overtaken_execution
  refine ⟨overtaken, last, execution, overtaken_succeed, ?_⟩
  intro alternates
  exact alternates _ _ _ _ _ _ overtaken_consecutive rfl

theorem overtaken_untimely : ¬ Timely ⟨.start false, .sample⟩ overtaken := by
  intro timely
  obtain ⟨last, execution⟩ := overtaken_execution
  have alternates := (alternates_iff_timely execution overtaken_succeed).mpr timely
  exact alternates _ _ _ _ _ _ overtaken_consecutive rfl

end StagedRuns.Watch
