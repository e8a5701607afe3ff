import StagedRuns.Proofs.Watch.Repetition

/-!
What is noted was acknowledged. A run keeps the repository and the commit that it came with, in the
store and in every snapshot of it. So a note that a handler writes, from however old a snapshot, is
of a state that was reported for just these, and nothing else that a watcher does changes a stored
run.
-/

namespace StagedRuns.Watch

open StagedRuns.Run (State)

/-- Whether a notification is for the repository and the commit of a run. -/
structure Notice.For (notice : Notice) (run : Run) : Prop where
  repository : ∃ address, run.annotation? Run.sourceUrlAnnotation = some address ∧
    repositoryOf? address = some notice.repository
  commit : run.annotation? Run.sourceRefAnnotation = some notice.commit

/-- Whether two runs are one run with other notes or another status. -/
structure Akin (run other : Run) : Prop where
  name : run.metadata.name = other.metadata.name
  annotations : ∀ key, key ≠ Run.memoAnnotation → run.annotation? key = other.annotation? key

theorem Akin.refl (run : Run) : Akin run run :=
  ⟨rfl, fun _ _ => rfl⟩

theorem Akin.trans {run other third : Run} (akin : Akin run other) (further : Akin other third) :
    Akin run third := by
  refine ⟨akin.name.trans further.name, ?_⟩
  intro key apart
  rw [akin.annotations key apart, further.annotations key apart]

theorem akin_noted (run : Run) (state : State) : Akin (noted run state) run := by
  refine ⟨rfl, ?_⟩
  intro key apart
  unfold noted
  rw [Run.annotation?_annotate, if_neg apart]

theorem Notice.For.of_akin {notice : Notice} {run other : Run} (addressed : notice.For run)
    (akin : Akin other run) : notice.For other := by
  obtain ⟨address, given, located⟩ := addressed.repository
  constructor
  · refine ⟨address, ?_, located⟩
    rw [akin.annotations _ (by decide), given]
  · rw [akin.annotations _ (by decide), addressed.commit]

theorem noticeOf_for {run : Run} {notice : Notice} (calls : noticeOf run = .ok (some notice)) :
    notice.For run := by
  unfold noticeOf at calls
  split at calls
  · cases calls
  · cases composed : noticeFor run with
    | error problem =>
        rw [composed] at calls
        cases calls
    | ok other =>
        rw [composed] at calls
        cases calls
        obtain ⟨address, given, located⟩ := Result.bind_eq_ok.mp composed
        cases repository : repositoryOf? address with
        | none =>
            rw [repository] at located
            cases located
        | some name =>
            rw [repository] at located
            obtain ⟨commit, found, same⟩ := Result.bind_eq_ok.mp located
            cases same
            exact ⟨⟨address, needed_ok given, repository⟩, needed_ok found⟩

theorem Store.get?_report {store : Store} {name other : Option String}
    {status : Option Run.Status} {run : Run}
    (found : (store.report name status).get? other = some run) :
    ∃ before, store.get? other = some before ∧
      run.metadata = before.metadata := by
  unfold Store.get? Store.report at found
  rw [named?_report] at found
  obtain ⟨before, present, same⟩ := Option.map_eq_some_iff.mp found
  refine ⟨before, present, ?_⟩
  rw [← same]
  split <;> rfl

/-! ### Where stored runs come from -/

/-- Whether a run was in the store from the beginning, or was created since. -/
def Entered (start : Store) (events : List Event) (run : Run) : Prop :=
  run ∈ start.runs ∨ .created run ∈ events

/-- Whether the note on a run is the one that it came with, or is of a state that was reported for
its repository and its commit. -/
def Accounted (events : List Event) (first run : Run) : Prop :=
  run.annotation? Run.memoAnnotation = first.annotation? Run.memoAnnotation ∨
    ∃ sent notice, .notified sent notice (.ok ()) ∈ events ∧
      sent.metadata.name = run.metadata.name ∧ notice.For run ∧
        run.annotation? Run.memoAnnotation = some notice.state.text

/-- A run that may be stored in place of one that came into the store. -/
def Storable (start : Store) (events : List Event) (run : Run) : Prop :=
  ∃ first, Entered start events first ∧ Akin run first ∧ Accounted events first run

def Known (start : Store) (events : List Event) (run : Run) : Prop :=
  ∃ first, Entered start events first ∧ Akin run first

/-- What holds of a system after the events so far. -/
structure Sound (start : Store) (events : List Event) (system : System) : Prop where
  stays : ∀ first, Entered start events first →
    ∃ run, system.store.get? first.metadata.name = some run
  unique : ∀ first other, Entered start events first → Entered start events other →
    first.metadata.name = other.metadata.name → first = other
  stored : ∀ name run, system.store.get? name = some run → Storable start events run
  snapshots : ∀ run ∈ system.watcher.snapshots, Known start events run
  recording : ∀ run state, system.watcher.handler = .recording run state →
    Storable start events run

variable {start : Store} {events : List Event}

theorem Entered.later {run : Run} (entered : Entered start events run) (event : Event) :
    Entered start (events ++ [event]) run :=
  entered.imp_right fun member => List.mem_append_left _ member

theorem entered_snoc {event : Event} {run : Run}
    (entered : Entered start (events ++ [event]) run) :
    Entered start events run ∨ event = .created run := by
  rcases entered with fromStart | member
  · exact Or.inl (Or.inl fromStart)
  · rcases List.mem_append.mp member with earlier | last
    · exact Or.inl (Or.inr earlier)
    · exact Or.inr (List.mem_singleton.mp last).symm

theorem Known.later {run : Run} (known : Known start events run) (event : Event) :
    Known start (events ++ [event]) run := by
  obtain ⟨first, entered, akin⟩ := known
  exact ⟨first, entered.later event, akin⟩

theorem Storable.later {run : Run} (storable : Storable start events run) (event : Event) :
    Storable start (events ++ [event]) run := by
  obtain ⟨first, entered, akin, accounted⟩ := storable
  refine ⟨first, entered.later event, akin, accounted.imp_right ?_⟩
  rintro ⟨sent, notice, member, facts⟩
  exact ⟨sent, notice, List.mem_append_left _ member, facts⟩

theorem Storable.known {run : Run} (storable : Storable start events run) :
    Known start events run := by
  obtain ⟨first, entered, akin, _⟩ := storable
  exact ⟨first, entered, akin⟩

theorem Storable.of_metadata {run other : Run} (storable : Storable start events run)
    (same : other.metadata = run.metadata) : Storable start events other := by
  have annotations : ∀ key, other.annotation? key = run.annotation? key := by
    intro key
    unfold Run.annotation?
    rw [same]
  have akin : Akin other run := ⟨by rw [same], fun key _ => annotations key⟩
  obtain ⟨first, entered, runAkin, accounted⟩ := storable
  refine ⟨first, entered, akin.trans runAkin, ?_⟩
  unfold Accounted
  rw [annotations]
  refine accounted.imp_right ?_
  rintro ⟨sent, notice, member, named, addressed, text⟩
  exact ⟨sent, notice, member, named.trans akin.name.symm, addressed.of_akin akin, text⟩

/-- A run with a note of what was acknowledged for it may be stored. -/
theorem storable_noted {run : Run} {notice : Notice} (known : Known start events run)
    (acknowledged : .notified run notice (.ok ()) ∈ events) (addressed : notice.For run) :
    Storable start events (noted run notice.state) := by
  obtain ⟨first, entered, akin⟩ := known
  have notedAkin := akin_noted run notice.state
  refine ⟨first, entered, notedAkin.trans akin, Or.inr ?_⟩
  refine ⟨run, notice, acknowledged, rfl, addressed.of_akin notedAkin, ?_⟩
  unfold noted
  rw [Run.annotation?_annotate, if_pos rfl]

/-! ### What a step preserves -/

theorem sound_start (stopped : Bool) (store : Store) : Sound store [] ⟨.start stopped, store⟩ := by
  have fromStart : ∀ first, Entered store [] first → first ∈ store.runs := by
    rintro first (member | none)
    · exact member
    · cases none
  constructor
  · intro first entered
    exact ⟨first, Store.get?_of_mem (fromStart first entered)⟩
  · intro first other entered otherEntered same
    have found := Store.get?_of_mem (fromStart first entered)
    rw [same, Store.get?_of_mem (fromStart other otherEntered)] at found
    exact (Option.some.inj found).symm
  · intro name run found
    exact ⟨run, Or.inl (List.mem_of_find?_eq_some found), .refl run, Or.inl rfl⟩
  · intro run member
    rw [snapshots_start] at member
    cases member
  · intro run state impossible
    cases impossible

namespace Sound

variable {watcher next : Watcher} {store : Store}

theorem of_watcher {event : Event} (sound : Sound start events ⟨watcher, store⟩)
    (enters : ∀ run, event ≠ .created run)
    (snapshots : next.snapshots ⊆ watcher.snapshots ++ store.runs)
    (recording : ∀ run state, next.handler = .recording run state →
      watcher.handler = .recording run state ∨ Storable start (events ++ [event]) run) :
    Sound start (events ++ [event]) ⟨next, store⟩ := by
  have earlier : ∀ run, Entered start (events ++ [event]) run → Entered start events run := by
    intro run entered
    exact (entered_snoc entered).resolve_right (enters run)
  constructor
  · intro first entered
    exact sound.stays first (earlier first entered)
  · intro first other entered otherEntered
    exact sound.unique first other (earlier first entered) (earlier other otherEntered)
  · intro name run found
    exact (sound.stored name run found).later event
  · intro run member
    rcases List.mem_append.mp (snapshots member) with inFlight | listed
    · exact (sound.snapshots run inFlight).later event
    · exact ((sound.stored _ run (Store.get?_of_mem listed)).known).later event
  · intro run state handling
    rcases recording run state handling with still | storable
    · exact (sound.recording run state still).later event
    · exact storable

theorem put (sound : Sound start events ⟨watcher, store⟩) {run : Run}
    (storable : Storable start events run) : Sound start events ⟨watcher, store.put run⟩ := by
  refine ⟨?_, sound.unique, ?_, sound.snapshots, sound.recording⟩
  · intro first entered
    rw [Store.get?_put]
    split
    · exact ⟨run, rfl⟩
    · exact sound.stays first entered
  · intro name other found
    rw [Store.get?_put] at found
    split at found
    · cases found
      exact storable
    · exact sound.stored name other found

theorem report (sound : Sound start events ⟨watcher, store⟩) (name : Option String)
    (status : Option Run.Status) : Sound start events ⟨watcher, store.report name status⟩ := by
  refine ⟨?_, sound.unique, ?_, sound.snapshots, sound.recording⟩
  · intro first entered
    obtain ⟨before, found⟩ := sound.stays first entered
    change ∃ run, named? _ (Watch.report name status store.runs) = some run
    rw [named?_report, show named? _ store.runs = some before from found]
    exact ⟨_, rfl⟩
  · intro other run found
    obtain ⟨before, present, metadata⟩ := Store.get?_report found
    exact (sound.stored other before present).of_metadata metadata

theorem created (sound : Sound start events ⟨watcher, store⟩) {run : Run}
    (fresh : store.get? run.metadata.name = none) :
    Sound start (events ++ [.created run]) ⟨watcher, store.put run⟩ := by
  have here : Entered start (events ++ [.created run]) run :=
    Or.inr (List.mem_append_right _ List.mem_cons_self)
  -- A run that came earlier is still stored, so it has another name.
  have apart : ∀ first, Entered start events first →
      first.metadata.name ≠ run.metadata.name := by
    intro first entered same
    obtain ⟨before, found⟩ := sound.stays first entered
    rw [same, fresh] at found
    cases found
  constructor
  · intro first entered
    rw [Store.get?_put]
    by_cases same : first.metadata.name = run.metadata.name
    · exact ⟨run, if_pos same⟩
    · rw [if_neg same]
      rcases entered_snoc entered with earlier | created
      · exact sound.stays first earlier
      · cases created
        exact absurd rfl same
  · intro first other entered otherEntered same
    rcases entered_snoc entered with earlier | created
    · rcases entered_snoc otherEntered with otherEarlier | otherCreated
      · exact sound.unique first other earlier otherEarlier same
      · cases otherCreated
        exact absurd same (apart first earlier)
    · cases created
      rcases entered_snoc otherEntered with otherEarlier | otherCreated
      · exact absurd same.symm (apart other otherEarlier)
      · cases otherCreated
        rfl
  · intro name other found
    rw [Store.get?_put] at found
    split at found
    · cases found
      exact ⟨run, here, .refl run, Or.inl rfl⟩
    · exact (sound.stored name other found).later _
  · intro other member
    exact (sound.snapshots other member).later _
  · intro other state handling
    exact (sound.recording other state handling).later _

theorem notified (sound : Sound start events ⟨watcher, store⟩) (coherent : watcher.Coherent)
    {run : Run} {notice : Notice} (handling : watcher.handler = .notifying run notice)
    (outcome : Except WatchError Unit) :
    Sound start (events ++ [.notified run notice outcome]) ⟨watcher.notified outcome, store⟩ := by
  have facts := notified_facts handling outcome
  have known : Known start events run := by
    refine sound.snapshots run ?_
    rw [facts.1]
    exact List.mem_cons_self
  refine sound.of_watcher (fun _ => Event.noConfusion) ?_ ?_
  · rw [facts.1, List.cons_append]
    exact List.subset_cons_of_subset run (List.subset_append_left _ _)
  · intro other state recording
    rcases facts.2 with ⟨rfl, next⟩ | idle
    · rw [next] at recording
      cases recording
      have here := List.mem_append_right events
        (List.mem_singleton_self (Event.notified run notice (.ok ())))
      exact Or.inr (storable_noted (known.later _) here
        (noticeOf_for (coherent run notice handling)))
    · rw [idle] at recording
      cases recording

theorem recorded (sound : Sound start events ⟨watcher, store⟩) {run : Run} {state : State}
    (handling : watcher.handler = .recording run state) (outcome : Except ClientError Unit) :
    Sound start (events ++ [.recorded run outcome]) ⟨watcher.recorded, store⟩ := by
  refine sound.of_watcher (fun _ => Event.noConfusion) ?_ ?_
  · exact subset_append_of_eq (recorded_snapshots handling)
  · intro other later impossible
    cases impossible

end Sound

theorem Step.sound {before after : System} {event : Event} (step : Step before event after)
    (coherent : before.watcher.Coherent) (sound : Sound start events before) :
    Sound start (events ++ [event]) after := by
  have snapshots := step.snapshots
  cases step with
  | list may =>
      exact sound.of_watcher (fun _ => Event.noConfusion) snapshots fun _ _ handling =>
        Or.inl handling
  | listFails may problem =>
      exact sound.of_watcher (fun _ => Event.noConfusion) snapshots fun _ _ handling =>
        Or.inl handling
  | enqueue moved =>
      refine sound.of_watcher (fun _ => Event.noConfusion) snapshots ?_
      rw [(enqueue?_facts moved).1]
      exact fun _ _ handling => Or.inl handling
  | wake moved =>
      refine sound.of_watcher (fun _ => Event.noConfusion) snapshots ?_
      rw [(wake?_facts moved).1]
      exact fun _ _ handling => Or.inl handling
  | take moved =>
      refine sound.of_watcher (fun _ => Event.noConfusion) snapshots ?_
      intro run state recording
      rcases (take?_facts moved).2.2 with idle | ⟨taken, notice, notifying, _⟩
      · rw [idle] at recording
        cases recording
      · rw [notifying] at recording
        cases recording
  | notify handling outcome => exact sound.notified coherent handling outcome
  | @record watcher store run state handling outcome =>
      have idle := sound.recorded handling outcome
      cases outcome with
      | error problem => exact idle
      | ok => exact idle.put ((sound.recording run state handling).later _)
  | @lose watcher store run state handling problem =>
      have idle := sound.recorded handling (.error problem)
      exact idle.put ((sound.recording run state handling).later _)
  | report name status =>
      have enters : ∀ run, Event.reported name status ≠ .created run :=
        fun _ => Event.noConfusion
      have same := sound.of_watcher enters (List.subset_append_left _ _)
        fun _ _ handling => Or.inl handling
      exact same.report name status
  | create fresh => exact sound.created fresh
  | signal =>
      exact sound.of_watcher (fun _ => Event.noConfusion) snapshots fun _ _ handling =>
        Or.inl handling
  | stop idle =>
      exact sound.of_watcher (fun _ => Event.noConfusion) snapshots fun _ _ impossible =>
        nomatch impossible

theorem Execution.sound {first last : System} {late : List Event}
    (execution : Execution first late last) (coherent : first.watcher.Coherent)
    (sound : Sound start events first) : Sound start (events ++ late) last := by
  induction execution generalizing events with
  | nil system =>
      rw [List.append_nil]
      exact sound
  | @cons first second last event late step rest ih =>
      have next := ih (step.coherent coherent) (step.sound coherent sound)
      rwa [List.append_assoc] at next

/-! ### What changes the store -/

def Event.OfHandler : Event → Prop
  | .taken => True
  | .notified _ _ _ => True
  | .recorded _ _ => True
  | .ended => True
  | _ => False

def Event.OfEngine : Event → Prop
  | .reported _ _ => True
  | .created _ => True
  | _ => False

theorem Step.stays_recording {before after : System} {event : Event} {run : Run} {state : State}
    (step : Step before event after) (handling : before.watcher.handler = .recording run state)
    (still : after.watcher.handler = .recording run state) : ¬ event.OfHandler := by
  cases step with
  | take moved =>
      rw [(take?_facts moved).1] at handling
      cases handling
  | notify notifying outcome =>
      rw [notifying] at handling
      cases handling
  | record recording outcome => cases still
  | lose recording problem => cases still
  | stop idle => cases still
  | list may => exact id
  | listFails may problem => exact id
  | enqueue moved => exact id
  | wake moved => exact id
  | report name status => exact id
  | create fresh => exact id
  | signal => exact id

/-- A handler that records is about to end what it began with an acknowledged notification. -/
theorem Execution.acknowledged {first last : System} {run : Run} {state : State}
    (execution : Execution first events last)
    (recording : last.watcher.handler = .recording run state) :
    (first.watcher.handler = .recording run state ∧ ∀ event ∈ events, ¬ event.OfHandler) ∨
      ∃ early sent notice between, events = early ++ .notified sent notice (.ok ()) :: between ∧
        run = noted sent notice.state ∧ ∀ event ∈ between, ¬ event.OfHandler := by
  induction execution with
  | nil system => exact Or.inl ⟨recording, fun _ none => nomatch none⟩
  | @cons first second last event late step rest ih =>
      rcases ih recording with ⟨handling, quiet⟩ | ⟨early, sent, notice, between, rfl, same, quiet⟩
      · rcases step.recording_of handling with already | ⟨sent, notice, rfl, same⟩
        · refine Or.inl ⟨already, ?_⟩
          intro other member
          rcases List.mem_cons.mp member with rfl | later
          · exact step.stays_recording already handling
          · exact quiet other later
        · exact Or.inr ⟨[], sent, notice, late, rfl, same, quiet⟩
      · exact Or.inr ⟨event :: early, sent, notice, between, rfl, same, quiet⟩

theorem Step.store_cases {before after : System} {event : Event} (step : Step before event after)
    (changed : after.store ≠ before.store) :
    event.OfEngine ∨ ∃ run state outcome, before.watcher.handler = .recording run state ∧
      event = .recorded run outcome ∧ after.store = before.store.put run := by
  cases step with
  | @record watcher store run state handling outcome =>
      cases outcome with
      | error problem => exact absurd rfl changed
      | ok => exact Or.inr ⟨run, state, .ok (), handling, rfl, rfl⟩
  | @lose watcher store run state handling problem =>
      exact Or.inr ⟨run, state, .error problem, handling, rfl, rfl⟩
  | report name status => exact Or.inl trivial
  | create fresh => exact Or.inl trivial
  | list may => exact absurd rfl changed
  | listFails may problem => exact absurd rfl changed
  | enqueue moved => exact absurd rfl changed
  | wake moved => exact absurd rfl changed
  | take moved => exact absurd rfl changed
  | notify handling outcome => exact absurd rfl changed
  | signal => exact absurd rfl changed
  | stop idle => exact absurd rfl changed

/-- What is recorded was acknowledged, however the steps of poller, handler and engine are mixed and
whatever calls fail, also where an update is made and said to have failed. A stored run has the note
that it came with, or one of a state of which a notification for its repository and its commit was
acknowledged; and a step changes the store only if it is the engine's, or if it is an update that
the handler makes right after a notification for the same run was acknowledged. -/
theorem recorded_acknowledged {stopped : Bool} {store : Store} {events : List Event}
    {last : System} (execution : Execution ⟨.start stopped, store⟩ events last) :
    (∀ name run, last.store.get? name = some run →
      ∃ first, (Entered store events first ∧ first.metadata.name = name) ∧
        (∀ other, Entered store events other → other.metadata.name = name → other = first) ∧
        (run.annotation? Run.memoAnnotation ≠ first.annotation? Run.memoAnnotation →
          ∃ sent notice, .notified sent notice (.ok ()) ∈ events ∧
            sent.metadata.name = name ∧ notice.For run ∧
              run.annotation? Run.memoAnnotation = some notice.state.text)) ∧
    ∀ early before event after, Execution ⟨.start stopped, store⟩ early before →
      Step before event after → after.store ≠ before.store →
        event.OfEngine ∨
          ∃ earlier sent notice between,
            early = earlier ++ .notified sent notice (.ok ()) :: between ∧
            (∀ other ∈ between, ¬ other.OfHandler) ∧
            (∃ outcome, event = .recorded (noted sent notice.state) outcome) ∧
            after.store = before.store.put (noted sent notice.state) := by
  constructor
  · intro name run found
    have sound := execution.sound (coherent_start stopped) (sound_start stopped store)
    obtain ⟨first, entered, akin, accounted⟩ := sound.stored name run found
    have named : run.metadata.name = name := Store.get?_name found
    have firstNamed : first.metadata.name = name := akin.name.symm.trans named
    refine ⟨first, ⟨entered, firstNamed⟩, ?_, ?_⟩
    · intro other otherEntered same
      exact sound.unique other first otherEntered entered (same.trans firstNamed.symm)
    · intro differs
      obtain ⟨sent, notice, member, sentNamed, addressed, text⟩ :=
        accounted.resolve_left differs
      exact ⟨sent, notice, member, sentNamed.trans named, addressed, text⟩
  · intro early before event after toBefore step changed
    rcases step.store_cases changed with engine | ⟨run, state, outcome, handling, rfl, put⟩
    · exact Or.inl engine
    · rcases toBefore.acknowledged handling with ⟨atStart, _⟩ | acknowledged
      · cases atStart
      · obtain ⟨earlier, sent, notice, between, split, rfl, quiet⟩ := acknowledged
        exact Or.inr ⟨earlier, sent, notice, between, split, quiet, ⟨outcome, rfl⟩, put⟩

/-- The sample came without a note; the one that it has after it was handled was acknowledged. -/
theorem overtaken_acknowledged :
    ∃ last run, Execution ⟨.start false, .sample⟩ overtaken last ∧
      last.store.get? sampleRun.metadata.name = some run ∧
      sampleRun.annotation? Run.memoAnnotation = none ∧
      run.annotation? Run.memoAnnotation = some "Pending" ∧
      ∃ sent notice, .notified sent notice (.ok ()) ∈ overtaken ∧ notice.For run ∧
        run.annotation? Run.memoAnnotation = some notice.state.text := by
  have execution : ∃ last, Execution ⟨.start false, .sample⟩ overtaken last ∧
      last.store = Store.sample.put (noted sampleRun .pending) :=
    ⟨_, .cons (.list rfl) <| .cons (.enqueue rfl) <| .cons (.enqueue rfl) <|
      .cons (.take (take?_sampleRun _ _)) <| .cons (.list rfl) <| .cons (.enqueue rfl) <|
      .cons (.enqueue rfl) <| .cons (.notify rfl _) <| .cons (.record rfl _) <|
      .cons (.take (take?_sampleRun _ _)) <| .cons (.notify rfl _) <| .nil _, rfl⟩
  obtain ⟨last, execution, stored⟩ := execution
  have found : last.store.get? sampleRun.metadata.name = some (noted sampleRun .pending) := by
    rw [stored, Store.get?_put, noted_name, if_pos rfl]
  have without : sampleRun.annotation? Run.memoAnnotation = none := by decide
  have noted : (noted sampleRun .pending).annotation? Run.memoAnnotation = some "Pending" := by
    decide
  refine ⟨last, _, execution, found, without, noted, ?_⟩
  obtain ⟨first, ⟨_, named⟩, unique, accounted⟩ := (recorded_acknowledged execution).1 _ _ found
  obtain rfl : sampleRun = first := unique sampleRun (Or.inl List.mem_cons_self) rfl
  have differs : (Watch.noted sampleRun .pending).annotation? Run.memoAnnotation ≠
      sampleRun.annotation? Run.memoAnnotation := by
    rw [noted, without]
    exact Option.some_ne_none _
  obtain ⟨sent, notice, member, _, addressed, text⟩ := accounted differs
  exact ⟨sent, notice, member, addressed, text⟩

end StagedRuns.Watch
