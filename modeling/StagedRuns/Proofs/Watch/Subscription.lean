import StagedRuns.Proofs.Watch.System
import StagedRuns.Watch.Subscription

/-!
What a subscription delivers, whatever the order of the moves: the runs as they were listed, none
left out, repeated or moved, and no more listings but one once the signal to stop stays given. A
watcher is a subscription with a handler.
-/

namespace StagedRuns.Watch

namespace Subscription

inductive Change : Subscription → Move → Subscription → Prop
  | stopped {queue : List Run} {signal : Signal} {held : Bool} (given : signal.value = true) :
      Change ⟨.checking, queue, signal, held⟩ .check ⟨.ended, queue, signal, held⟩
  | continued {queue : List Run} {signal : Signal} {held : Bool} (open_ : signal.value = false) :
      Change ⟨.checking, queue, signal, held⟩ .check ⟨.waiting, queue, signal, held⟩
  | polled {queue : List Run} {signal : Signal} {held : Bool} :
      Change ⟨.waiting, queue, signal, held⟩ .poll ⟨.listing, queue, signal, held⟩
  | woken {queue : List Run} {signal : Signal} {held : Bool} :
      Change ⟨.waiting, queue, signal, held⟩ .wake
        ⟨.checking, queue, { signal with unseen := false }, held⟩
  | abandoned {queue : List Run} {signal : Signal} {held : Bool} :
      Change ⟨.waiting, queue, signal, held⟩ .wake ⟨.ended, queue, signal, held⟩
  | listed {queue : List Run} {signal : Signal} {held : Bool} (runs : List Run) :
      Change ⟨.listing, queue, signal, held⟩ (.list (.ok runs))
        ⟨.sending runs, queue, signal, held⟩
  | unlisted {queue : List Run} {signal : Signal} {held : Bool} (problem : ClientError) :
      Change ⟨.listing, queue, signal, held⟩ (.list (.error problem))
        ⟨.checking, queue, signal, held⟩
  | sentAll {queue : List Run} {signal : Signal} {held : Bool} :
      Change ⟨.sending [], queue, signal, held⟩ .send ⟨.checking, queue, signal, held⟩
  | sent {run : Run} {runs queue : List Run} {signal : Signal}
      (room : queue.length < capacity) :
      Change ⟨.sending (run :: runs), queue, signal, true⟩ .send
        ⟨.sending runs, queue ++ [run], signal, true⟩
  | unsent {run : Run} {runs queue : List Run} {signal : Signal} :
      Change ⟨.sending (run :: runs), queue, signal, false⟩ .send ⟨.ended, queue, signal, false⟩
  | delivered {phase : Phase} {run : Run} {queue : List Run} {signal : Signal} :
      Change ⟨phase, run :: queue, signal, true⟩ (.next (some run)) ⟨phase, queue, signal, true⟩
  | exhausted {signal : Signal} :
      Change ⟨.ended, [], signal, true⟩ (.next none) ⟨.ended, [], signal, true⟩
  | given {phase : Phase} {queue : List Run} {signal : Signal} {held : Bool} (value : Bool) :
      Change ⟨phase, queue, signal, held⟩ (.give value) ⟨phase, queue, ⟨value, true, false⟩, held⟩
  | deserted {phase : Phase} {queue : List Run} {signal : Signal} {held : Bool} :
      Change ⟨phase, queue, signal, held⟩ .desert
        ⟨phase, queue, { signal with deserted := true }, held⟩
  | dropped {phase : Phase} {queue : List Run} {signal : Signal} {held : Bool} :
      Change ⟨phase, queue, signal, held⟩ .drop ⟨phase, [], signal, false⟩
  | aborted {phase : Phase} {queue : List Run} {signal : Signal} :
      Change ⟨phase, queue, signal, false⟩ .abort ⟨.ended, queue, signal, false⟩

variable {before after last : Subscription} {move : Move} {moves : List Move}

theorem next?_cases {answer : Option Run} (asked : before.next? = some (answer, after)) :
    Change before (.next answer) after := by
  obtain ⟨phase, queue, signal, held⟩ := before
  unfold next? at asked
  split at asked
  · cases asked
    rename_i alive queued
    cases alive
    cases queued
    exact .delivered
  · cases asked
    rename_i alive empty ended
    cases alive
    cases empty
    cases ended
    exact .exhausted
  · cases asked

theorem send?_cases (sent : before.send? = some after) : Change before .send after := by
  obtain ⟨phase, queue, signal, held⟩ := before
  cases phase with
  | sending runs =>
      cases runs with
      | nil =>
          cases sent
          exact .sentAll
      | cons run runs =>
          cases held with
          | false =>
              cases sent
              exact .unsent
          | true =>
              by_cases room : queue.length < capacity
              · simp only [send?, if_pos room] at sent
                cases sent
                exact .sent room
              · simp only [send?, if_neg room] at sent
                cases sent
  | checking | waiting | listing | ended => cases sent

theorem wake?_cases (woken : before.wake? = some after) : Change before .wake after := by
  obtain ⟨phase, queue, ⟨value, unseen, deserted⟩, held⟩ := before
  cases phase with
  | waiting =>
      cases unseen with
      | true =>
          cases woken
          exact .woken
      | false =>
          cases deserted with
          | true =>
              cases woken
              exact .abandoned
          | false => cases woken
  | checking | listing | sending runs | ended => cases woken

theorem change_of_after? (moved : before.after? move = some after) :
    Change before move after := by
  cases move with
  | send => exact send?_cases moved
  | wake => exact wake?_cases moved
  | next answer =>
      obtain ⟨⟨found, rest⟩, asked, same⟩ := Option.bind_eq_some_iff.mp moved
      dsimp only at same
      by_cases agrees : found = answer
      · rw [if_pos agrees] at same
        cases same
        exact agrees ▸ next?_cases asked
      · rw [if_neg agrees] at same
        cases same
  | check =>
      obtain ⟨phase, queue, ⟨value, unseen, deserted⟩, held⟩ := before
      cases phase with
      | checking =>
          cases value with
          | true =>
              cases moved
              exact .stopped rfl
          | false =>
              cases moved
              exact .continued rfl
      | waiting | listing | sending runs | ended => cases moved
  | poll =>
      obtain ⟨phase, queue, signal, held⟩ := before
      cases phase with
      | waiting =>
          cases moved
          exact .polled
      | checking | listing | sending runs | ended => cases moved
  | list outcome =>
      obtain ⟨phase, queue, signal, held⟩ := before
      cases phase with
      | listing =>
          cases outcome with
          | error problem =>
              cases moved
              exact .unlisted problem
          | ok runs =>
              cases moved
              exact .listed runs
      | checking | waiting | sending runs | ended => cases moved
  | give value =>
      obtain ⟨phase, queue, ⟨given, unseen, deserted⟩, held⟩ := before
      cases deserted with
      | true => cases moved
      | false =>
          cases moved
          exact .given value
  | desert =>
      cases moved
      exact .deserted
  | drop =>
      cases moved
      exact .dropped
  | abort =>
      obtain ⟨phase, queue, signal, held⟩ := before
      cases held with
      | true => cases moved
      | false =>
          cases moved
          exact .aborted

theorem play_cons (played : before.play (move :: moves) = some last) :
    ∃ after, Change before move after ∧ after.play moves = some last := by
  obtain ⟨after, moved, rest⟩ := Option.bind_eq_some_iff.mp played
  exact ⟨after, change_of_after? moved, rest⟩

theorem play_append {early late : List Move} :
    before.play (early ++ late) = (before.play early).bind (·.play late) := by
  induction early generalizing before with
  | nil => rfl
  | cons move early ih =>
      change (before.after? move).bind (·.play (early ++ late)) =
        ((before.after? move).bind (·.play early)).bind (·.play late)
      rw [Option.bind_assoc]
      congr 1
      funext after
      exact ih

/-! ### What is delivered -/

/-- The runs that a phase still has to put into the queue. -/
def Phase.unsent : Phase → List Run
  | .sending runs => runs
  | _ => []

def Move.delivery? : Move → Option Run
  | .next answer => answer
  | _ => none

def Move.listing? : Move → Option (List Run)
  | .list (.ok runs) => some runs
  | _ => none

def delivered (moves : List Move) : List Run :=
  moves.filterMap Move.delivery?

def listings (moves : List Move) : List (List Run) :=
  moves.filterMap Move.listing?

/-- What was delivered and what was listed, against where a subscription is. -/
structure Ledger (got : List Run) (lists : List (List Run)) (subscription : Subscription) :
    Prop where
  inOrder : got <+: lists.flatten
  whole : subscription.held = true →
    got ++ (subscription.queue ++ subscription.phase.unsent) = lists.flatten
  bounded : subscription.queue.length ≤ capacity

namespace Ledger

variable {got : List Run} {lists : List (List Run)}

theorem of_same (ledger : Ledger got lists before) (queue : after.queue = before.queue)
    (unsent : after.phase.unsent = before.phase.unsent)
    (held : after.held = true → before.held = true) : Ledger got lists after := by
  refine ⟨ledger.inOrder, ?_, queue ▸ ledger.bounded⟩
  rw [queue, unsent]
  exact fun still => ledger.whole (held still)

theorem of_released (ledger : Ledger got lists before) (released : after.held = false)
    (fewer : after.queue.length ≤ before.queue.length) : Ledger got lists after := by
  refine ⟨ledger.inOrder, ?_, Nat.le_trans fewer ledger.bounded⟩
  intro held
  cases released.symm.trans held

end Ledger

theorem Change.ledger {got : List Run} {lists : List (List Run)}
    (change : Change before move after) (ledger : Ledger got lists before) :
    Ledger (got ++ move.delivery?.toList) (lists ++ move.listing?.toList) after := by
  cases change with
  | listed runs =>
      change Ledger (got ++ []) (lists ++ [runs]) _
      rw [List.append_nil]
      refine ⟨?_, ?_, ledger.bounded⟩
      · rw [List.flatten_append]
        exact ledger.inOrder.trans (List.prefix_append _ _)
      · intro held
        have before := ledger.whole held
        simp only [Phase.unsent, List.append_nil] at before
        simp [Phase.unsent, ← before]
  | sent room =>
      change Ledger (got ++ []) (lists ++ []) _
      rw [List.append_nil, List.append_nil]
      refine ⟨ledger.inOrder, ?_, ?_⟩
      · intro held
        simpa [Phase.unsent] using ledger.whole held
      · rw [List.length_append, List.length_singleton]
        exact room
  | @delivered phase run queue signal =>
      change Ledger (got ++ [run]) (lists ++ []) _
      rw [List.append_nil]
      have whole : (got ++ [run]) ++ (queue ++ phase.unsent) = lists.flatten := by
        simpa using ledger.whole rfl
      exact ⟨⟨_, whole⟩, fun _ => whole, Nat.le_of_succ_le ledger.bounded⟩
  | dropped =>
      change Ledger (got ++ []) (lists ++ []) _
      rw [List.append_nil, List.append_nil]
      exact ledger.of_released rfl (Nat.zero_le _)
  | unsent | aborted =>
      change Ledger (got ++ []) (lists ++ []) _
      rw [List.append_nil, List.append_nil]
      exact ledger.of_released rfl (Nat.le_refl _)
  | stopped | continued | polled | woken | abandoned | unlisted | sentAll | exhausted | given
  | deserted =>
      change Ledger (got ++ []) (lists ++ []) _
      rw [List.append_nil, List.append_nil]
      exact ledger.of_same rfl rfl id

theorem play_ledger {got : List Run} {lists : List (List Run)} (ledger : Ledger got lists before)
    (played : before.play moves = some last) :
    Ledger (got ++ delivered moves) (lists ++ listings moves) last := by
  induction moves generalizing before got lists with
  | nil =>
      cases played
      simpa [delivered, listings] using ledger
  | cons move moves ih =>
      obtain ⟨after, change, rest⟩ := play_cons played
      -- the ledger is kept by one move, and the moves that follow start from there
      have next := ih (change.ledger ledger) rest
      have got : delivered (move :: moves) = move.delivery?.toList ++ delivered moves := by
        unfold delivered
        cases found : move.delivery? <;> simp [found]
      have lists : listings (move :: moves) = move.listing?.toList ++ listings moves := by
        unfold listings
        cases found : move.listing? <;> simp [found]
      rw [got, lists, ← List.append_assoc, ← List.append_assoc]
      exact next

theorem start_ledger {signal : Signal} (played : (start signal).play moves = some last) :
    Ledger (delivered moves) (listings moves) last := by
  have empty : Ledger [] [] (start signal) :=
    ⟨List.prefix_rfl, fun _ => rfl, Nat.zero_le _⟩
  simpa using play_ledger empty played

/-! ### Stopping -/

def Move.polls : Move → Bool
  | .poll => true
  | _ => false

/-- How many listings may still begin after the signal to stop. -/
def Phase.left : Phase → Nat
  | .waiting => 1
  | _ => 0

/-- While the signal to stop stays given, the listings that may still begin become no more. -/
theorem Change.left (change : Change before move after) (given : before.signal.value = true)
    (stays : ∀ value, move = .give value → value = true) :
    after.signal.value = true ∧
      (if move.polls then 1 else 0) + after.phase.left ≤ before.phase.left := by
  cases change with
  | continued open_ => cases open_.symm.trans given
  | given value => exact ⟨stays value rfl, Nat.le_of_eq (Nat.zero_add _)⟩
  | _ => simp_all [Move.polls, Phase.left]

theorem play_polls (given : before.signal.value = true)
    (stays : ∀ value, .give value ∈ moves → value = true)
    (played : before.play moves = some last) :
    moves.countP Move.polls + last.phase.left ≤ before.phase.left := by
  induction moves generalizing before with
  | nil =>
      cases played
      simp
  | cons move moves ih =>
      obtain ⟨after, change, rest⟩ := play_cons played
      obtain ⟨still, fewer⟩ := change.left given fun value same =>
        stays value (same ▸ List.mem_cons_self)
      have later := ih still (fun value inRest => stays value (List.mem_cons_of_mem _ inRest)) rest
      rw [List.countP_cons]
      omega

/-- However the moves are mixed, what was delivered is the beginning of what was listed, and all of it
but for the runs in the queue and those still to be sent. That there are no more runs is told only
when the task has ended and all that it listed was delivered. Once the signal to stop is given and
stays so, no more than one listing begins. -/
theorem delivers_as_listed {signal : Signal} (played : (start signal).play moves = some last) :
    delivered moves <+: (listings moves).flatten ∧
    (last.held = true → last.queue.length ≤ capacity ∧
      delivered moves ++ (last.queue ++ last.phase.unsent) = (listings moves).flatten) ∧
    (∀ early late, moves = early ++ .next none :: late →
      ∃ moment, (start signal).play early = some moment ∧ moment.phase = .ended ∧
        delivered early = (listings early).flatten) ∧
    ∀ early late moment, moves = early ++ late → (start signal).play early = some moment →
      moment.signal.value = true → (∀ value, .give value ∈ late → value = true) →
        late.countP Move.polls ≤ 1 := by
  have ledger := start_ledger played
  refine ⟨ledger.inOrder, fun held => ⟨ledger.bounded, ledger.whole held⟩, ?_, ?_⟩
  · rintro early late rfl
    rw [play_append] at played
    obtain ⟨moment, reached, rest⟩ := Option.bind_eq_some_iff.mp played
    obtain ⟨after, change, _⟩ := play_cons rest
    refine ⟨moment, reached, ?_⟩
    have whole := (start_ledger reached).whole
    -- only a task that has ended, with an empty queue, answers that there are no more runs
    cases change with
    | exhausted =>
        refine ⟨rfl, ?_⟩
        simpa [Phase.unsent] using whole rfl
  · rintro early late moment rfl reached given stays
    rw [play_append, reached] at played
    have fewer := play_polls given stays played
    have few : moment.phase.left ≤ 1 := by
      cases moment.phase <;> simp [Phase.left]
    omega

/-- After the signal the task may be faster than the signal, and lists once more. -/
def afterSignal : List Move :=
  [ .poll, .list (.ok [sampleRun, sampleRun]), .send, .next (some sampleRun), .send, .send, .check
  , .next (some sampleRun), .next none ]

def stoppedLate : List Move :=
  [.check, .give true] ++ afterSignal

theorem stoppedLate_delivers :
    ∃ last, (start ⟨false, false, false⟩).play stoppedLate = some last ∧
      delivered stoppedLate = [sampleRun, sampleRun] ∧
      delivered stoppedLate <+: (listings stoppedLate).flatten ∧
      afterSignal.countP Move.polls = 1 ∧ afterSignal.countP Move.polls ≤ 1 := by
  have played : (start ⟨false, false, false⟩).play stoppedLate =
      some ⟨.ended, [], ⟨true, true, false⟩, true⟩ := rfl
  obtain ⟨inOrder, _, _, stops⟩ := delivers_as_listed played
  refine ⟨_, played, rfl, inOrder, rfl, ?_⟩
  refine stops [.check, .give true] afterSignal ⟨.waiting, [], ⟨true, true, false⟩, true⟩ rfl rfl
    rfl ?_
  intro value member
  simp [afterSignal] at member

end Subscription

/-! ### The subscription of a watcher -/

def Poller.phase : Poller → Subscription.Phase
  | .waiting => .waiting
  | .sending runs => .sending runs
  | .ended => .ended

def Event.listing? : Event → Option (List Run)
  | .listed (.ok runs) => some runs
  | _ => none

/-- A subscription is as far as a watcher that has it. A signal that is given while the poller waits
can wake it. -/
inductive Subscription.Beneath : Subscription → Watcher → Prop
  | held (poller : Poller) {queue : List Run} {handler : Handler} {stopped unseen : Bool}
      (alert : poller = .waiting → stopped = true → unseen = true) (goesOn : handler ≠ .ended) :
      Beneath ⟨poller.phase, queue, ⟨stopped, unseen, false⟩, true⟩
        ⟨poller, queue, handler, stopped⟩
  | released {queue : List Run} {stopped unseen : Bool} :
      Beneath ⟨.ended, queue, ⟨stopped, unseen, false⟩, false⟩ ⟨.ended, queue, .ended, stopped⟩

namespace Subscription.Beneath

variable {subscription : Subscription} {watcher next : Watcher}

/-- The poller looks at the signal before it waits. -/
theorem check (queue : List Run) (stopped unseen : Bool) {handler : Handler}
    (goesOn : handler ≠ .ended) :
    ∃ after, play ⟨.checking, queue, ⟨stopped, unseen, false⟩, true⟩ [.check] = some after ∧
      after.Beneath ⟨.next stopped, queue, handler, stopped⟩ := by
  cases stopped with
  | false => exact ⟨_, rfl, .held .waiting nofun goesOn⟩
  | true => exact ⟨_, rfl, .held .ended nofun goesOn⟩

theorem start (stopped : Bool) :
    ∃ after, (Subscription.start ⟨stopped, false, false⟩).play [.check] = some after ∧
      after.Beneath (.start stopped) :=
  check [] stopped false nofun

theorem list (beneath : subscription.Beneath watcher) (may : watcher.mayList = true)
    (runs : List Run) :
    ∃ after, subscription.play [.poll, .list (.ok runs)] = some after ∧
      after.Beneath (watcher.listed (.ok runs)) := by
  cases beneath with
  | released => cases may
  | held poller alert goesOn =>
      cases poller with
      | sending | ended => cases may
      | waiting => exact ⟨_, rfl, .held (.sending runs) nofun goesOn⟩

theorem listFails (beneath : subscription.Beneath watcher) (may : watcher.mayList = true)
    (problem : ClientError) :
    ∃ after, subscription.play [.poll, .list (.error problem), .check] = some after ∧
      after.Beneath (watcher.listed (.error problem)) := by
  cases beneath with
  | released => cases may
  | held poller alert goesOn =>
      cases poller with
      | sending | ended => cases may
      | waiting => exact check _ _ _ goesOn

theorem enqueue (beneath : subscription.Beneath watcher)
    (moved : watcher.enqueue? = some next) :
    ∃ moves after, subscription.play moves = some after ∧ after.Beneath next ∧
      listings moves = [] := by
  cases beneath with
  | released => cases moved
  | @held _ queue _ stopped unseen alert goesOn =>
      rcases enqueue?_cases moved with ⟨polling, rfl⟩ | ⟨run, runs, polling, room, rfl⟩
      · cases polling
        obtain ⟨after, checked, still⟩ := check queue stopped unseen goesOn
        exact ⟨[.send, .check], after, checked, still, rfl⟩
      · cases polling
        refine ⟨[.send], ⟨.sending runs, queue ++ [run], ⟨stopped, unseen, false⟩, true⟩, ?_,
          .held (.sending runs) nofun goesOn, rfl⟩
        dsimp only at room
        simp [play, after?, send?, Poller.phase, room]

theorem wake (beneath : subscription.Beneath watcher) (moved : watcher.wake? = some next) :
    ∃ after, subscription.play [.wake, .check] = some after ∧ after.Beneath next := by
  obtain ⟨polling, stopped, rfl⟩ := Watch.wake?_cases moved
  cases beneath with
  | released => cases polling
  | held poller alert goesOn =>
      cases polling
      cases stopped
      cases alert rfl rfl
      exact ⟨_, rfl, .held .ended nofun goesOn⟩

theorem take (beneath : subscription.Beneath watcher) (moved : watcher.take? = some next) :
    ∃ run after, subscription.play [.next (some run)] = some after ∧ after.Beneath next := by
  obtain ⟨run, queue, idle, queued, rest⟩ := take?_cases moved
  cases beneath with
  | released => cases idle
  | @held poller _ handler stopped unseen alert goesOn =>
      cases queued
      refine ⟨run, ⟨poller.phase, queue, ⟨stopped, unseen, false⟩, true⟩, ?_, ?_⟩
      · simp [play, after?, next?]
      · rcases rest with rfl | ⟨notice, _, rfl⟩
        · exact .held poller alert goesOn
        · exact .held poller alert nofun

theorem signal (beneath : subscription.Beneath watcher) :
    ∃ after, subscription.play [.give true] = some after ∧
      after.Beneath { watcher with stopped := true } := by
  cases beneath with
  | held poller alert goesOn => exact ⟨_, rfl, .held poller (fun _ _ => rfl) goesOn⟩
  | released => exact ⟨_, rfl, .released⟩

theorem stop (beneath : subscription.Beneath watcher) :
    ∃ after, subscription.play [.give true, .drop, .abort] = some after ∧
      after.Beneath watcher.stop := by
  cases beneath with
  | held poller alert goesOn => exact ⟨_, rfl, .released⟩
  | released => exact ⟨_, rfl, .released⟩

theorem of_handler (beneath : subscription.Beneath watcher) {handler : Handler}
    (goesOn : watcher.handler ≠ .ended) (goesOnStill : handler ≠ .ended) :
    subscription.Beneath { watcher with handler } := by
  cases beneath with
  | held poller alert => exact .held poller alert goesOnStill
  | released => exact absurd rfl goesOn

end Subscription.Beneath

open Subscription (Move listings)

theorem notified_with_handler {watcher : Watcher} (outcome : Except WatchError Unit) :
    watcher.notified outcome = { watcher with handler := (watcher.notified outcome).handler } := by
  unfold Watcher.notified
  split <;> rfl

/-- Each step of a watcher is made of moves of its subscription. -/
theorem Step.moves {before after : System} {event : Event} (step : Step before event after)
    {subscription : Subscription} (beneath : subscription.Beneath before.watcher) :
    ∃ moves next, subscription.play moves = some next ∧ next.Beneath after.watcher ∧
      listings moves = event.listing?.toList := by
  cases step with
  | @list watcher store may =>
      obtain ⟨next, played, still⟩ := beneath.list may store.runs
      exact ⟨_, next, played, still, rfl⟩
  | listFails may problem =>
      obtain ⟨next, played, still⟩ := beneath.listFails may problem
      exact ⟨_, next, played, still, rfl⟩
  | enqueue moved =>
      obtain ⟨moves, next, played, still, none⟩ := beneath.enqueue moved
      exact ⟨moves, next, played, still, none⟩
  | wake moved =>
      obtain ⟨next, played, still⟩ := beneath.wake moved
      exact ⟨_, next, played, still, rfl⟩
  | take moved =>
      obtain ⟨run, next, played, still⟩ := beneath.take moved
      exact ⟨_, next, played, still, rfl⟩
  | @notify watcher store run notice handling outcome =>
      refine ⟨[], subscription, rfl, ?_, rfl⟩
      change subscription.Beneath (watcher.notified outcome)
      rw [notified_with_handler]
      refine beneath.of_handler (handling ▸ nofun) ?_
      rcases (notified_facts handling outcome).2 with ⟨_, recording⟩ | idle
      · exact recording ▸ nofun
      · exact idle ▸ nofun
  | record handling outcome =>
      exact ⟨[], subscription, rfl, beneath.of_handler (handling ▸ nofun) nofun, rfl⟩
  | lose handling problem =>
      exact ⟨[], subscription, rfl, beneath.of_handler (handling ▸ nofun) nofun, rfl⟩
  | report name status => exact ⟨[], subscription, rfl, beneath, rfl⟩
  | create fresh => exact ⟨[], subscription, rfl, beneath, rfl⟩
  | signal =>
      obtain ⟨next, played, still⟩ := beneath.signal
      exact ⟨_, next, played, still, rfl⟩
  | stop idle =>
      obtain ⟨next, played, still⟩ := beneath.stop
      exact ⟨_, next, played, still, rfl⟩

/-- What a watcher does is what its subscription does, with the same listings. -/
theorem Execution.moves {first last : System} {events : List Event}
    (execution : Execution first events last) {subscription : Subscription}
    (beneath : subscription.Beneath first.watcher) :
    ∃ moves next, subscription.play moves = some next ∧ next.Beneath last.watcher ∧
      listings moves = events.filterMap Event.listing? := by
  induction execution generalizing subscription with
  | nil system => exact ⟨[], subscription, rfl, beneath, rfl⟩
  | @cons first second last event events step rest ih =>
      obtain ⟨early, between, toBetween, beneathBetween, listed⟩ := step.moves beneath
      obtain ⟨late, next, toNext, still, listedLater⟩ := ih beneathBetween
      refine ⟨early ++ late, next, ?_, still, ?_⟩
      · rw [Subscription.play_append, toBetween]
        exact toNext
      · rw [listings, List.filterMap_append, ← listings, ← listings, listed, listedLater]
        cases found : event.listing? <;> simp [found]

/-- The runs that a watcher has still to handle are the last of those that were listed. -/
theorem Execution.queued_suffix {stopped : Bool} {store : Store} {events : List Event}
    {last : System} (execution : Execution ⟨.start stopped, store⟩ events last)
    (goesOn : last.watcher.handler ≠ .ended) :
    last.watcher.queue ++ last.watcher.poller.phase.unsent <:+
      (events.filterMap Event.listing?).flatten := by
  obtain ⟨begun, toBegun, beneath⟩ := Subscription.Beneath.start stopped
  obtain ⟨moves, next, played, still, listed⟩ := execution.moves beneath
  have whole : (Subscription.start ⟨stopped, false, false⟩).play (.check :: moves) = some next := by
    rw [← List.singleton_append, Subscription.play_append, toBegun]
    exact played
  have ledger := Subscription.start_ledger whole
  generalize last.watcher = watcher at goesOn still ⊢
  cases still with
  | released => exact absurd rfl goesOn
  | held =>
      have same : listings (.check :: moves) = listings moves := rfl
      rw [← listed, ← same, ← ledger.whole rfl]
      exact List.suffix_append _ _

end StagedRuns.Watch
