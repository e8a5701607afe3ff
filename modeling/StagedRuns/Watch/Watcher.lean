import StagedRuns.Watch.Handling

/-!
The watcher as a whole: a poller lists the runs again and again and puts them into a queue of
limited length, and a handler takes them out one by one. Both go on until a signal stops them. A
step is taken by one of the two; any step that is possible may come next.
-/

namespace StagedRuns.Watch

inductive Poller where
  /-- For the time of the next listing, or for the signal. -/
  | waiting
  /-- With runs that were listed and are not yet in the queue. -/
  | sending (runs : List Run)
  | ended

/-- The poller where it looks at the signal, before it waits. -/
def Poller.next (stopped : Bool) : Poller :=
  if stopped then .ended else .waiting

@[simp]
theorem Poller.next_false : Poller.next false = .waiting :=
  rfl

@[simp]
theorem Poller.next_true : Poller.next true = .ended :=
  rfl

inductive Handler where
  | idle
  | notifying (run : Run) (notice : Notice)
  | recording (run : Run) (state : Run.State)
  | ended

def capacity : Nat := 64

structure Watcher where
  poller : Poller
  queue : List Run
  handler : Handler
  stopped : Bool

namespace Watcher

def start (stopped : Bool) : Watcher :=
  { poller := .next stopped, queue := [], handler := .idle, stopped }

/-- Whether the poller may begin to list runs. If the signal came while it waited, it still may. -/
def mayList (watcher : Watcher) : Bool :=
  match watcher.poller with
  | .waiting => true
  | _ => false

def wake? (watcher : Watcher) : Option Watcher :=
  match watcher.poller with
  | .waiting => if watcher.stopped then some { watcher with poller := .ended } else none
  | _ => none

def listed (watcher : Watcher) (outcome : Except ClientError (List Run)) : Watcher :=
  match outcome with
  | .ok runs => { watcher with poller := .sending runs }
  | .error _ => { watcher with poller := .next watcher.stopped }

def enqueue? (watcher : Watcher) : Option Watcher :=
  match watcher.poller with
  | .sending [] => some { watcher with poller := .next watcher.stopped }
  | .sending (run :: runs) =>
      if watcher.queue.length < capacity then
        some { watcher with poller := .sending runs, queue := watcher.queue ++ [run] }
      else none
  | _ => none

/-- Takes the next run out of the queue. The handler is idle at once if the run calls for no
notification. -/
def take? (watcher : Watcher) : Option Watcher :=
  match watcher.handler, watcher.queue with
  | .idle, run :: queue =>
      match noticeOf run with
      | .ok (some notice) => some { watcher with handler := .notifying run notice, queue }
      | _ => some { watcher with queue }
  | _, _ => none

def notified (watcher : Watcher) (outcome : Except WatchError Unit) : Watcher :=
  match watcher.handler, outcome with
  | .notifying run notice, .ok () =>
      { watcher with handler := .recording (noted run notice.state) notice.state }
  | _, _ => { watcher with handler := .idle }

def recorded (watcher : Watcher) : Watcher :=
  { watcher with handler := .idle }

/-- The watcher after the signal to stop. Runs in the queue are not handled any more. -/
def stop (watcher : Watcher) : Watcher :=
  { watcher with poller := .ended, queue := [], handler := .ended, stopped := true }

/-- How many steps the runs that were listed still take at most. -/
def pending (watcher : Watcher) : Nat :=
  let sending :=
    match watcher.poller with
    | .sending runs => 4 * runs.length + 1
    | _ => 0
  let handling :=
    match watcher.handler with
    | .notifying _ _ => 2
    | .recording _ _ => 1
    | _ => 0
  sending + 3 * watcher.queue.length + handling

variable {m : Type → Type} [Monad m]

/-- Takes a step that is no listing, if one is possible, the handler before the poller. -/
def advance (backend : Backend m) (limit : Nat) (watcher : Watcher) : m (Option Watcher) := do
  match watcher.handler with
  | .notifying _ notice =>
      return some (watcher.notified ((← backend.notify notice).within limit))
  | .recording run _ => do
      let _ ← backend.update run
      return some watcher.recorded
  | _ => return watcher.take? <|> watcher.enqueue?

/-- Takes steps that are no listings until none is possible, at most `fuel` of them. -/
def settle (backend : Backend m) (limit : Nat) : (fuel : Nat) → Watcher → m Watcher
  | 0, watcher => return watcher
  | fuel + 1, watcher => do
      match ← watcher.advance backend limit with
      | some next => settle backend limit fuel next
      | none => return watcher

/-- Lists the runs and handles all of them before the next listing. -/
def round (backend : Backend m) (limit : Nat) (watcher : Watcher) : m Watcher := do
  let watcher := watcher.listed (← backend.list)
  watcher.settle backend limit watcher.pending

end Watcher

end StagedRuns.Watch
