import StagedRuns.Watch.Watcher

/-!
A subscription to runs, move by move. A task lists the runs when it is time and puts them into the
queue one by one, as long as there is room; who subscribed takes them out. The task looks at the
signal to stop before it waits, and may be woken by it while it waits, but not otherwise.
-/

namespace StagedRuns.Watch

/-- A signal as it is seen by one who looks at it now and then. -/
structure Signal where
  value : Bool
  /-- Whether it was given since it was last noticed. -/
  unseen : Bool
  /-- Whether nobody is left to give it. -/
  deserted : Bool
deriving DecidableEq, Repr

namespace Subscription

inductive Phase where
  /-- To look at the signal. -/
  | checking
  /-- To wait for the time of a listing, or for the signal. -/
  | waiting
  | listing
  | sending (runs : List Run)
  | ended

end Subscription

structure Subscription where
  phase : Subscription.Phase
  queue : List Run
  signal : Signal
  /-- Whether who subscribed may still ask for runs. -/
  held : Bool

namespace Subscription

def start (signal : Signal) : Subscription :=
  { phase := .checking, queue := [], signal, held := true }

def check? (subscription : Subscription) : Option Subscription :=
  match subscription.phase with
  | .checking =>
      some { subscription with phase := if subscription.signal.value then .ended else .waiting }
  | _ => none

def poll? (subscription : Subscription) : Option Subscription :=
  match subscription.phase with
  | .waiting => some { subscription with phase := .listing }
  | _ => none

/-- The task notices the signal while it waits, or that nobody can give it any more. -/
def wake? (subscription : Subscription) : Option Subscription :=
  match subscription.phase with
  | .waiting =>
      if subscription.signal.unseen then
        some { subscription with
          phase := .checking, signal := { subscription.signal with unseen := false } }
      else if subscription.signal.deserted then some { subscription with phase := .ended }
      else none
  | _ => none

def list? (subscription : Subscription) (outcome : Except ClientError (List Run)) :
    Option Subscription :=
  match subscription.phase, outcome with
  | .listing, .ok runs => some { subscription with phase := .sending runs }
  | .listing, .error _ => some { subscription with phase := .checking }
  | _, _ => none

/-- The task puts the next run into the queue, which it cannot if nobody is there to take it. -/
def send? (subscription : Subscription) : Option Subscription :=
  match subscription.phase with
  | .sending [] => some { subscription with phase := .checking }
  | .sending (run :: runs) =>
      if subscription.held then
        if subscription.queue.length < capacity then
          some { subscription with phase := .sending runs, queue := subscription.queue ++ [run] }
        else none
      else some { subscription with phase := .ended }
  | _ => none

/-- The answer to who asks for the next run: a run, or that there will be none. There is no answer
yet if the queue is empty and the task goes on. -/
def next? (subscription : Subscription) : Option (Option Run × Subscription) :=
  match subscription.held, subscription.queue, subscription.phase with
  | true, run :: queue, _ => some (some run, { subscription with queue })
  | true, [], .ended => some (none, subscription)
  | _, _, _ => none

def give? (subscription : Subscription) (value : Bool) : Option Subscription :=
  if subscription.signal.deserted then none
  else some { subscription with signal := { value, unseen := true, deserted := false } }

def desert (subscription : Subscription) : Subscription :=
  { subscription with signal := { subscription.signal with deserted := true } }

/-- Who subscribed goes away, and takes the queue along. -/
def drop (subscription : Subscription) : Subscription :=
  { subscription with queue := [], held := false }

/-- The task is ended wherever it is, since who subscribed has gone. -/
def abort? (subscription : Subscription) : Option Subscription :=
  if subscription.held then none else some { subscription with phase := .ended }

inductive Move where
  | check
  | poll
  | wake
  | list (outcome : Except ClientError (List Run))
  | send
  | next (answer : Option Run)
  | give (value : Bool)
  | desert
  | drop
  | abort

def after? (subscription : Subscription) : Move → Option Subscription
  | .check => subscription.check?
  | .poll => subscription.poll?
  | .wake => subscription.wake?
  | .list outcome => subscription.list? outcome
  | .send => subscription.send?
  | .next answer => do
      let (found, rest) ← subscription.next?
      if found = answer then some rest else none
  | .give value => subscription.give? value
  | .desert => some subscription.desert
  | .drop => some subscription.drop
  | .abort => subscription.abort?

def play (subscription : Subscription) : List Move → Option Subscription
  | [] => some subscription
  | move :: moves => do (← subscription.after? move).play moves

end Subscription

end StagedRuns.Watch
