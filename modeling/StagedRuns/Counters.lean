import StagedRuns.Dictionary

/-!
Counters of what a service does, and the text that they are published in: for each metric that was
counted a line with its type, then a line for each of its labels.
-/

namespace StagedRuns

/-- What is counted, in the order of the names. -/
inductive Metric where
  | failedCalls
  | calls
  | invalidHooks
  | hooks
deriving DecidableEq, Repr

namespace Metric

def all : List Metric := [.failedCalls, .calls, .invalidHooks, .hooks]

def name : Metric → String
  | .failedCalls => "api_calls_failed_total"
  | .calls => "api_calls_total"
  | .invalidHooks => "hooks_invalid"
  | .hooks => "hooks_total"

def labelName? : Metric → Option String
  | .failedCalls => some "name"
  | .calls => some "name"
  | .invalidHooks => none
  | .hooks => some "kind"

def ofName? (name : String) : Option Metric :=
  all.find? (·.name = name)

end Metric

structure Counters where
  counts : Metric → Dictionary Nat

namespace Counters

def zero : Counters := ⟨fun _ => .empty⟩

instance : Inhabited Counters := ⟨zero⟩

def get (counters : Counters) (metric : Metric) (label : String) : Nat :=
  ((counters.counts metric).get? label).getD 0

def increment (counters : Counters) (metric : Metric) (label : String) : Counters :=
  ⟨fun other =>
    if other = metric then
      (counters.counts metric).insert label (counters.get metric label + 1)
    else counters.counts other⟩

def countHook (counters : Counters) (kind : String) : Counters :=
  counters.increment .hooks kind

def countInvalidHook (counters : Counters) : Counters :=
  counters.increment .invalidHooks ""

def countCall (counters : Counters) (operation : String) : Counters :=
  counters.increment .calls operation

def countFailedCall (counters : Counters) (operation : String) : Counters :=
  counters.increment .failedCalls operation

def sample (metric : Metric) (label : String) (count : Nat) : String :=
  let labels :=
    match metric.labelName? with
    | some name => "\x7b" ++ name ++ "=\"" ++ label ++ "\"\x7d"
    | none => ""
  metric.name ++ labels ++ " " ++ toString count ++ "\n"

def lines (metric : Metric) (counts : Dictionary Nat) : List String :=
  if counts.isEmpty then []
  else
    ("# TYPE " ++ metric.name ++ " counter\n") ::
      counts.toList.map fun (label, count) => sample metric label count

def render (counters : Counters) : String :=
  String.join (Metric.all.flatMap fun metric => lines metric (counters.counts metric))

end Counters

end StagedRuns
