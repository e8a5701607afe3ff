import StagedRuns.Client.Call

/-!
Calls step by step, for any way to other services that has a state: what a call makes of the answer,
and what it counts.
-/

namespace StagedRuns.Client

open StagedRuns.Http (Request Response Transport)

variable {σ α β : Type} {transport : Transport (StateM σ)} {read : Response → Outcome α}
  {request : Request} {request? : Option Request} {answer : Option Response}
  {outcome : Outcome α} {state later : σ}

section Steps

variable {first : Calling (StateM σ) α} {value : α} {counters after : Counters}
  (done : (first.run counters).run state = ((value, after), later))

include done

theorem run_bind {next : α → Calling (StateM σ) β} :
    ((first >>= next).run counters).run state = ((next value).run after).run later := by
  rw [StateT.run_bind, StateT.run_bind, done]
  rfl

theorem run_map {each : α → β} :
    ((each <$> first).run counters).run state = ((each value, after), later) := by
  rw [StateT.run_map, StateT.run_map, done]
  rfl

end Steps

def settled (read : Response → Outcome α) : Option Response → Outcome α
  | none => .error (.requestFailed "no answer came")
  | some response =>
      if response.isFinal then read response
      else .error (.requestFailed "no final answer came")

theorem exchange_none :
    (exchange transport none read).run state =
      (.error (.requestFailed "no request can be sent to this address"), state) :=
  rfl

theorem exchange_some (answered : (transport.exchange request).run state = (answer, later)) :
    (exchange transport (some request) read).run state = (settled read answer, later) := by
  unfold exchange
  rw [StateT.run_bind, answered]
  cases answer with
  | none => rfl
  | some response =>
      rw [settled, apply_ite (·, later)]
      exact apply_ite (StateT.run · later) _ _ _

theorem call_run {operation : String} {fails : ClientError → Bool} {counters : Counters}
    (exchanged : (exchange transport request? read).run state = (outcome, later)) :
    ((call transport operation fails request? read).run counters).run state =
      ((outcome, count operation outcome fails counters), later) := by
  simp only [call, StateT.run_bind, StateT.run_lift, StateT.run_modify]
  rw [exchanged]
  rfl

end StagedRuns.Client
