import Mathlib.Data.List.Nodup
import StagedRuns.Proofs.Watch.Memo

/-!
The runs as the engine holds them. No two have the same name. The engine reports the status of a
run, which leaves its annotations alone, and puts a run in place of the one of the same name.
-/

namespace StagedRuns

def Run.withStatus (run : Run) (status : Option Run.Status) : Run :=
  { run with status }

theorem Run.memo?_withStatus (run : Run) (status : Option Run.Status) :
    (run.withStatus status).memo? = run.memo? :=
  rfl

namespace Watch

open StagedRuns.Run (State)

/-- Runs with one of them in place of the one of its name, or behind all of them. -/
def replace (run : Run) : List Run → List Run
  | [] => [run]
  | head :: tail =>
      if head.metadata.name = run.metadata.name then run :: tail else head :: replace run tail

def report (name : Option String) (status : Option Run.Status) (runs : List Run) : List Run :=
  runs.map fun run => if run.metadata.name = name then run.withStatus status else run

theorem names_replace (run : Run) (runs : List Run) :
    (replace run runs).map (·.metadata.name) =
      if run.metadata.name ∈ runs.map (·.metadata.name) then runs.map (·.metadata.name)
      else runs.map (·.metadata.name) ++ [run.metadata.name] := by
  induction runs with
  | nil => rfl
  | cons head tail ih =>
      rw [replace]
      by_cases same : head.metadata.name = run.metadata.name
      · have present : run.metadata.name ∈ (head :: tail).map (·.metadata.name) :=
          List.mem_map.mpr ⟨head, List.mem_cons_self, same⟩
        rw [if_pos same, if_pos present, List.map_cons, List.map_cons, same]
      · rw [if_neg same, List.map_cons, ih, List.map_cons]
        by_cases later : run.metadata.name ∈ tail.map (·.metadata.name)
        · rw [if_pos later, if_pos (List.mem_cons_of_mem _ later)]
        · have absent : run.metadata.name ∉ head.metadata.name :: tail.map (·.metadata.name) := by
            intro member
            rcases List.mem_cons.mp member with atHead | inTail
            · exact same atHead.symm
            · exact later inTail
          rw [if_neg later, if_neg absent, List.cons_append]

theorem distinct_replace {run : Run} {runs : List Run}
    (distinct : (runs.map (·.metadata.name)).Nodup) :
    ((replace run runs).map (·.metadata.name)).Nodup := by
  rw [names_replace]
  by_cases present : run.metadata.name ∈ runs.map (·.metadata.name)
  · rw [if_pos present]
    exact distinct
  · rw [if_neg present]
    exact List.nodup_append.mpr ⟨distinct, List.nodup_singleton _, fun other member last isLast =>
      fun same => present (List.mem_singleton.mp isLast ▸ same ▸ member)⟩

theorem names_report (name : Option String) (status : Option Run.Status) (runs : List Run) :
    (report name status runs).map (·.metadata.name) = runs.map (·.metadata.name) := by
  unfold report
  rw [List.map_map]
  apply List.map_congr_left
  intro run member
  change (if run.metadata.name = name then run.withStatus status else run).metadata.name = _
  by_cases same : run.metadata.name = name
  · rw [if_pos same]
    rfl
  · rw [if_neg same]

def named? (name : Option String) (runs : List Run) : Option Run :=
  runs.find? (·.metadata.name = name)

theorem named?_cons (name : Option String) (head : Run) (tail : List Run) :
    named? name (head :: tail) =
      if head.metadata.name = name then some head else named? name tail := by
  unfold named?
  rw [List.find?_cons]
  by_cases same : head.metadata.name = name
  · rw [if_pos same, decide_eq_true same]
  · rw [if_neg same, decide_eq_false same]

theorem named?_replace (run : Run) (name : Option String) (runs : List Run) :
    named? name (replace run runs) =
      if name = run.metadata.name then some run else named? name runs := by
  induction runs with
  | nil =>
      rw [replace, named?_cons]
      by_cases same : name = run.metadata.name
      · rw [if_pos same, if_pos same.symm]
      · rw [if_neg same, if_neg (Ne.symm same)]
  | cons head tail ih =>
      rw [replace]
      by_cases replaced : head.metadata.name = run.metadata.name
      · rw [if_pos replaced, named?_cons, named?_cons, replaced]
        by_cases same : name = run.metadata.name
        · rw [if_pos same, if_pos same.symm]
        · rw [if_neg same, if_neg (Ne.symm same), if_neg (Ne.symm same)]
      · rw [if_neg replaced, named?_cons, named?_cons, ih]
        by_cases same : name = run.metadata.name
        · rw [if_pos same, if_neg (same ▸ replaced), if_pos same]
        · rw [if_neg same, if_neg same]

theorem named?_report (name other : Option String) (status : Option Run.Status)
    (runs : List Run) :
    named? other (report name status runs) =
      (named? other runs).map fun run =>
        if run.metadata.name = name then run.withStatus status else run := by
  induction runs with
  | nil => rfl
  | cons head tail ih =>
      have same : (if head.metadata.name = name then head.withStatus status else head).metadata.name
          = head.metadata.name := by
        split <;> rfl
      change named? other (_ :: report name status tail) = _
      rw [named?_cons, named?_cons, same, ih]
      by_cases found : head.metadata.name = other
      · rw [if_pos found, if_pos found, Option.map_some]
      · rw [if_neg found, if_neg found]

structure Store where
  runs : List Run
  distinct : (runs.map (·.metadata.name)).Nodup

namespace Store

def get? (store : Store) (name : Option String) : Option Run :=
  named? name store.runs

def memo? (store : Store) (name : Option String) : Option State :=
  store.get? name >>= Run.memo?

def put (store : Store) (run : Run) : Store :=
  { runs := replace run store.runs, distinct := distinct_replace store.distinct }

def updated (store : Store) (run : Run) : Except ClientError Unit → Store
  | .ok () => store.put run
  | .error _ => store

def report (store : Store) (name : Option String) (status : Option Run.Status) : Store :=
  { runs := Watch.report name status store.runs
    distinct := (names_report name status store.runs).symm ▸ store.distinct }

theorem get?_put (store : Store) (run : Run) (name : Option String) :
    (store.put run).get? name = if name = run.metadata.name then some run else store.get? name :=
  named?_replace run name store.runs

theorem get?_name {store : Store} {name : Option String} {run : Run}
    (found : store.get? name = some run) : run.metadata.name = name := by
  have holds := List.find?_some (show store.runs.find? _ = some run from found)
  exact of_decide_eq_true holds

theorem get?_of_mem {store : Store} {run : Run} (member : run ∈ store.runs) :
    store.get? run.metadata.name = some run := by
  cases found : store.get? run.metadata.name with
  | none =>
      have absent := List.find?_eq_none.mp found run member
      exact absurd (decide_eq_true rfl) absent
  | some other =>
      have present := List.mem_of_find?_eq_some found
      have same := List.inj_on_of_nodup_map store.distinct present member (get?_name found)
      rw [same]

theorem memo?_put (store : Store) (run : Run) (name : Option String) :
    (store.put run).memo? name =
      if name = run.metadata.name then run.memo? else store.memo? name := by
  unfold memo?
  rw [get?_put]
  by_cases same : name = run.metadata.name
  · rw [if_pos same, if_pos same]
    rfl
  · rw [if_neg same, if_neg same]

theorem memo?_put_of_ne {store : Store} {run : Run} {name : Option String} {state : State}
    (different : run.metadata.name ≠ name) (remembered : store.memo? name = some state) :
    (store.put run).memo? name = some state := by
  rw [memo?_put, if_neg (Ne.symm different), remembered]

theorem memo?_report (store : Store) (name other : Option String) (status : Option Run.Status) :
    (store.report name status).memo? other = store.memo? other := by
  unfold memo? get? report
  rw [named?_report]
  cases named? other store.runs with
  | none => rfl
  | some run =>
      change Run.memo? (if run.metadata.name = name then run.withStatus status else run) = _
      split
      · exact Run.memo?_withStatus run status
      · rfl

def sample : Store :=
  { runs := [sampleRun], distinct := List.nodup_singleton _ }

theorem get?_sample : sample.get? sampleRun.metadata.name = some sampleRun :=
  get?_of_mem List.mem_cons_self

end Store

end Watch

end StagedRuns
