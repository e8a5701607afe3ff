import Mathlib.Algebra.Order.BigOperators.Group.List
import Mathlib.Algebra.Order.Group.Nat
import StagedRuns.Proofs.Pipeline.Summary
import StagedRuns.Proofs.Plan.Outline

/-!
Tasks that are never run. A plan looks at the tasks of the declared stages only, and has a node for
each of them that no rule takes out. So the tasks that the summary of a pipeline warns about are
those that can be taken out of the pipeline without a trace.
-/

namespace StagedRuns

open StagedRuns.Webhook (Context)

namespace Pipeline

def withTasks (pipeline : Pipeline) (tasks : List Task) : Pipeline :=
  { pipeline with tasks }

def without (pipeline : Pipeline) (place : Nat) : Pipeline :=
  pipeline.withTasks (pipeline.tasks.eraseIdx place)

/-- Whether two pipelines come to the same run or the same error, whatever they are planned for. -/
def PlannedAlike (pipeline other : Pipeline) : Prop :=
  ∀ settings source claim context hookId,
    other.plan settings source claim context hookId =
      pipeline.plan settings source claim context hookId

/-! ### Other tasks -/

variable {pipeline : Pipeline} {tasks : List Task} {settings : Settings} {source : Source}
  {claim hookId : String} {context : Option Context}

theorem stage_withTasks {position : Nat} {frontier : List String} {stage : String}
    (agrees : (pipeline.withTasks tasks).tasksOf stage = pipeline.tasksOf stage) :
    Plan.Frame.stage ⟨pipeline.withTasks tasks, settings, context⟩ position frontier stage =
      Plan.Frame.stage ⟨pipeline, settings, context⟩ position frontier stage := by
  unfold Plan.Frame.stage
  rw [agrees]
  rfl

theorem stages_withTasks {position : Nat} {frontier names : List String}
    (agrees : ∀ stage ∈ names, (pipeline.withTasks tasks).tasksOf stage = pipeline.tasksOf stage) :
    Plan.Frame.stages ⟨pipeline.withTasks tasks, settings, context⟩ position frontier names =
      Plan.Frame.stages ⟨pipeline, settings, context⟩ position frontier names := by
  induction names generalizing position frontier with
  | nil => rfl
  | cons name rest ih =>
      obtain ⟨first, others⟩ := List.forall_mem_cons.mp agrees
      rw [Plan.Frame.stages, Plan.Frame.stages, stage_withTasks first]
      simp only [ih others]

/-- Only the tasks of the declared stages count for a plan. -/
theorem plannedAlike_withTasks
    (agrees : ∀ stage ∈ pipeline.stages,
      (pipeline.withTasks tasks).tasksOf stage = pipeline.tasksOf stage) :
    pipeline.PlannedAlike (pipeline.withTasks tasks) := by
  intro settings source claim context hookId
  unfold plan Plan.Frame.nodes
  have staged := @stages_withTasks pipeline tasks settings context 0
  simp only [show (pipeline.withTasks tasks).stages = pipeline.stages from rfl, staged agrees]
  rfl

/-! ### The number of nodes -/

def fixedCount (pipeline : Pipeline) : Nat :=
  1 + (if pipeline.beforeScript = [] then 0 else 1) + if pipeline.afterScript = [] then 0 else 1

theorem posts_length (frame : Plan.Frame) (frontier stages : List String) :
    (Plan.posts frame.shares frontier stages).length =
      (stages.flatMap fun stage =>
        ((frame.pipeline.tasksOf stage).filter fun task => !frame.bars task).flatMap
          Task.work).length := by
  have roles := congrArg List.length (Plan.posts_roles frame.shares frontier stages)
  rw [List.length_map] at roles
  simp only [roles, ← Plan.Frame.shares_map_snd, List.length_flatMap, List.length_map]

theorem outline_length (frame : Plan.Frame) :
    frame.outline.length =
      frame.pipeline.fixedCount + (frame.pipeline.work frame.context).length := by
  unfold Plan.Frame.outline fixedCount
  have staged : (Plan.posts frame.shares frame.entry frame.pipeline.stages).length =
      (frame.pipeline.work frame.context).length :=
    posts_length frame frame.entry frame.pipeline.stages
  simp only [List.length_append, List.length_cons, staged, apply_ite List.length, List.length_nil,
    Nat.zero_add]
  omega

theorem plan_eq_ok {run : Run} :
    pipeline.plan settings source claim context hookId = .ok run ↔
      (∀ task ∈ pipeline.staged, Plan.Frame.taskFault? ⟨pipeline, settings, context⟩ task = none) ∧
        pipeline.runOf settings source claim context hookId = run := by
  rw [plan_eq, ← List.findSome?_eq_none_iff]
  cases pipeline.staged.findSome? (Plan.Frame.taskFault? ⟨pipeline, settings, context⟩) with
  | some error => exact iff_of_false nofun nofun
  | none =>
      constructor
      · intro same
        exact ⟨rfl, Except.ok.inj same⟩
      · rintro ⟨_, rfl⟩
        rfl

theorem plan_length {run : Run}
    (planned : pipeline.plan settings source claim context hookId = .ok run) :
    run.spec.graph.nodes.length = pipeline.fixedCount + (pipeline.work context).length := by
  obtain ⟨_, rfl⟩ := plan_eq_ok.mp planned
  exact (List.length_map _).trans (outline_length _)

/-! ### One task less -/

theorem tasksOf_without {place : Nat} {task : Task} (found : pipeline.tasks[place]? = some task)
    (stage : String) :
    ∃ before after,
      pipeline.tasksOf stage = before ++ (if task.stage = stage then [task] else []) ++ after ∧
        (pipeline.without place).tasksOf stage = before ++ after := by
  obtain ⟨within, rfl⟩ := List.getElem?_eq_some_iff.mp found
  refine ⟨(pipeline.tasks.take place).filter (·.stage = stage),
    (pipeline.tasks.drop (place + 1)).filter (·.stage = stage), ?_, ?_⟩
  · unfold tasksOf
    conv_lhs => rw [← List.take_append_drop place pipeline.tasks, List.drop_eq_getElem_cons within]
    rw [List.filter_append, List.filter_cons, List.append_assoc]
    by_cases same : pipeline.tasks[place].stage = stage
    · simp [same]
    · simp [same]
  · unfold without withTasks tasksOf
    rw [List.eraseIdx_eq_take_drop_succ, List.filter_append]

theorem staged_without (place : Nat) : (pipeline.without place).staged ⊆ pipeline.staged := by
  intro task member
  obtain ⟨stage, listed, ofStage⟩ := List.mem_flatMap.mp member
  refine List.mem_flatMap.mpr ⟨stage, listed, ?_⟩
  exact ((List.eraseIdx_sublist pipeline.tasks place).filter _).subset ofStage

theorem work_none (pipeline : Pipeline) :
    pipeline.work none =
      pipeline.stages.flatMap fun stage => (pipeline.tasksOf stage).flatMap Task.work := by
  simp [work]

theorem taskWork_length_pos (task : Task) : 0 < task.work.length := by
  rw [Task.work, List.length_flatMap, List.sum_pos_iff_exists_pos_nat]
  refine ⟨_, List.mem_map_of_mem (List.mem_range.mpr (Nat.le_max_left 1 task.jobs.length)), ?_⟩
  exact Nat.succ_pos _

theorem work_without {place : Nat} {task : Task} (found : pipeline.tasks[place]? = some task)
    (declared : task.stage ∈ pipeline.stages) :
    ((pipeline.without place).work none).length < (pipeline.work none).length := by
  have parts : ∀ stage,
      ((pipeline.tasksOf stage).flatMap Task.work).length =
        (((pipeline.without place).tasksOf stage).flatMap Task.work).length +
          if task.stage = stage then task.work.length else 0 := by
    intro stage
    obtain ⟨before, after, all, fewer⟩ := tasksOf_without found stage
    rw [all, fewer]
    simp only [List.flatMap_append, List.length_append]
    split
    · rw [List.flatMap_singleton]
      omega
    · rw [List.flatMap_nil, List.length_nil]
      omega
  rw [work_none, work_none, List.length_flatMap, List.length_flatMap]
  refine List.sum_lt_sum _ _ ?_ ⟨task.stage, declared, ?_⟩
  · intro stage _
    rw [parts]
    exact Nat.le_add_right _ _
  · have occupied := taskWork_length_pos task
    rw [parts, if_pos rfl]
    omega

/-! ### Dead tasks -/

theorem mem_neverRun {task : Task} :
    task ∈ pipeline.neverRun ↔ task ∈ pipeline.tasks ∧ task.stage ∉ pipeline.stages := by
  unfold neverRun
  rw [List.mem_filter, Bool.not_eq_true', List.contains_eq_mem, decide_eq_false_iff_not]

/-- The summary of a pipeline ends with a warning about the tasks whose stages are not declared, and
where that can be read, their names are what is read. Without all of these tasks, or any one of
them, every plan comes to what it came to, also where it fails. Without any other task, a run that
is planned without an event has fewer nodes. -/
theorem neverRun_dead (pipeline : Pipeline) :
    pipeline.summary = pipeline.overview ++ warning pipeline.neverRun ∧
      (pipeline.Legible → warned pipeline.summary = pipeline.neverRun.map Task.name) ∧
      pipeline.neverRun = pipeline.tasks.filter (fun task => task.stage ∉ pipeline.stages) ∧
      pipeline.PlannedAlike
        (pipeline.withTasks (pipeline.tasks.filter fun task => task ∉ pipeline.neverRun)) ∧
      ∀ place task, pipeline.tasks[place]? = some task →
        (task ∈ pipeline.neverRun → pipeline.PlannedAlike (pipeline.without place)) ∧
        (task ∉ pipeline.neverRun → ∀ settings source claim hookId run,
          pipeline.plan settings source claim none hookId = .ok run →
            ∃ fewer, (pipeline.without place).plan settings source claim none hookId = .ok fewer ∧
              fewer.spec.graph.nodes.length < run.spec.graph.nodes.length) := by
  refine ⟨summary_eq pipeline, warned_summary, ?_, ?_, ?_⟩
  · refine List.filter_congr fun task _ => ?_
    simp
  · refine plannedAlike_withTasks fun stage declared => ?_
    unfold withTasks tasksOf
    rw [List.filter_filter]
    refine List.filter_congr fun task present => ?_
    rw [Bool.and_eq_left_iff_imp, decide_eq_true_eq, decide_eq_true_eq, mem_neverRun]
    rintro rfl ⟨_, undeclared⟩
    exact undeclared declared
  · intro place task found
    refine ⟨?_, ?_⟩
    · intro listed
      refine plannedAlike_withTasks fun stage declared => ?_
      obtain ⟨before, after, all, fewer⟩ := tasksOf_without found stage
      have elsewhere : task.stage ≠ stage := by
        rintro rfl
        exact (mem_neverRun.mp listed).2 declared
      rw [if_neg elsewhere, List.append_nil] at all
      exact fewer.trans all.symm
    · intro runs settings source claim hookId run planned
      have declared : task.stage ∈ pipeline.stages := by
        by_contra undeclared
        exact runs (mem_neverRun.mpr ⟨List.mem_of_getElem? found, undeclared⟩)
      obtain ⟨sound, _⟩ := plan_eq_ok.mp planned
      have replanned : (pipeline.without place).plan settings source claim none hookId = .ok _ :=
        plan_eq_ok.mpr ⟨fun other member => sound other (staged_without place member), rfl⟩
      refine ⟨_, replanned, ?_⟩
      rw [plan_length replanned, plan_length planned]
      exact Nat.add_lt_add_left (work_without found declared) pipeline.fixedCount

/-- A pipeline with a task of no declared stage, which could not be planned if it had one. -/
def straying : Pipeline :=
  { Pipeline.empty with
    stages := ["test", "test"]
    tasks :=
      [ { name := "lint", stage := "test", script := ["make lint"], rules := [], artifacts := []
          options := none }
      , { name := "ship", stage := "deploy", script := [], rules := [⟨"missing", never⟩]
          artifacts := []
          options := some
            { taskRef := some "ship", image := none, jobs := []
              parameters := [⟨"ref", "hook.ref"⟩] } } ] }

theorem straying_dead :
    straying.summary =
        "Pipeline: 2 stage(s), 2 task(s)\n  test\n    - lint\n  test\n    - lint\n" ++
          "Warning: tasks in undeclared stages are never run: ship\n" ∧
      warned straying.summary = ["ship"] ∧ straying.PlannedAlike (straying.without 1) ∧
      ∃ settings source run fewer,
        straying.plan settings source "claim" none "hook" = .ok run ∧
          (straying.without 0).plan settings source "claim" none "hook" = .ok fewer ∧
            fewer.spec.graph.nodes.length < run.spec.graph.nodes.length := by
  obtain ⟨text, reads, _, _, each⟩ := neverRun_dead straying
  have planned : straying.plan
      { archiverImage := "archiver", archiveUrl := "gs://archive", runPrefix := "run-"
        serviceAccount := "default", volumeSize := "1Gi" }
      { repoUrl := "https://example.com/owner/name.git", gitRef := "main" } "claim" none "hook" =
        .ok _ := rfl
  obtain ⟨fewer, replanned, less⟩ := (each 0 _ rfl).2 (by decide) _ _ _ _ _ planned
  have legible : straying.Legible := ⟨by decide, by decide, by decide, by decide⟩
  exact ⟨text.trans (by decide +kernel), reads legible, (each 1 _ rfl).1 (by decide), _, _, _, fewer,
    planned, replanned, less⟩

end Pipeline

end StagedRuns
