import StagedRuns.Proofs.Plan.Failure
import StagedRuns.Proofs.Plan.Order

/-!
What the rules of tasks do to a plan. They take tasks out and leave no other trace: the plan of a
pipeline is that of the tasks which remain, planned without rules. As long as no parameter has to be
evaluated, the event plays no part in that plan.
-/

namespace StagedRuns

open StagedRuns.Webhook (Context)

def Task.unruled (task : Task) : Task :=
  { task with rules := [] }

/-- The pipeline of the tasks that no rule takes out for an event, without rules. -/
def Pipeline.remaining (pipeline : Pipeline) (context : Context) : Pipeline :=
  { pipeline with
    tasks := (pipeline.tasks.filter fun task => !task.barred context).map Task.unruled }

theorem Pipeline.tasksOf_remaining (pipeline : Pipeline) (context : Context) (stage : String) :
    (pipeline.remaining context).tasksOf stage =
      ((pipeline.tasksOf stage).filter fun task => !task.barred context).map Task.unruled := by
  unfold tasksOf remaining
  dsimp only
  rw [List.filter_map, List.filter_comm]
  rfl

namespace Plan.Frame

variable {pipeline : Pipeline} {settings : Settings} {context : Context}
  {event : Option Context} {position : Nat} {frontier : List String}

theorem taskNode_unruled {task : Task} {name : String} {env : List Run.Variable}
    (agrees : event = some context ∨ ¬ task.Parameterized) :
    taskNode ⟨pipeline.remaining context, settings, event⟩ frontier task.unruled name env =
      taskNode ⟨pipeline, settings, some context⟩ frontier task name env := by
  unfold taskNode
  rw [show task.unruled.taskRef? = task.taskRef? from rfl]
  cases refers : task.taskRef? with
  | none => rfl
  | some taskRef =>
      rcases agrees with rfl | unparameterized
      · rfl
      · have unbound : task.parameters = [] := by
          by_contra bound
          exact unparameterized ⟨Option.isSome_of_eq_some refers, bound⟩
        have unboundToo : task.unruled.parameters = [] := unbound
        simp only [unbound, unboundToo]
        rfl

theorem excludes_unruled (frame : Frame) (task : Task) :
    frame.excludes task.unruled = .ok false := by
  unfold excludes
  cases frame.context <;> rfl

theorem variants_unruled {stage : String} {task : Task} {variants : List Variant}
    (agrees : task.barred context = false → event = some context ∨ ¬ task.Parameterized)
    (planned : Frame.variants ⟨pipeline, settings, some context⟩ position frontier stage task =
      .ok variants) :
    if !task.barred context then
      Frame.variants ⟨pipeline.remaining context, settings, event⟩ position frontier stage
        task.unruled = .ok variants
    else variants = [] := by
  rcases variants_ok planned with ⟨decided, none⟩ | ⟨decided, planned⟩
  · rw [← excludes_ok rfl decided]
    exact none
  · have unbarred := (excludes_ok rfl decided).symm
    rw [unbarred]
    have same : ∀ name env, Frame.variant ⟨pipeline.remaining context, settings, event⟩ position
        frontier task.unruled name env =
          Frame.variant ⟨pipeline, settings, some context⟩ position frontier task name env := by
      intro name env
      unfold Frame.variant
      rw [taskNode_unruled (agrees unbarred)]
      rfl
    show Frame.variants ⟨pipeline.remaining context, settings, event⟩ position frontier stage
      task.unruled = .ok variants
    unfold Frame.variants
    rw [excludes_unruled, Result.ok_bind]
    simp only [same]
    exact planned

section Remaining

variable (agrees : event = some context ∨
  ∀ task ∈ (pipeline.remaining context).staged, ¬ task.Parameterized)

include agrees

theorem stage_remaining {name : String} {variants : List Variant} (listed : name ∈ pipeline.stages)
    (planned : Frame.stage ⟨pipeline, settings, some context⟩ position frontier name =
      .ok variants) :
    Frame.stage ⟨pipeline.remaining context, settings, event⟩ position frontier name =
      .ok variants := by
  obtain ⟨groups, grouped, rfl⟩ := stage_ok.mp planned
  have each : ∀ task ∈ pipeline.tasksOf name, ∀ group,
      Frame.variants ⟨pipeline, settings, some context⟩ position frontier name task = .ok group →
        if !task.barred context then
          Frame.variants ⟨pipeline.remaining context, settings, event⟩ position frontier name
            task.unruled = .ok group
        else group = [] := by
    intro task ofStage group given
    refine variants_unruled ?_ given
    intro unbarred
    refine agrees.imp_right ?_
    intro unparameterized
    have kept : task.unruled ∈ (pipeline.remaining context).tasksOf name := by
      rw [Pipeline.tasksOf_remaining]
      refine List.mem_map_of_mem (List.mem_filter.mpr ⟨ofStage, ?_⟩)
      rw [unbarred]
      rfl
    exact unparameterized task.unruled (List.mem_flatMap.mpr ⟨name, listed, kept⟩)
  obtain ⟨kept, planned, same⟩ := Result.mapM_filter_map each grouped
  rw [stage_ok]
  refine ⟨kept, ?_, same.symm⟩
  rw [Pipeline.tasksOf_remaining]
  exact planned

theorem stages_remaining {names : List String} {planned : List Planned} {last : List String}
    (listed : names ⊆ pipeline.stages)
    (given : Frame.stages ⟨pipeline, settings, some context⟩ position frontier names =
      .ok (planned, last)) :
    Frame.stages ⟨pipeline.remaining context, settings, event⟩ position frontier names =
      .ok (planned, last) := by
  induction names generalizing position frontier planned with
  | nil => exact given
  | cons name rest ih =>
      obtain ⟨nameListed, restListed⟩ := List.cons_subset.mp listed
      obtain ⟨variants, later, staged, continued, rfl⟩ := stages_cons_ok.mp given
      rw [stages_cons_ok]
      exact ⟨variants, later, stage_remaining agrees nameListed staged,
        ih restListed continued, rfl⟩

theorem nodes_remaining {source : Source} {nodes : List Planned}
    (given : Frame.nodes ⟨pipeline, settings, some context⟩ source = .ok nodes) :
    Frame.nodes ⟨pipeline.remaining context, settings, event⟩ source = .ok nodes := by
  obtain ⟨staged, last, planned, rfl⟩ := nodes_ok.mp given
  rw [nodes_ok]
  exact ⟨staged, last, stages_remaining agrees (List.Subset.refl _) planned, rfl⟩

end Remaining

end Plan.Frame

namespace Pipeline

/-- The run of the tasks that remain, planned without rules, is the run of the pipeline: for the
event, and without it if no task that remains has parameters to evaluate. -/
theorem plan_remaining {pipeline : Pipeline} {settings : Settings} {source : Source}
    {claim hookId : String} {context : Context} {run : Run}
    (planned : pipeline.plan settings source claim (some context) hookId = .ok run) :
    (pipeline.remaining context).plan settings source claim (some context) hookId = .ok run ∧
      ((∀ task ∈ (pipeline.remaining context).staged, ¬ task.Parameterized) →
        (pipeline.remaining context).plan settings source claim none hookId = .ok run) := by
  obtain ⟨nodes, given, same⟩ := Result.bind_eq_ok.mp planned
  have replan : ∀ event : Option Context,
      (event = some context ∨
        ∀ task ∈ (pipeline.remaining context).staged, ¬ task.Parameterized) →
      (pipeline.remaining context).plan settings source claim event hookId = .ok run := by
    intro event agrees
    exact Result.bind_eq_ok.mpr ⟨nodes, Plan.Frame.nodes_remaining agrees given, same⟩
  exact ⟨replan (some context) (Or.inl rfl), fun unparameterized =>
    replan none (Or.inr unparameterized)⟩

theorem samplePlan_remaining :
    ∃ run, Pipeline.samplePlan = .ok run ∧
      (Pipeline.sample.remaining (.ofDocument .null)).tasks.map Task.name = ["compile", "ship"] ∧
      ∀ event ∈ [some (.ofDocument .null), none],
        (Pipeline.sample.remaining (.ofDocument .null)).plan
          { archiverImage := "archiver", archiveUrl := "gs://archive", runPrefix := "run-"
            serviceAccount := "default", volumeSize := "1Gi" }
          { repoUrl := "https://example.com/owner/name.git", gitRef := "main" } "claim" event
          "hook" = .ok run := by
  have planned : Pipeline.samplePlan = .ok _ := rfl
  have remains := Pipeline.plan_remaining planned
  refine ⟨_, planned, rfl, ?_⟩
  intro event listed
  rcases List.mem_pair.mp listed with rfl | rfl
  · exact remains.1
  · exact remains.2 (by decide +kernel)

end Pipeline

end StagedRuns
