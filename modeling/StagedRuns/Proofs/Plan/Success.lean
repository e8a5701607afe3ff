import StagedRuns.Plan.Stages
import StagedRuns.Proofs.Result

/-!
What a successful plan consists of: for each function that plans a part, what it has given when it
did not fail.
-/

namespace StagedRuns

theorem Pipeline.stage_of_mem_tasksOf {pipeline : Pipeline} {stage : String} {task : Task}
    (member : task ∈ pipeline.tasksOf stage) : task.stage = stage :=
  of_decide_eq_true (List.mem_filter.mp member).2

namespace Plan

open StagedRuns.Run (Node Variable)

namespace Frame

variable {frame : Frame} {position : Nat} {frontier : List String}

theorem taskNode_ok {task : Task} {name : String} {env : List Variable} {node : Node}
    (planned : frame.taskNode frontier task name env = .ok node) :
    node.name = name ∧ node.runAfter = frontier := by
  unfold taskNode at planned
  split at planned
  · cases planned
    exact ⟨rfl, rfl⟩
  · obtain ⟨params, _, same⟩ := Result.bind_eq_ok.mp planned
    cases same
    exact ⟨rfl, rfl⟩

theorem variant_ok {task : Task} {name : String} {env : List Variable} {variant : Variant} :
    frame.variant position frontier task name env = .ok variant ↔
      ∃ node, frame.taskNode frontier task name env = .ok node ∧
        variant =
          { task := ⟨.task position, node⟩
            archiver :=
              if task.artifacts.isEmpty then none
              else some ⟨.archiver position,
                archiverNode frame.settings frame.env name task.artifacts⟩ } := by
  unfold Frame.variant
  rw [Result.bind_eq_ok]
  constructor
  · rintro ⟨node, planned, same⟩
    exact ⟨node, planned, (Result.pure_eq_ok.mp same).symm⟩
  · rintro ⟨node, planned, same⟩
    exact ⟨node, planned, Result.pure_eq_ok.mpr same.symm⟩

def nameOf (frame : Frame) (stage : String) (task : Task) (index : Nat) : String :=
  variantName task.name stage (variantEnvs frame.env task.jobs).length index

/-- Either a rule takes the task out of the run, or all of its variants are planned. -/
theorem variants_ok {stage : String} {task : Task} {variants : List Variant}
    (planned : frame.variants position frontier stage task = .ok variants) :
    (frame.excludes task = .ok true ∧ variants = []) ∨
      (frame.excludes task = .ok false ∧
        (variantEnvs frame.env task.jobs).zipIdx.mapM (fun indexed =>
          frame.variant position frontier task (frame.nameOf stage task indexed.2) indexed.1) =
            .ok variants) := by
  obtain ⟨excluded, decided, planned⟩ := Result.bind_eq_ok.mp planned
  cases excluded with
  | true => exact Or.inl ⟨decided, (Result.pure_eq_ok.mp planned).symm⟩
  | false => exact Or.inr ⟨decided, planned⟩

theorem stage_ok {name : String} {variants : List Variant} :
    frame.stage position frontier name = .ok variants ↔
      ∃ groups,
        (frame.pipeline.tasksOf name).mapM (frame.variants position frontier name) = .ok groups ∧
          variants = groups.flatten := by
  unfold Frame.stage
  rw [Result.bind_eq_ok]
  constructor
  · rintro ⟨groups, planned, same⟩
    exact ⟨groups, planned, (Result.pure_eq_ok.mp same).symm⟩
  · rintro ⟨groups, planned, same⟩
    exact ⟨groups, planned, Result.pure_eq_ok.mpr same.symm⟩

theorem exists_task_of_mem_stage {name : String} {variants : List Variant}
    (planned : frame.stage position frontier name = .ok variants) {variant : Variant}
    (member : variant ∈ variants) :
    ∃ task ∈ frame.pipeline.tasksOf name, frame.excludes task = .ok false ∧
      ∃ env index, (env, index) ∈ (variantEnvs frame.env task.jobs).zipIdx ∧
        frame.variant position frontier task (frame.nameOf name task index) env = .ok variant := by
  obtain ⟨groups, grouped, rfl⟩ := stage_ok.mp planned
  obtain ⟨group, present, inGroup⟩ := List.mem_flatten.mp member
  obtain ⟨task, ofStage, planned⟩ := Result.exists_of_mem_mapM grouped present
  rcases variants_ok planned with ⟨_, none⟩ | ⟨kept, planned⟩
  · rw [none] at inGroup
    cases inGroup
  · obtain ⟨⟨env, index⟩, indexed, planned⟩ := Result.exists_of_mem_mapM planned inGroup
    exact ⟨task, ofStage, kept, env, index, indexed, planned⟩

theorem stages_cons_ok {name : String} {rest : List String} {planned : List Planned}
    {last : List String} :
    frame.stages position frontier (name :: rest) = .ok (planned, last) ↔
      ∃ variants later, frame.stage position frontier name = .ok variants ∧
        frame.stages (position + 1) (advance frontier variants) rest = .ok (later, last) ∧
          planned = variants.flatMap Variant.nodes ++ later := by
  rw [stages, Result.bind_eq_ok]
  constructor
  · rintro ⟨variants, staged, succeeded⟩
    obtain ⟨⟨later, end_⟩, continued, same⟩ := Result.bind_eq_ok.mp succeeded
    cases same
    exact ⟨variants, later, staged, continued, rfl⟩
  · rintro ⟨variants, later, staged, continued, rfl⟩
    exact ⟨variants, staged, Result.bind_eq_ok.mpr ⟨(later, last), continued, rfl⟩⟩

def entry (frame : Frame) : List String :=
  if frame.pipeline.beforeScript.isEmpty then [checkoutName] else [beforeName]

theorem nodes_ok {source : Source} {nodes : List Planned} :
    frame.nodes source = .ok nodes ↔
      ∃ staged last, frame.stages 0 frame.entry frame.pipeline.stages = .ok (staged, last) ∧
        nodes = ⟨.checkout, checkoutNode frame.env source⟩ ::
          frame.scripted .before beforeName [checkoutName] frame.pipeline.beforeScript ++ staged ++
          frame.scripted .after afterName last frame.pipeline.afterScript := by
  have same : (if (frame.scripted .before beforeName [checkoutName]
      frame.pipeline.beforeScript).isEmpty then [checkoutName] else [beforeName]) =
      frame.entry := by
    unfold scripted entry
    cases frame.pipeline.beforeScript <;> rfl
  unfold Frame.nodes
  simp only [same]
  rw [Result.bind_eq_ok]
  constructor
  · rintro ⟨⟨staged, last⟩, planned, same⟩
    exact ⟨staged, last, planned, (Result.pure_eq_ok.mp same).symm⟩
  · rintro ⟨staged, last, planned, same⟩
    exact ⟨(staged, last), planned, Result.pure_eq_ok.mpr same.symm⟩

end Frame

end Plan

theorem Pipeline.plan_ok {pipeline : Pipeline} {settings : Settings} {source : Source}
    {claim : String} {context : Option Webhook.Context} {hookId : String} {run : Run}
    (planned : pipeline.plan settings source claim context hookId = .ok run) :
    ∃ nodes, Plan.Frame.nodes ⟨pipeline, settings, context⟩ source = .ok nodes ∧
      run.spec.graph.nodes = nodes.map Plan.Planned.node := by
  obtain ⟨nodes, given, same⟩ := Result.bind_eq_ok.mp planned
  cases same
  exact ⟨nodes, given, rfl⟩

end StagedRuns
