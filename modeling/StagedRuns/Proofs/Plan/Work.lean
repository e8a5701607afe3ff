import StagedRuns.Proofs.Plan.Distinct
import StagedRuns.Proofs.Plan.Failure

/-!
The work that a plan does. A pipeline asks for a list of work, stage by stage and variant by
variant: to run a variant of a task, and to archive what the variant has made. The nodes of the
stages do just this work, in this order, one node for each part of it.
-/

namespace StagedRuns

open StagedRuns.Webhook (Context)

namespace Plan

open StagedRuns.Run (Node Param Step Variable)

/-- A variant of a task that is to be run, or whose artifacts are to be archived. -/
structure Work where
  task : Task
  index : Nat
  archives : Bool
deriving DecidableEq

end Plan

namespace Task

open Plan (Work)
open Run (Variable)

def workAt (task : Task) (index : Nat) : List Work :=
  ⟨task, index, false⟩ :: if task.artifacts = [] then [] else [⟨task, index, true⟩]

def work (task : Task) : List Work :=
  (List.range (max 1 task.jobs.length)).flatMap task.workAt

/-- The environment of a variant, which adds the variables of its job to those of all nodes. -/
def envAt (task : Task) (base : List Variable) (index : Nat) : List Variable :=
  base ++ (task.jobs[index]?).elim [] fun job =>
    job.toList.map fun binding => ⟨binding.1, binding.2⟩

theorem variantCount_eq_max (task : Task) : task.variantCount = max 1 task.jobs.length := by
  unfold variantCount
  cases task.jobs with
  | nil => rfl
  | cons job jobs =>
      simp only [List.isEmpty_cons, List.length_cons, if_neg Bool.false_ne_true]
      omega

theorem env_of_mem_variantEnvs {task : Task} {base env : List Variable} {index : Nat}
    (member : (env, index) ∈ (Plan.variantEnvs base task.jobs).zipIdx) :
    env = task.envAt base index := by
  have found := List.mem_zipIdx_iff_getElem?.mp member
  unfold Plan.variantEnvs at found
  unfold envAt
  cases jobs : task.jobs with
  | nil =>
      rw [jobs] at found
      cases index with
      | zero =>
          have same : base = env := by simpa using found
          simp [same]
      | succ index => simp at found
  | cons job rest =>
      rw [jobs, List.isEmpty_cons, if_neg Bool.false_ne_true, List.getElem?_map] at found
      obtain ⟨other, placed, same⟩ := Option.map_eq_some_iff.mp found
      dsimp only at placed same
      rw [placed, ← same]
      rfl

end Task

/-- The work of a pipeline: for every stage in turn, that of its tasks which no rule bars, in the
order in which they are declared. -/
def Pipeline.work (pipeline : Pipeline) (context : Option Context) : List Plan.Work :=
  pipeline.stages.flatMap fun stage =>
    ((pipeline.tasksOf stage).filter
      fun task => !context.any fun event => task.barred event).flatMap Task.work

namespace Plan

open StagedRuns.Run (Node Param Step Variable)

/-- The name of the node that runs a variant. Variants are numbered if there are at least two. -/
def Work.nodeName (work : Work) : String :=
  work.task.name ++ "-stage-" ++ work.task.stage ++
    if 2 ≤ work.task.jobs.length then "-" ++ toString work.index else ""

theorem Work.nodeName_eq_nameOf (frame : Frame) (work : Work) :
    frame.nameOf work.task.stage work.task work.index = work.nodeName := by
  rw [Frame.nameOf_eq, Task.nodeName, Work.nodeName, variantLabel, Task.variantCount_eq_max]
  simp only [String.append_assoc]
  have several : 1 < max 1 work.task.jobs.length ↔ 2 ≤ work.task.jobs.length := by omega
  simp only [several]

theorem task_of_mem_work {task : Task} {work : Work} (present : work ∈ task.work) :
    work.task = task := by
  obtain ⟨index, _, inVariant⟩ := List.mem_flatMap.mp present
  unfold Task.workAt at inVariant
  rcases List.mem_cons.mp inVariant with rfl | archives
  · rfl
  · split at archives
    · cases archives
    · cases List.mem_singleton.mp archives
      rfl

def lineStep (env : List Variable) (image line : String) : Step :=
  { name := "", image, command := ["sh"], args := ["-c", line], env
    workingDir := "$(workspaces.source.path)", script := "" }

/-- Whether a node does some work, whatever it runs after. -/
inductive Does (frame : Frame) : Work → Node → Prop
  | script {task : Task} {index : Nat} (runAfter : List String) (own : task.taskRef? = none) :
      Does frame ⟨task, index, false⟩
        { name := Work.nodeName ⟨task, index, false⟩, runAfter
          workspaces := [⟨"source", "git-checkout"⟩], taskRef := none, params := []
          taskSpec := some
            { workspaces := ["source"]
              steps := task.script.map
                (lineStep (task.envAt frame.env index)
                  (task.image?.getD frame.pipeline.image)) } }
  | reference {task : Task} {index : Nat} {taskRef : String} {params : List Param}
      (runAfter : List String) (refers : task.taskRef? = some taskRef)
      (bound : List.Forall₂ (fun parameter param => param.name = parameter.name ∧
        ∃ context, frame.context = some context ∧
          context.evaluateText parameter.expression = .ok param.value) task.parameters params) :
      Does frame ⟨task, index, false⟩
        { name := Work.nodeName ⟨task, index, false⟩, runAfter
          workspaces := [⟨"source", "git-checkout"⟩], taskRef := some ⟨taskRef, "Task"⟩, params
          taskSpec := none }
  | archive {task : Task} {index : Nat} :
      Does frame ⟨task, index, true⟩
        { name := Work.nodeName ⟨task, index, true⟩ ++ "-archiver"
          runAfter := [Work.nodeName ⟨task, index, true⟩]
          workspaces := [⟨"source", "git-checkout"⟩], taskRef := none, params := []
          taskSpec := some
            { workspaces := ["source"]
              steps :=
                [ { name := Work.nodeName ⟨task, index, true⟩ ++ "-archiver"
                    image := frame.settings.archiverImage, command := []
                    args :=
                      ["archive", "--bucket-url", frame.settings.archiveUrl] ++ task.artifacts
                    env := frame.env, workingDir := "$(workspaces.source.path)"
                    script := "" } ] } }

namespace Frame

variable {frame : Frame} {position : Nat} {frontier : List String}

theorem param_ok {task : String} {parameter : Parameter} {param : Param}
    (given : frame.param task parameter = .ok param) :
    param.name = parameter.name ∧ ∃ context, frame.context = some context ∧
      context.evaluateText parameter.expression = .ok param.value := by
  unfold Frame.param at given
  cases event : frame.context with
  | none =>
      rw [event] at given
      cases given
  | some context =>
      rw [event] at given
      dsimp only at given
      cases evaluated : context.evaluateText parameter.expression with
      | error problem =>
          rw [evaluated] at given
          cases given
      | ok value =>
          rw [evaluated] at given
          cases given
          exact ⟨rfl, context, rfl, evaluated⟩

theorem taskNode_does {task : Task} {index : Nat} {node : Node}
    (planned : frame.taskNode frontier task (Work.nodeName ⟨task, index, false⟩)
      (task.envAt frame.env index) = .ok node) : Does frame ⟨task, index, false⟩ node := by
  unfold taskNode at planned
  cases refers : task.taskRef? with
  | none =>
      rw [refers] at planned
      cases planned
      exact .script frontier refers
  | some taskRef =>
      rw [refers] at planned
      obtain ⟨params, evaluated, same⟩ := Result.bind_eq_ok.mp planned
      cases same
      have bound := (Result.mapM_eq_ok.mp evaluated).imp fun _ _ => param_ok
      exact .reference frontier refers bound

theorem variant_does {task : Task} {index : Nat} {env : List Variable} {variant : Variant}
    (indexed : (env, index) ∈ (variantEnvs frame.env task.jobs).zipIdx)
    (planned : frame.variant position frontier task (frame.nameOf task.stage task index) env =
      .ok variant) :
    List.Forall₂ (Does frame) (task.workAt index) (variant.nodes.map Planned.node) := by
  obtain rfl := Task.env_of_mem_variantEnvs indexed
  obtain ⟨node, given, rfl⟩ := variant_ok.mp planned
  have named := Work.nodeName_eq_nameOf frame ⟨task, index, false⟩
  dsimp only at named
  rw [named] at given ⊢
  have runs := taskNode_does given
  unfold Task.workAt Variant.nodes
  cases artifacts : task.artifacts with
  | nil => exact .cons runs .nil
  | cons path paths =>
      have archives : Does frame ⟨task, index, true⟩ _ := .archive
      rw [artifacts] at archives
      exact .cons runs (.cons archives .nil)

def bars (frame : Frame) (task : Task) : Bool :=
  frame.context.any fun event => task.barred event

theorem excludes_eq_bars {task : Task} {excluded : Bool}
    (decided : frame.excludes task = .ok excluded) : frame.bars task = excluded := by
  unfold bars
  cases event : frame.context with
  | none =>
      unfold excludes at decided
      rw [event] at decided
      cases decided
      rfl
  | some context => exact (excludes_ok event decided).symm

theorem work_eq_flatMap (frame : Frame) (task : Task) :
    task.work =
      (variantEnvs frame.env task.jobs).zipIdx.flatMap fun indexed => task.workAt indexed.2 := by
  rw [Task.work, ← Task.variantCount_eq_max, ← variantEnvs_length frame.env task,
    List.range_eq_range', ← List.zipIdx_map_snd, List.flatMap_map]

theorem flatMap_unbarred (frame : Frame) (tasks : List Task) :
    (tasks.filter fun task => !frame.bars task).flatMap Task.work =
      tasks.flatMap fun task => if frame.bars task then [] else task.work := by
  rw [Result.flatMap_filter]
  refine List.flatMap_congr fun task _ => ?_
  cases frame.bars task <;> rfl

theorem variants_does {task : Task} {variants : List Variant}
    (planned : frame.variants position frontier task.stage task = .ok variants) :
    List.Forall₂ (Does frame) (if frame.bars task then [] else task.work)
      ((variants.flatMap Variant.nodes).map Planned.node) := by
  rcases variants_ok planned with ⟨excluded, rfl⟩ | ⟨stays, planned⟩
  · rw [excludes_eq_bars excluded]
    exact .nil
  · rw [excludes_eq_bars stays, if_neg Bool.false_ne_true, work_eq_flatMap frame,
      List.map_flatMap]
    exact List.rel_flatMap (Result.pairs_of_mapM planned)
      fun indexed variant given => variant_does given.1 given.2

theorem stage_does {stage : String} {variants : List Variant}
    (planned : frame.stage position frontier stage = .ok variants) :
    List.Forall₂ (Does frame)
      (((frame.pipeline.tasksOf stage).filter fun task => !frame.bars task).flatMap Task.work)
      ((variants.flatMap Variant.nodes).map Planned.node) := by
  obtain ⟨groups, grouped, rfl⟩ := stage_ok.mp planned
  rw [flatMap_unbarred, List.flatten_eq_flatMap, List.flatMap_assoc, List.map_flatMap]
  refine List.rel_flatMap (Result.pairs_of_mapM grouped) ?_
  rintro task group ⟨member, given⟩
  obtain rfl := Pipeline.stage_of_mem_tasksOf member
  exact variants_does given

theorem stages_does {names : List String} {staged : List Planned} {last : List String}
    (planned : frame.stages position frontier names = .ok (staged, last)) :
    List.Forall₂ (Does frame)
      (names.flatMap fun stage =>
        ((frame.pipeline.tasksOf stage).filter fun task => !frame.bars task).flatMap Task.work)
      (staged.map Planned.node) := by
  induction names generalizing position frontier staged with
  | nil =>
      cases planned
      exact .nil
  | cons name rest ih =>
      obtain ⟨variants, later, stage, continued, rfl⟩ := stages_cons_ok.mp planned
      rw [List.flatMap_cons, List.map_append]
      exact List.rel_append (stage_does stage) (ih continued)

end Frame

end Plan

/-- The work of a pipeline is preserved: between the checkout with the script before the stages and
the script after them, the nodes of a planned run do the work of the pipeline, one after another. -/
theorem Pipeline.plan_work {pipeline : Pipeline} {settings : Settings} {source : Source}
    {claim : String} {context : Option Context} {hookId : String} {run : Run}
    (planned : pipeline.plan settings source claim context hookId = .ok run) :
    ∃ front staged back, run.spec.graph.nodes = front ++ staged ++ back ∧
      front.map Run.Node.name =
        "git-clone" :: (if pipeline.beforeScript = [] then [] else ["before-step"]) ∧
      back.map Run.Node.name = (if pipeline.afterScript = [] then [] else ["after-step"]) ∧
      List.Forall₂ (Plan.Does ⟨pipeline, settings, context⟩) (pipeline.work context) staged := by
  obtain ⟨nodes, given, same⟩ := Pipeline.plan_ok planned
  obtain ⟨staged, last, stages, rfl⟩ := Plan.Frame.nodes_ok.mp given
  have scripted : ∀ (frame : Plan.Frame) origin name frontier (lines : List String),
      ((frame.scripted origin name frontier lines).map Plan.Planned.node).map Run.Node.name =
        if lines = [] then [] else [name] := by
    intro frame origin name frontier lines
    cases lines <;> rfl
  rw [same, List.map_append, List.map_append]
  refine ⟨_, _, _, rfl, ?_, scripted _ _ _ _ _, Plan.Frame.stages_does stages⟩
  rw [List.map_cons, List.map_cons, scripted]
  rfl

theorem Pipeline.samplePlan_work :
    ∃ run front staged back settings, Pipeline.samplePlan = .ok run ∧
      run.spec.graph.nodes = front ++ staged ++ back ∧
      (Pipeline.sample.work (some (.ofDocument .null))).map
          (fun work => (work.nodeName, work.archives)) =
        [ ("compile-stage-build-0", false), ("compile-stage-build-0", true)
        , ("compile-stage-build-1", false), ("compile-stage-build-1", true)
        , ("ship-stage-deploy", false) ] ∧
      List.Forall₂ (Plan.Does ⟨Pipeline.sample, settings, some (.ofDocument .null)⟩)
        (Pipeline.sample.work (some (.ofDocument .null))) staged := by
  have planned : Pipeline.samplePlan = .ok _ := rfl
  obtain ⟨front, staged, back, split, _, _, does⟩ := Pipeline.plan_work planned
  exact ⟨_, front, staged, back, _, planned, split, by decide +kernel, does⟩

end StagedRuns
