import StagedRuns.Proofs.Pipeline.Validated
import StagedRuns.Proofs.Plan.Work

/-!
What the nodes of a plan execute. A node has either a reference with a name or steps of its own, but
the steps of a task are the lines of its script: a task with neither lines nor a reference makes
nodes without steps, and the checks of a pipeline that is read pass it if it has options.
-/

namespace StagedRuns

open StagedRuns.Webhook (Context)

/-- A task has lines to execute, or refers to a task that has. -/
def Task.Executable (task : Task) : Prop :=
  task.script ≠ [] ∨ task.taskRef?.isSome

theorem Task.taskRef?_ne_blank {task : Task} {name : String}
    (refers : task.taskRef? = some name) : name ≠ "" := by
  obtain ⟨options, _, named⟩ := Option.bind_eq_some_iff.mp refers
  exact present?_ne_blank named

/-- What a task without anything to execute can have passed the checks with. -/
theorem Task.Valid.unreferring {task : Task} (valid : task.Valid) (idle : ¬ task.Executable) :
    ∃ options, task.options = some options ∧ present? options.taskRef = none := by
  obtain ⟨noScript, noReference⟩ := not_or.mp idle
  obtain ⟨options, given⟩ := Option.isSome_iff_exists.mp (valid.equipped (not_not.mp noScript))
  refine ⟨options, given, ?_⟩
  have none := Option.not_isSome_iff_eq_none.mp noReference
  unfold Task.taskRef? at none
  rwa [given] at none

namespace Run.Node

/-- A node either refers to a task by its name or brings a task along. -/
def Decided (node : Node) : Prop :=
  (∃ taskRef, node.taskRef = some taskRef ∧ taskRef.name ≠ "" ∧ node.taskSpec = none) ∨
    (node.taskRef = none ∧ ∃ spec, node.taskSpec = some spec)

def Stepped (node : Node) : Prop :=
  ∀ spec ∈ node.taskSpec, spec.steps ≠ []

end Run.Node

namespace Plan

open StagedRuns.Run (Node Step)

theorem stepsNode_decided (name : String) (runAfter : List String) (steps : List Step) :
    (stepsNode name runAfter steps).Decided :=
  .inr ⟨rfl, _, rfl⟩

theorem stepsNode_stepped {name : String} {runAfter : List String} {steps : List Step}
    (occupied : steps ≠ []) : (stepsNode name runAfter steps).Stepped := by
  rintro spec ⟨⟩
  exact occupied

theorem checkoutNode_sound (env : List Run.Variable) (source : Source) :
    (checkoutNode env source).Decided ∧ (checkoutNode env source).Stepped :=
  ⟨stepsNode_decided _ _ _, stepsNode_stepped (List.cons_ne_nil _ _)⟩

variable {frame : Frame}

theorem scripted_sound {origin : Origin} {name : String} {frontier lines : List String}
    {planned : Planned} (present : planned ∈ frame.scripted origin name frontier lines) :
    planned.node.Decided ∧ planned.node.Stepped := by
  unfold Frame.scripted at present
  split at present
  · cases present
  · rename_i occupied
    cases List.mem_singleton.mp present
    refine ⟨stepsNode_decided _ _ _, stepsNode_stepped ?_⟩
    simpa using occupied

namespace Does

variable {work : Work} {node : Node}

theorem decided (does : Does frame work node) : node.Decided := by
  cases does with
  | script _ _ => exact .inr ⟨rfl, _, rfl⟩
  | reference _ refers _ => exact .inl ⟨_, rfl, Task.taskRef?_ne_blank refers, rfl⟩
  | archive => exact .inr ⟨rfl, _, rfl⟩

/-- Archiving has a step, and running a variant has what its task has to execute. -/
theorem stepped_iff (does : Does frame work node) :
    node.Stepped ↔ work.archives ∨ work.task.Executable := by
  cases does with
  | @script task index _ own =>
      constructor
      · intro stepped
        have occupied := stepped _ rfl
        exact .inr (.inl fun empty => occupied (List.map_eq_nil_iff.mpr empty))
      · rintro (archives | lines | refers)
        · cases archives
        · rintro spec ⟨⟩
          exact fun empty => lines (List.map_eq_nil_iff.mp empty)
        · cases own ▸ refers
  | reference _ refers _ =>
      refine iff_of_true nofun (.inr (.inr ?_))
      exact Option.isSome_iff_exists.mpr ⟨_, refers⟩
  | archive =>
      refine iff_of_true ?_ (.inl rfl)
      rintro spec ⟨⟩
      exact List.cons_ne_nil _ _

end Does

theorem exists_work (task : Task) : ∃ work ∈ task.work, work.archives = false ∧ work.task = task := by
  refine ⟨⟨task, 0, false⟩, ?_, rfl, rfl⟩
  refine List.mem_flatMap.mpr ⟨0, ?_, List.mem_cons_self⟩
  rw [List.mem_range]
  omega

theorem stages_stepped_iff {position : Nat} {frontier names last : List String}
    {staged : List Planned} (planned : frame.stages position frontier names = .ok (staged, last)) :
    (∀ node ∈ staged.map Planned.node, node.Stepped) ↔
      ∀ stage ∈ names, ∀ task ∈ frame.pipeline.tasksOf stage,
        frame.bars task = false → task.Executable := by
  have does := Frame.stages_does planned
  constructor
  · intro stepped stage inStages task ofStage stays
    obtain ⟨work, ofTask, runs, rfl⟩ := exists_work task
    have asked : work ∈ names.flatMap fun stage =>
        ((frame.pipeline.tasksOf stage).filter fun task => !frame.bars task).flatMap Task.work := by
      refine List.mem_flatMap.mpr ⟨stage, inStages, List.mem_flatMap.mpr ⟨work.task, ?_, ofTask⟩⟩
      exact List.mem_filter.mpr ⟨ofStage, by rw [stays]; rfl⟩
    obtain ⟨node, present, done⟩ := Result.exists_of_forall₂ does asked
    rcases done.stepped_iff.mp (stepped node present) with archives | executable
    · cases runs.symm.trans archives
    · exact executable
  · intro executable node present
    obtain ⟨work, asked, done⟩ := Result.exists_of_forall₂ does.flip present
    obtain ⟨stage, inStages, ofStage⟩ := List.mem_flatMap.mp asked
    obtain ⟨task, kept, ofTask⟩ := List.mem_flatMap.mp ofStage
    obtain ⟨inStage, stays⟩ := List.mem_filter.mp kept
    cases task_of_mem_work ofTask
    have stays : frame.bars work.task = false := by simpa using stays
    exact done.stepped_iff.mpr (.inr (executable stage inStages _ inStage stays))

end Plan

theorem Plan.Frame.nodes_sound {frame : Plan.Frame} {source : Source} {nodes : List Plan.Planned}
    (given : frame.nodes source = .ok nodes) :
    ∃ staged last, frame.stages 0 frame.entry frame.pipeline.stages = .ok (staged, last) ∧
      (∀ planned ∈ staged, planned ∈ nodes) ∧
      ∀ planned ∈ nodes, planned ∈ staged ∨ planned.node.Decided ∧ planned.node.Stepped := by
  obtain ⟨staged, last, stages, rfl⟩ := Plan.Frame.nodes_ok.mp given
  refine ⟨staged, last, stages, ?_, ?_⟩
  · intro planned present
    exact List.mem_append_left _ (List.mem_append_right _ present)
  · intro planned present
    rcases List.mem_append.mp present with earlier | after
    · rcases List.mem_append.mp earlier with front | inStages
      · rcases List.mem_cons.mp front with rfl | before
        · exact .inr (Plan.checkoutNode_sound frame.env source)
        · exact .inr (Plan.scripted_sound before)
      · exact .inl inStages
    · exact .inr (Plan.scripted_sound after)

/-- The nodes that the plan of a document makes refer to a task by its name or bring steps along,
but for those of tasks that have options without a reference in place of a script. -/
theorem Pipeline.plan_executable_iff {text : String} {pipeline : Pipeline} {settings : Settings}
    {source : Source} {claim : String} {context : Option Context} {hookId : String} {run : Run}
    (accepted : Pipeline.read text = .ok pipeline)
    (planned : pipeline.plan settings source claim context hookId = .ok run) :
    (∀ node ∈ run.spec.graph.nodes, node.Decided) ∧
      ((∀ node ∈ run.spec.graph.nodes, node.Stepped) ↔
        ∀ stage ∈ pipeline.stages, ∀ task ∈ pipeline.tasksOf stage,
          Plan.Frame.bars ⟨pipeline, settings, context⟩ task = false → task.Executable) ∧
      ∀ task ∈ pipeline.tasks, ¬ task.Executable →
        ∃ options, task.options = some options ∧ present? options.taskRef = none := by
  obtain ⟨entries, _, done⟩ := Result.bind_eq_ok.mp accepted
  obtain ⟨nodes, given, same⟩ := Pipeline.plan_ok planned
  obtain ⟨staged, last, stages, within, sound⟩ := Plan.Frame.nodes_sound given
  rw [same]
  refine ⟨?_, Iff.trans ?_ (Plan.stages_stepped_iff stages), ?_⟩
  · intro node present
    obtain ⟨planned, inNodes, rfl⟩ := List.mem_map.mp present
    rcases sound planned inNodes with inStages | ⟨decided, _⟩
    · obtain ⟨work, _, does⟩ := Result.exists_of_forall₂ (Plan.Frame.stages_does stages).flip
        (List.mem_map_of_mem inStages)
      exact does.decided
    · exact decided
  · constructor
    · intro stepped node present
      obtain ⟨planned, inStages, rfl⟩ := List.mem_map.mp present
      exact stepped _ (List.mem_map_of_mem (within planned inStages))
    · intro stepped node present
      obtain ⟨planned, inNodes, rfl⟩ := List.mem_map.mp present
      rcases sound planned inNodes with inStages | ⟨_, has⟩
      · exact stepped _ (List.mem_map_of_mem inStages)
      · exact has
  · intro task present idle
    exact ((Pipeline.ofEntries_validated done).valid task present).unreferring idle

def Pipeline.referringText : String :=
  "build:\n  script: [make]\nnotify:\n  tekton:\n    taskRef: slack-notify\n"

theorem Pipeline.referringText_executable :
    ∃ pipeline run, Pipeline.read referringText = .ok pipeline ∧
      pipeline.plan default ⟨"", ""⟩ "claim" none "hook" = .ok run ∧
      (∀ node ∈ run.spec.graph.nodes, node.Decided ∧ node.Stepped) ∧
      run.spec.graph.nodes.length = 3 := by
  let pipeline : Pipeline :=
    { Pipeline.empty with
      stages := ["default"]
      tasks :=
        [ { name := "build", stage := "default", script := ["make"], rules := []
            artifacts := [], options := none }
        , { name := "notify", stage := "default", script := [], rules := [], artifacts := []
            options := some
              { taskRef := some "slack-notify", image := none, jobs := [], parameters := [] } } ] }
  have accepted : Pipeline.read referringText = .ok pipeline := by decide +kernel
  have planned : pipeline.plan default ⟨"", ""⟩ "claim" none "hook" = .ok _ := rfl
  obtain ⟨decided, stepped, _⟩ := Pipeline.plan_executable_iff accepted planned
  have executable : ∀ task ∈ pipeline.tasks, task.Executable := by
    intro task present
    rcases List.mem_cons.mp present with rfl | present
    · exact .inl (List.cons_ne_nil _ _)
    · cases List.mem_singleton.mp present
      exact .inr rfl
  have all := stepped.mpr fun stage _ task ofStage _ =>
    executable task (List.mem_of_mem_filter ofStage)
  exact ⟨pipeline, _, accepted, planned,
    fun node present => ⟨decided node present, all node present⟩, rfl⟩

/-- A task whose options give it an image, but nothing to execute in it. -/
def Pipeline.idleText : String :=
  "build:\n  tekton:\n    image: golang\n"

theorem Pipeline.idleText_stepless :
    ∃ pipeline run, Pipeline.read idleText = .ok pipeline ∧
      pipeline.plan default ⟨"", ""⟩ "claim" none "hook" = .ok run ∧
      ∃ node ∈ run.spec.graph.nodes, ¬ node.Stepped := by
  let pipeline : Pipeline :=
    { Pipeline.empty with
      stages := ["default"]
      tasks :=
        [ { name := "build", stage := "default", script := [], rules := [], artifacts := []
            options := some
              { taskRef := none, image := some "golang", jobs := [], parameters := [] } } ] }
  have accepted : Pipeline.read idleText = .ok pipeline := by decide +kernel
  refine ⟨pipeline, _, accepted, rfl, _, List.mem_cons_of_mem _ List.mem_cons_self, ?_⟩
  intro stepped
  exact stepped _ rfl rfl

end StagedRuns
