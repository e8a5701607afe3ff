import StagedRuns.Proofs.Plan.Work

/-!
Plans in outline. What the nodes of a plan are there for, and what each of them runs after, can be
told without planning: no expression has a part in it but the guards of rules. A plan that does not
fail has just the nodes of its outline.
-/

namespace StagedRuns

open StagedRuns.Webhook (Context)

namespace Plan

open StagedRuns.Run (Node Param)

/-- What a node is there for. Work comes with the place of its task among those of the pipeline,
since tasks may be alike. -/
inductive Role where
  | checkout
  | before
  | task (place : Nat) (work : Work)
  | after
deriving DecidableEq

structure Post where
  role : Role
  frontier : List String

namespace Work

def name (work : Work) : String :=
  if work.archives then work.nodeName ++ "-archiver" else work.nodeName

/-- Whether the next stage waits for some work. -/
def ends (work : Work) : Bool :=
  work.archives || work.task.artifacts.isEmpty

def exits (works : List Work) : List String :=
  (works.filter ends).map name

end Work

/-! ### Stages in outline -/

section Shares

/- The work of each stage, with the places of its tasks. -/
variable (shares : String → List (Nat × Work))

/-- What comes after a stage runs after its exits, if it has any. -/
def next (frontier : List String) (stage : String) : List String :=
  if (shares stage).isEmpty then frontier else Work.exits ((shares stage).map Prod.snd)

def posts : List String → List String → List Post
  | _, [] => []
  | frontier, stage :: rest =>
      (shares stage).map (fun share => ⟨.task share.1 share.2, frontier⟩) ++
        posts (next shares frontier stage) rest

def ending (frontier : List String) (stages : List String) : List String :=
  stages.foldl (next shares) frontier

theorem role_of_mem_posts {shares : String → List (Nat × Work)} {frontier stages : List String}
    {post : Post} (member : post ∈ posts shares frontier stages) :
    ∃ stage ∈ stages, ∃ share ∈ shares stage, post.role = .task share.1 share.2 := by
  induction stages generalizing frontier with
  | nil => cases member
  | cons stage rest ih =>
      rcases List.mem_append.mp member with inStage | inRest
      · obtain ⟨share, present, rfl⟩ := List.mem_map.mp inStage
        exact ⟨stage, List.mem_cons_self, share, present, rfl⟩
      · obtain ⟨other, listed, found⟩ := ih inRest
        exact ⟨other, List.mem_cons_of_mem _ listed, found⟩

theorem posts_roles (frontier stages : List String) :
    (posts shares frontier stages).map Post.role =
      stages.flatMap fun stage => (shares stage).map fun share => .task share.1 share.2 := by
  induction stages generalizing frontier with
  | nil => rfl
  | cons stage rest ih =>
      rw [posts, List.map_append, ih, List.map_map, List.flatMap_cons]
      rfl

end Shares

/-! ### Stages with other work -/

def Role.change (change : Nat × Work → Nat × Work) : Role → Role
  | .task place work => .task (change (place, work)).1 (change (place, work)).2
  | other => other

def Post.change (change : Nat × Work → Nat × Work) (rename : String → String) (post : Post) :
    Post :=
  { role := post.role.change change, frontier := post.frontier.map rename }

section Change

variable {shares others : String → List (Nat × Work)} {change : Nat × Work → Nat × Work}
  {rename : String → String} (changed : ∀ stage, others stage = (shares stage).map change)
  (renamed : ∀ stage, Work.exits ((others stage).map Prod.snd) =
    (Work.exits ((shares stage).map Prod.snd)).map rename)

include changed renamed

theorem next_change (frontier : List String) (stage : String) :
    next others (frontier.map rename) stage = (next shares frontier stage).map rename := by
  unfold next
  rw [renamed, changed, List.isEmpty_map]
  split <;> rfl

theorem posts_change (frontier stages : List String) :
    posts others (frontier.map rename) stages =
      (posts shares frontier stages).map (Post.change change rename) := by
  induction stages generalizing frontier with
  | nil => rfl
  | cons stage rest ih =>
      rw [posts, posts, List.map_append, next_change changed renamed, ih, changed, List.map_map,
        List.map_map]
      rfl

theorem ending_change (frontier stages : List String) :
    ending others (frontier.map rename) stages = (ending shares frontier stages).map rename :=
  List.foldl_hom (List.map rename) (next_change changed renamed)

end Change

namespace Frame

def shares (frame : Frame) (stage : String) : List (Nat × Work) :=
  (frame.pipeline.tasks.zipIdx.filter fun indexed =>
    indexed.1.stage = stage && !frame.bars indexed.1).flatMap
      fun indexed => indexed.1.work.map fun work => (indexed.2, work)

def outline (frame : Frame) : List Post :=
  ⟨.checkout, []⟩ ::
    (if frame.pipeline.beforeScript = [] then [] else [⟨.before, [checkoutName]⟩]) ++
      posts frame.shares frame.entry frame.pipeline.stages ++
        if frame.pipeline.afterScript = [] then []
        else [⟨.after, ending frame.shares frame.entry frame.pipeline.stages⟩]

theorem map_scripted {β : Type} (each : Post → β) (lines : List String) (post : Post) :
    (if lines = [] then [] else [post]).map each = if lines = [] then [] else [each post] := by
  split <;> rfl

/-- A parameter of a task, blank if it has no value. -/
def valued (frame : Frame) (task : Task) (parameter : Parameter) : Param :=
  (frame.param task.name parameter).toOption.getD ⟨parameter.name, ""⟩

def workNode (frame : Frame) (frontier : List String) (work : Work) : Node :=
  if work.archives then
    archiverNode frame.settings frame.env work.nodeName work.task.artifacts
  else
    match work.task.taskRef? with
    | none =>
        scriptNode work.nodeName frontier (work.task.envAt frame.env work.index)
          (work.task.image?.getD frame.pipeline.image) work.task.script
    | some taskRef =>
        { bareNode work.nodeName frontier with
          taskRef := some { name := taskRef, kind := "Task" }
          params := work.task.parameters.map (frame.valued work.task) }

def nodeAt (frame : Frame) (source : Source) (post : Post) : Node :=
  match post.role with
  | .checkout => checkoutNode frame.env source
  | .before =>
      scriptNode beforeName post.frontier frame.env frame.pipeline.image
        frame.pipeline.beforeScript
  | .task _ work => frame.workNode post.frontier work
  | .after =>
      scriptNode afterName post.frontier frame.env frame.pipeline.image
        frame.pipeline.afterScript

variable {frame : Frame} {position : Nat} {frontier : List String}

section WorkNode

variable {work : Work}

theorem workNode_archives (archives : work.archives = true) :
    frame.workNode frontier work =
      archiverNode frame.settings frame.env work.nodeName work.task.artifacts :=
  if_pos archives

theorem workNode_script (runs : work.archives = false) (own : work.task.taskRef? = none) :
    frame.workNode frontier work =
      scriptNode work.nodeName frontier (work.task.envAt frame.env work.index)
        (work.task.image?.getD frame.pipeline.image) work.task.script := by
  rw [workNode, runs, own]
  rfl

theorem workNode_refers {taskRef : String} (runs : work.archives = false)
    (refers : work.task.taskRef? = some taskRef) :
    frame.workNode frontier work =
      { bareNode work.nodeName frontier with
        taskRef := some { name := taskRef, kind := "Task" }
        params := work.task.parameters.map (frame.valued work.task) } := by
  rw [workNode, runs, refers]
  rfl

end WorkNode

/-! ### The work of a stage -/

theorem shares_map_snd (frame : Frame) (stage : String) :
    (frame.shares stage).map Prod.snd =
      ((frame.pipeline.tasksOf stage).filter fun task => !frame.bars task).flatMap Task.work := by
  have kept : ((frame.pipeline.tasks.zipIdx.filter fun indexed =>
      indexed.1.stage = stage && !frame.bars indexed.1).map Prod.fst) =
        (frame.pipeline.tasksOf stage).filter fun task => !frame.bars task := by
    rw [Pipeline.tasksOf, List.filter_filter]
    conv_rhs => rw [← List.zipIdx_map_fst 0 frame.pipeline.tasks, List.filter_map]
    simp only [Function.comp_def, Bool.and_comm]
  rw [← kept, List.flatMap_map, shares, List.map_flatMap]
  simp only [List.map_map, Function.comp_def, List.map_id_fun', id]

/-- Whether variants are planned for some work. -/
structure Outlines (frame : Frame) (frontier : List String) (works : List Work)
    (variants : List Variant) : Prop where
  nodes : (variants.flatMap Variant.nodes).map Planned.node = works.map (frame.workNode frontier)
  exits : variants.map Variant.exit = Work.exits works

namespace Outlines

theorem nil (frame : Frame) (frontier : List String) : Outlines frame frontier [] [] where
  nodes := rfl
  exits := rfl

theorem append {works more : List Work} {variants others : List Variant}
    (first : Outlines frame frontier works variants) (second : Outlines frame frontier more others) :
    Outlines frame frontier (works ++ more) (variants ++ others) where
  nodes := by rw [List.flatMap_append, List.map_append, List.map_append, first.nodes, second.nodes]
  exits := by
    rw [List.map_append, first.exits, second.exits]
    simp only [Work.exits, List.filter_append, List.map_append]

theorem flatMap {α β : Type} {parts : α → List Work} {made : β → List Variant} {items : List α}
    {results : List β}
    (pairs : List.Forall₂ (fun item result => Outlines frame frontier (parts item) (made result))
      items results) :
    Outlines frame frontier (items.flatMap parts) (results.flatMap made) := by
  induction pairs with
  | nil => exact nil frame frontier
  | cons head _ ih => exact head.append ih

end Outlines

theorem taskNode_eq_workNode {task : Task} {index : Nat} {node : Node}
    (planned : frame.taskNode frontier task (Work.nodeName ⟨task, index, false⟩)
      (task.envAt frame.env index) = .ok node) :
    node = frame.workNode frontier ⟨task, index, false⟩ := by
  unfold taskNode at planned
  cases refers : task.taskRef? with
  | none =>
      rw [refers] at planned
      cases planned
      exact (workNode_script rfl refers).symm
  | some taskRef =>
      rw [refers] at planned
      obtain ⟨params, evaluated, same⟩ := Result.bind_eq_ok.mp planned
      cases same
      rw [workNode_refers rfl refers, Result.results_of_mapM evaluated]
      rfl

theorem variant_outlined {task : Task} {index : Nat} {env : List Run.Variable} {variant : Variant}
    (indexed : (env, index) ∈ (variantEnvs frame.env task.jobs).zipIdx)
    (planned : frame.variant position frontier task (frame.nameOf task.stage task index) env =
      .ok variant) :
    Outlines frame frontier (task.workAt index) [variant] := by
  obtain rfl := Task.env_of_mem_variantEnvs indexed
  obtain ⟨node, given, rfl⟩ := variant_ok.mp planned
  have named := Work.nodeName_eq_nameOf frame ⟨task, index, false⟩
  dsimp only at named
  rw [named] at given ⊢
  obtain rfl := taskNode_eq_workNode given
  have runnerNamed := (taskNode_ok given).1
  simp only [Task.workAt, List.isEmpty_iff]
  by_cases none : task.artifacts = []
  · rw [if_pos none, if_pos none]
    refine { nodes := rfl, exits := ?_ }
    simp [Work.exits, Work.ends, Work.name, Variant.exit, none, runnerNamed]
  · rw [if_neg none, if_neg none]
    refine { nodes := rfl, exits := ?_ }
    simp [Work.exits, Work.ends, Work.name, Variant.exit, none]
    rfl

theorem variants_outlined {task : Task} {variants : List Variant}
    (planned : frame.variants position frontier task.stage task = .ok variants) :
    Outlines frame frontier (if frame.bars task then [] else task.work) variants := by
  rcases variants_ok planned with ⟨excluded, rfl⟩ | ⟨stays, planned⟩
  · rw [excludes_eq_bars excluded]
    exact .nil frame frontier
  · rw [excludes_eq_bars stays, if_neg Bool.false_ne_true, work_eq_flatMap frame,
      ← List.flatMap_singleton' variants]
    exact .flatMap ((Result.pairs_of_mapM planned).imp
      fun indexed variant given => variant_outlined given.1 given.2)

theorem stage_outlined {stage : String} {variants : List Variant}
    (planned : frame.stage position frontier stage = .ok variants) :
    Outlines frame frontier ((frame.shares stage).map Prod.snd) variants := by
  obtain ⟨groups, grouped, rfl⟩ := stage_ok.mp planned
  rw [shares_map_snd, flatMap_unbarred, List.flatten_eq_flatMap]
  refine .flatMap ((Result.pairs_of_mapM grouped).imp ?_)
  rintro task group ⟨member, given⟩
  obtain rfl := Pipeline.stage_of_mem_tasksOf member
  exact variants_outlined given

theorem stage_advances {stage : String} {variants : List Variant}
    (planned : frame.stage position frontier stage = .ok variants) :
    advance frontier variants = next frame.shares frontier stage := by
  have outlined := stage_outlined planned
  have alike : variants.isEmpty = (frame.shares stage).isEmpty := by
    have lengths := congrArg List.length outlined.nodes
    cases variants with
    | nil =>
        simp only [List.flatMap_nil, List.map_nil, List.length_nil, List.length_map] at lengths
        rw [List.eq_nil_of_length_eq_zero lengths.symm]
        rfl
    | cons variant rest =>
        simp only [List.flatMap_cons, Variant.nodes, List.cons_append, List.map_cons,
          List.length_cons, List.length_map] at lengths
        cases shares : frame.shares stage with
        | nil => rw [shares] at lengths; cases lengths
        | cons share others => rfl
  rw [advance, next, alike, outlined.exits]

/-! ### Whole plans -/

theorem stages_outlined (source : Source) {names : List String} {staged : List Planned} {last : List String}
    (planned : frame.stages position frontier names = .ok (staged, last)) :
    staged.map Planned.node = (posts frame.shares frontier names).map (frame.nodeAt source) ∧
      last = ending frame.shares frontier names := by
  induction names generalizing position frontier staged with
  | nil =>
      cases planned
      exact ⟨rfl, rfl⟩
  | cons name rest ih =>
      obtain ⟨variants, later, stage, continued, rfl⟩ := stages_cons_ok.mp planned
      rw [stage_advances stage] at continued
      obtain ⟨laterNodes, same⟩ := ih continued
      refine ⟨?_, same⟩
      rw [List.map_append, (stage_outlined stage).nodes, laterNodes, posts, List.map_append,
        List.map_map, List.map_map]
      rfl

theorem scripted_nodes (frame : Frame) (origin : Origin) (name : String)
    (frontier lines : List String) :
    (frame.scripted origin name frontier lines).map Planned.node =
      if lines = [] then [] else [scriptNode name frontier frame.env frame.pipeline.image lines] := by
  cases lines <;> rfl

theorem nodes_outlined {source : Source} {nodes : List Planned} (planned : frame.nodes source = .ok nodes) :
    nodes.map Planned.node = frame.outline.map (frame.nodeAt source) := by
  obtain ⟨staged, last, given, rfl⟩ := nodes_ok.mp planned
  obtain ⟨stagedNodes, rfl⟩ := stages_outlined source given
  rw [outline, List.map_append, List.map_append, List.map_append, List.map_append, List.map_cons,
    List.map_cons, map_scripted, map_scripted, scripted_nodes, scripted_nodes, stagedNodes]
  rfl

end Frame

end Plan

namespace Run

def mapNodes (change : List Node → List Node) (run : Run) : Run :=
  { run with
    spec := { run.spec with
      graph := { run.spec.graph with nodes := change run.spec.graph.nodes } } }

theorem mapNodes_correlate (change : List Node → List Node) (run : Run) (source : Source)
    (hookId : String) :
    (run.correlate source hookId).mapNodes change = (run.mapNodes change).correlate source hookId :=
  rfl

end Run

namespace Pipeline

def runOf (pipeline : Pipeline) (settings : Settings) (source : Source) (claim : String)
    (context : Option Context) (hookId : String) : Run :=
  let frame : Plan.Frame := { pipeline, settings, context }
  let spec : Run.Spec :=
    { serviceAccountName := pipeline.serviceAccount?.getD settings.serviceAccount
      params := []
      workspaces := [{ name := Plan.workspace, claimName := claim }]
      graph :=
        { params := [], workspaces := [Plan.workspace]
          nodes := frame.outline.map (frame.nodeAt source) } }
  (Run.new Plan.managedBy settings.runPrefix spec).correlate source hookId

/-- A pipeline is planned in outline, unless a task cannot be planned. -/
theorem plan_eq (pipeline : Pipeline) (settings : Settings) (source : Source) (claim : String)
    (context : Option Context) (hookId : String) :
    pipeline.plan settings source claim context hookId =
      match pipeline.staged.findSome? (Plan.Frame.taskFault? ⟨pipeline, settings, context⟩) with
      | some error => .error error
      | none => .ok (pipeline.runOf settings source claim context hookId) := by
  rw [← @fault?_plan pipeline settings source claim hookId context]
  cases planned : pipeline.plan settings source claim context hookId with
  | error error => rfl
  | ok run =>
      obtain ⟨nodes, given, same⟩ := Result.bind_eq_ok.mp planned
      cases same
      rw [Plan.Frame.nodes_outlined given]
      rfl

/-- Two pipelines of which the same tasks cannot be planned have runs that differ as their outlines
do. -/
theorem plan_mapNodes {pipeline other : Pipeline} {settings : Settings} {source : Source}
    {claim hookId : String} {context : Option Context} {change : List Run.Node → List Run.Node}
    (faults : other.staged.findSome? (Plan.Frame.taskFault? ⟨other, settings, context⟩) =
      pipeline.staged.findSome? (Plan.Frame.taskFault? ⟨pipeline, settings, context⟩))
    (options : other.options = pipeline.options)
    (nodes : (Plan.Frame.outline ⟨other, settings, context⟩).map
        (Plan.Frame.nodeAt ⟨other, settings, context⟩ source) =
      change ((Plan.Frame.outline ⟨pipeline, settings, context⟩).map
        (Plan.Frame.nodeAt ⟨pipeline, settings, context⟩ source))) :
    other.plan settings source claim context hookId =
      (pipeline.plan settings source claim context hookId).map (Run.mapNodes change) := by
  rw [plan_eq, plan_eq, faults]
  cases pipeline.staged.findSome? (Plan.Frame.taskFault? ⟨pipeline, settings, context⟩) with
  | some error => rfl
  | none =>
      simp only [Except.map, runOf, Run.mapNodes_correlate, nodes, serviceAccount?, options]
      rfl

end Pipeline

end StagedRuns
