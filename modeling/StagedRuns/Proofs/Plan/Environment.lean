import StagedRuns.Proofs.Dictionary
import StagedRuns.Proofs.Plan.Outline

/-!
The environments of the nodes of a plan. The variables of the pipeline and the place of the workspace
are known to all nodes, and those of a job to the one node that runs its variant of the task.
-/

namespace StagedRuns

open StagedRuns.Run (Node Variable)
open StagedRuns.Webhook (Context)

/-- The value of a variable in an environment, where the last entry of a name counts. -/
def Run.effective? (env : List Variable) (name : String) : Option String :=
  (env.reverse.map fun entry => (entry.name, entry.value)).lookup name

def Run.Node.withEnv (env : List Variable) (node : Node) : Node :=
  { node with taskSpec := node.taskSpec.map fun spec =>
      { spec with steps := spec.steps.map fun step => { step with env } } }

namespace Plan

theorem effective?_append (front back : List Variable) (name : String) :
    Run.effective? (front ++ back) name =
      (Run.effective? back name).or (Run.effective? front name) := by
  unfold Run.effective?
  rw [List.reverse_append, List.map_append, List.lookup_append]

theorem effective?_singleton (entry : Variable) (name : String) :
    Run.effective? [entry] name = if name = entry.name then some entry.value else none :=
  lookup_cons_eq (entry.name, entry.value) [] name

theorem effective?_dictionary (vars : Dictionary String) (name : String) :
    Run.effective? (vars.toList.map fun binding => ⟨binding.1, binding.2⟩) name =
      vars.get? name := by
  unfold Run.effective?
  rw [← List.map_reverse, List.map_map]
  exact (congrArg (List.lookup name) (List.map_id _)).trans
    (lookup_of_perm vars.increases.nodup vars.entries.reverse_perm.symm name)

/-- The variables that all nodes know. -/
def common? (vars : Dictionary String) (name : String) : Option String :=
  if name = "CI_PROJECT_DIR" then some "$(workspaces.source.path)" else vars.get? name

theorem effective?_baseEnv (vars : Dictionary String) (name : String) :
    Run.effective? (baseEnv vars) name = common? vars name := by
  unfold baseEnv common?
  rw [effective?_append, effective?_singleton, effective?_dictionary]
  split <;> rfl

namespace Role

def nodeName : Role → String
  | .checkout => "git-clone"
  | .before => "before-step"
  | .task _ work => work.name
  | .after => "after-step"

/-- The variables that a node knows by itself: the checkout its own one, and a variant of a task
those of its job. -/
def own? : Role → String → Option String
  | .checkout, name =>
      if name = "TEKTON_RESOURCE_NAME" then some "tekton-ci-git-clone" else none
  | .task _ work, name =>
      if work.archives then none else work.task.jobs[work.index]?.bind (·.get? name)
  | _, _ => none

/-- Whether a node runs a task of the engine, which brings its own steps. -/
def refers : Role → Bool
  | .task _ work => !work.archives && work.task.taskRef?.isSome
  | _ => false

def runs (place index : Nat) : Role → Bool
  | .task other work => other = place && work.index = index && !work.archives
  | _ => false

end Role

end Plan

/-- What the nodes of a pipeline are there for: each variant of each task that is not barred, stage
by stage, to be run and to be archived. -/
def Pipeline.roles (pipeline : Pipeline) (context : Option Context) : List Plan.Role :=
  .checkout :: (if pipeline.beforeScript = [] then [] else [.before]) ++
    (pipeline.stages.flatMap fun stage =>
      (pipeline.tasks.zipIdx.filter fun indexed =>
        indexed.1.stage = stage && !context.any fun event => indexed.1.barred event).flatMap
          fun indexed => indexed.1.work.map (.task indexed.2 ·)) ++
    if pipeline.afterScript = [] then [] else [.after]

namespace Plan.Frame

theorem outline_roles (frame : Frame) :
    frame.outline.map Post.role = frame.pipeline.roles frame.context := by
  have shared (stage : String) :
      (frame.shares stage).map (fun share => Role.task share.1 share.2) =
        (frame.pipeline.tasks.zipIdx.filter fun indexed =>
          indexed.1.stage = stage && !frame.bars indexed.1).flatMap
            fun indexed => indexed.1.work.map (.task indexed.2 ·) := by
    rw [shares, List.map_flatMap]
    simp only [List.map_map, Function.comp_def]
  unfold outline Pipeline.roles
  rw [List.map_append, List.map_append, List.map_cons, map_scripted, map_scripted, posts_roles]
  simp only [shared]
  rfl

/-! ### The environment of a node -/

/-- Whether all steps of a node have an environment. -/
def Equips (env : List Variable) (node : Node) : Prop :=
  ∀ spec, node.taskSpec = some spec → ∀ step ∈ spec.steps, step.env = env

theorem scriptNode_equips (name : String) (runAfter : List String) (env : List Variable)
    (image : String) (lines : List String) :
    Equips env (scriptNode name runAfter env image lines) := by
  intro spec found step member
  cases found
  obtain ⟨line, _, rfl⟩ := List.mem_map.mp member
  rfl

theorem scriptNode_withEnv (name : String) (runAfter : List String) (env other : List Variable)
    (image : String) (lines : List String) :
    (scriptNode name runAfter env image lines).withEnv other =
      scriptNode name runAfter other image lines := by
  simp only [scriptNode, stepsNode, Run.Node.withEnv, Option.map_some, List.map_map]
  rfl

/-- The environment of the node of a role. -/
def envOf (frame : Frame) : Role → List Variable
  | .checkout => frame.env ++ [⟨"TEKTON_RESOURCE_NAME", "tekton-ci-git-clone"⟩]
  | .task _ work => if work.archives then frame.env else work.task.envAt frame.env work.index
  | _ => frame.env

theorem effective?_envOf (frame : Frame) (role : Role) (name : String) :
    Run.effective? (frame.envOf role) name =
      (role.own? name).or (common? frame.pipeline.vars name) := by
  have base := effective?_baseEnv frame.pipeline.vars name
  cases role with
  | checkout =>
      rw [envOf, effective?_append, effective?_singleton]
      exact congrArg _ base
  | before | after => exact base
  | task place work =>
      cases archived : work.archives with
      | true =>
          simp only [envOf, Role.own?, archived, if_true]
          exact base
      | false =>
          simp only [envOf, Role.own?, archived, Bool.false_eq_true, if_false, Task.envAt]
          rw [effective?_append]
          refine congrArg₂ Option.or ?_ base
          cases work.task.jobs[work.index]? with
          | none => rfl
          | some job => exact effective?_dictionary job name

theorem nodeAt_equips (frame : Frame) (source : Source) (post : Post) :
    (frame.nodeAt source post).name = post.role.nodeName ∧
      (frame.nodeAt source post).taskSpec.isSome = !post.role.refers ∧
      Equips (frame.envOf post.role) (frame.nodeAt source post) := by
  obtain ⟨role, frontier⟩ := post
  cases role with
  | checkout =>
      refine ⟨rfl, rfl, ?_⟩
      intro spec found step member
      cases found
      rw [List.mem_singleton.mp member]
      rfl
  | before | after => exact ⟨rfl, rfl, scriptNode_equips _ _ _ _ _⟩
  | task place work =>
      cases archived : work.archives with
      | true =>
          have node : frame.nodeAt source ⟨.task place work, frontier⟩ = _ :=
            workNode_archives archived
          rw [node]
          refine ⟨?_, ?_, ?_⟩
          · simp only [Role.nodeName, Work.name, archived, if_true]
            rfl
          · simp only [Role.refers, archived]
            rfl
          · intro spec found step member
            cases found
            simp only [envOf, archived, if_true]
            rw [List.mem_singleton.mp member]
      | false =>
          have named : work.nodeName = (Role.task place work).nodeName := by
            simp only [Role.nodeName, Work.name, archived, Bool.false_eq_true, if_false]
          have env : work.task.envAt frame.env work.index = frame.envOf (.task place work) := by
            simp only [envOf, archived, Bool.false_eq_true, if_false]
          cases refers : work.task.taskRef? with
          | none =>
              have node : frame.nodeAt source ⟨.task place work, frontier⟩ = _ :=
                workNode_script archived refers
              rw [node, named, env]
              refine ⟨rfl, ?_, scriptNode_equips _ _ _ _ _⟩
              simp only [Role.refers, refers, Option.isSome_none, Bool.and_false, Bool.not_false]
              rfl
          | some taskRef =>
              have node : frame.nodeAt source ⟨.task place work, frontier⟩ = _ :=
                workNode_refers archived refers
              rw [node, named]
              refine ⟨rfl, ?_, fun spec found => by cases found⟩
              simp only [Role.refers, archived, refers, Option.isSome_some, Bool.not_false,
                Bool.and_true, Bool.not_true]
              rfl

end Plan.Frame

/-! ### Another job for a variant -/

def Task.withJob (index : Nat) (job : Dictionary String) (task : Task) : Task :=
  { task with options := task.options.map fun options =>
      { options with jobs := options.jobs.set index job } }

namespace Task

variable (index : Nat) (job : Dictionary String) (task : Task)

theorem taskRef?_withJob : (task.withJob index job).taskRef? = task.taskRef? := by
  unfold withJob taskRef?
  cases task.options <;> rfl

theorem image?_withJob : (task.withJob index job).image? = task.image? := by
  unfold withJob image?
  cases task.options <;> rfl

theorem parameters_withJob : (task.withJob index job).parameters = task.parameters := by
  unfold withJob parameters
  cases task.options <;> rfl

theorem jobs_withJob : (task.withJob index job).jobs = task.jobs.set index job := by
  unfold withJob jobs
  cases task.options <;> rfl

theorem work_withJob : (task.withJob index job).work =
    task.work.map fun work => { work with task := work.task.withJob index job } := by
  have each (variant : Nat) : (task.withJob index job).workAt variant =
      (task.workAt variant).map fun work => { work with task := work.task.withJob index job } := by
    unfold workAt
    rw [List.map_cons, apply_ite (List.map _)]
    rfl
  unfold work
  rw [jobs_withJob, List.length_set, List.map_flatMap]
  exact List.flatMap_congr fun variant _ => each variant

theorem envAt_withJob (base : List Variable) (variant : Nat) (within : index < task.jobs.length) :
    (task.withJob index job).envAt base variant =
      if variant = index then Plan.jobEnv base job else task.envAt base variant := by
  unfold envAt
  rw [jobs_withJob]
  split
  · rename_i same
    rw [same, List.getElem?_set_self within]
    rfl
  · rename_i other
    rw [List.getElem?_set_ne (Ne.symm other)]

end Task

/-- A pipeline with other variables for a variant of the task at a place. -/
def Pipeline.withJob (place index : Nat) (job : Dictionary String) (pipeline : Pipeline) :
    Pipeline :=
  { pipeline with tasks := pipeline.tasks.modify place (Task.withJob index job) }

theorem zipIdx_modify {α : Type} (place : Nat) (change : α → α) (items : List α) :
    (items.modify place change).zipIdx =
      items.zipIdx.map fun item => (if item.2 = place then change item.1 else item.1, item.2) := by
  refine List.ext_getElem? fun position => ?_
  rw [List.getElem?_map, List.getElem?_zipIdx, List.getElem?_zipIdx, List.getElem?_modify]
  cases items[position]? with
  | none => rfl
  | some item => simp [eq_comm]

namespace Plan

theorem Work.nodeName_withJob (index : Nat) (job : Dictionary String) (work : Work) :
    nodeName { work with task := work.task.withJob index job } = work.nodeName := by
  unfold nodeName
  rw [Task.jobs_withJob, List.length_set]
  rfl

def shareWithJob (place index : Nat) (job : Dictionary String) (share : Nat × Work) : Nat × Work :=
  (share.1,
    if share.1 = place then { share.2 with task := share.2.task.withJob index job } else share.2)

namespace Frame

variable {pipeline : Pipeline} {settings : Settings} {context : Option Context} {source : Source}
  (place index : Nat) (job : Dictionary String)

theorem taskFault?_withJob (frame : Frame) (task : Task) :
    frame.taskFault? (task.withJob index job) = frame.taskFault? task := by
  unfold taskFault? paramFault?
  rw [Task.taskRef?_withJob, Task.parameters_withJob]
  rfl

theorem tasksOf_withJob (stage : String) :
    (pipeline.withJob place index job).tasksOf stage =
      (pipeline.tasks.zipIdx.filter fun indexed => indexed.1.stage = stage).map fun indexed =>
        if indexed.2 = place then indexed.1.withJob index job else indexed.1 := by
  unfold Pipeline.tasksOf Pipeline.withJob
  conv_lhs => rw [← List.zipIdx_map_fst 0 (List.modify _ _ _), zipIdx_modify, List.map_map,
    List.filter_map]
  refine congrArg (List.map _) (List.filter_congr fun indexed _ => ?_)
  simp only [Function.comp_apply]
  split <;> rfl

theorem staged_fault_withJob :
    (pipeline.withJob place index job).staged.findSome?
        (taskFault? ⟨pipeline.withJob place index job, settings, context⟩) =
      pipeline.staged.findSome? (taskFault? ⟨pipeline, settings, context⟩) := by
  unfold Pipeline.staged
  rw [Result.findSome?_flatMap, Result.findSome?_flatMap]
  refine congrArg (List.findSome? · _) (funext fun stage => ?_)
  rw [tasksOf_withJob, Pipeline.tasksOf]
  conv_rhs => rw [← List.zipIdx_map_fst 0 pipeline.tasks, List.filter_map, List.findSome?_map]
  rw [List.findSome?_map]
  refine congrArg (List.findSome? · _) (funext fun indexed => ?_)
  dsimp only [Function.comp_apply]
  split
  · exact taskFault?_withJob index job ⟨pipeline, settings, context⟩ indexed.1
  · rfl

theorem shares_withJob (stage : String) :
    shares ⟨pipeline.withJob place index job, settings, context⟩ stage =
      (shares ⟨pipeline, settings, context⟩ stage).map (shareWithJob place index job) := by
  unfold shares Pipeline.withJob
  rw [zipIdx_modify, List.filter_map, List.flatMap_map, List.map_flatMap]
  refine (congrArg _ (List.filter_congr fun indexed _ => ?_)).trans
    (List.flatMap_congr fun indexed _ => ?_)
  · dsimp only [Function.comp_apply]
    split <;> rfl
  · dsimp only
    rw [List.map_map]
    split
    · rename_i atPlace
      rw [Task.work_withJob, List.map_map]
      exact List.map_congr_left fun work _ => Prod.ext rfl (if_pos atPlace).symm
    · rename_i elsewhere
      exact List.map_congr_left fun work _ => Prod.ext rfl (if_neg elsewhere).symm

theorem exits_withJob (shares : List (Nat × Work)) :
    Work.exits ((shares.map (shareWithJob place index job)).map Prod.snd) =
      Work.exits (shares.map Prod.snd) := by
  have ends (share : Nat × Work) :
      (shareWithJob place index job share).2.ends = share.2.ends := by
    unfold shareWithJob
    dsimp only
    split <;> rfl
  have name (share : Nat × Work) :
      (shareWithJob place index job share).2.name = share.2.name := by
    unfold shareWithJob
    dsimp only
    split
    · simp only [Work.name, Work.nodeName_withJob]
    · rfl
  unfold Work.exits
  rw [List.map_map, List.filter_map, List.filter_map, List.map_map, List.map_map]
  simp only [Function.comp_def, ends, name]

theorem outline_withJob :
    outline ⟨pipeline.withJob place index job, settings, context⟩ =
      (outline ⟨pipeline, settings, context⟩).map
        (Post.change (shareWithJob place index job) id) := by
  have renamed (stage : String) :
      Work.exits ((shares ⟨pipeline.withJob place index job, settings, context⟩ stage).map
          Prod.snd) =
        (Work.exits ((shares ⟨pipeline, settings, context⟩ stage).map Prod.snd)).map id := by
    rw [shares_withJob, exits_withJob, List.map_id]
  have staged := posts_change (shares_withJob place index job) renamed
    (entry ⟨pipeline, settings, context⟩) pipeline.stages
  have ended := ending_change (shares_withJob place index job) renamed
    (entry ⟨pipeline, settings, context⟩) pipeline.stages
  rw [List.map_id] at staged
  rw [List.map_id, List.map_id] at ended
  unfold outline
  rw [List.map_append, List.map_append, List.map_cons, map_scripted, map_scripted, ← staged,
    ← ended]
  simp only [Post.change, List.map_id]
  rfl

theorem task_of_mem_roles {other : Nat} {work : Work}
    (member : .task other work ∈ pipeline.roles context) :
    pipeline.tasks[other]? = some work.task := by
  rcases List.mem_append.mp member with front | inAfter
  · rcases List.mem_append.mp front with first | staged
    · rcases List.mem_cons.mp first with same | inBefore
      · cases same
      · split at inBefore
        · cases inBefore
        · cases List.mem_singleton.mp inBefore
    · obtain ⟨stage, _, shared⟩ := List.mem_flatMap.mp staged
      obtain ⟨⟨task, place⟩, kept, asked⟩ := List.mem_flatMap.mp shared
      obtain ⟨work, present, same⟩ := List.mem_map.mp asked
      cases same
      rw [task_of_mem_work present]
      exact List.mem_zipIdx_iff_getElem?.mp (List.mem_filter.mp kept).1
  · split at inAfter
    · cases inAfter
    · cases List.mem_singleton.mp inAfter

theorem workNode_withJob (frame : Frame) (frontier : List String) (work : Work)
    (within : index < work.task.jobs.length) :
    frame.workNode frontier { work with task := work.task.withJob index job } =
      if work.index = index && !work.archives then
        (frame.workNode frontier work).withEnv (jobEnv frame.env job)
      else frame.workNode frontier work := by
  have named := Work.nodeName_withJob index job work
  obtain ⟨task, variant, archives⟩ := work
  dsimp only at *
  have refersToo := task.taskRef?_withJob index job
  cases archives with
  | true =>
      rw [workNode_archives rfl, workNode_archives rfl, named, Bool.not_true, Bool.and_false]
      rfl
  | false =>
      cases refers : task.taskRef? with
      | some taskRef =>
          rw [workNode_refers rfl (refersToo.trans refers), workNode_refers rfl refers, named,
            Task.parameters_withJob]
          split <;> rfl
      | none =>
          rw [workNode_script rfl (refersToo.trans refers), workNode_script rfl refers, named,
            Task.image?_withJob, Task.envAt_withJob _ _ _ _ _ within, Bool.not_false, Bool.and_true]
          simp only [decide_eq_true_eq]
          split
          · exact (scriptNode_withEnv _ _ _ _ _ _).symm
          · rfl

/-- With other variables for a variant of a task, the nodes are those without, but for the
environment of the node of the variant. -/
theorem nodes_withJob {task : Task} (listed : pipeline.tasks[place]? = some task)
    (within : index < task.jobs.length) :
    (outline ⟨pipeline.withJob place index job, settings, context⟩).map
        (nodeAt ⟨pipeline.withJob place index job, settings, context⟩ source) =
      List.zipWith
        (fun role node =>
          if role.runs place index then node.withEnv (jobEnv (baseEnv pipeline.vars) job)
          else node)
        (pipeline.roles context)
        ((outline ⟨pipeline, settings, context⟩).map
          (nodeAt ⟨pipeline, settings, context⟩ source)) := by
  have roles : pipeline.roles context = _ := (outline_roles ⟨pipeline, settings, context⟩).symm
  rw [roles, List.zipWith_map, List.zipWith_self, outline_withJob, List.map_map]
  refine List.map_congr_left fun post member => ?_
  obtain ⟨role, frontier⟩ := post
  have inRoles : role ∈ pipeline.roles context := by
    rw [roles]
    exact List.mem_map_of_mem member
  simp only [Function.comp_apply, Post.change, List.map_id]
  cases role with
  | checkout | before | after => rfl
  | task other work =>
      -- The work of other tasks is the same, and so is that of other tasks that are alike.
      by_cases atPlace : other = place
      · subst atPlace
        obtain rfl : task = work.task :=
          Option.some.inj (listed.symm.trans (task_of_mem_roles inRoles))
        simp only [Role.change, shareWithJob, Role.runs, if_true, decide_true, Bool.true_and]
        exact workNode_withJob index job ⟨pipeline, settings, context⟩ frontier work within
      · simp only [Role.change, shareWithJob, Role.runs, if_neg atPlace, decide_eq_false atPlace,
          Bool.false_and, Bool.false_eq_true, if_false]
        rfl

end Frame

end Plan

namespace Pipeline

variable {pipeline : Pipeline} {settings : Settings} {source : Source} {claim hookId : String}
  {context : Option Context}

theorem plan_equips {run : Run}
    (planned : pipeline.plan settings source claim context hookId = .ok run) :
    List.Forall₂
      (fun role node => node.name = role.nodeName ∧ node.taskSpec.isSome = !role.refers ∧
        ∀ spec, node.taskSpec = some spec → ∀ step ∈ spec.steps, ∀ name,
          Run.effective? step.env name =
            (role.own? name).or (Plan.common? pipeline.vars name))
      (pipeline.roles context) run.spec.graph.nodes := by
  obtain ⟨nodes, given, same⟩ := plan_ok planned
  have roles : pipeline.roles context = _ :=
    (Plan.Frame.outline_roles ⟨pipeline, settings, context⟩).symm
  rw [same, Plan.Frame.nodes_outlined given, roles, List.forall₂_map_left_iff,
    List.forall₂_map_right_iff, List.forall₂_same]
  intro post _
  obtain ⟨named, brings, equips⟩ :=
    Plan.Frame.nodeAt_equips ⟨pipeline, settings, context⟩ source post
  refine ⟨named, brings, ?_⟩
  intro spec found step member name
  rw [equips spec found step member]
  exact Plan.Frame.effective?_envOf ⟨pipeline, settings, context⟩ post.role name

/-- The environment of each node is that of all nodes with its own variables, where its own ones
count: those of a job belong to the node of its variant alone. With other variables for a variant,
nothing in the run is another but the environment of this node. -/
theorem plan_environments (pipeline : Pipeline) (settings : Settings) (source : Source)
    (claim : String) (context : Option Context) (hookId : String) :
    (∀ run, pipeline.plan settings source claim context hookId = .ok run →
      List.Forall₂
        (fun role node => node.name = role.nodeName ∧ node.taskSpec.isSome = !role.refers ∧
          ∀ spec, node.taskSpec = some spec → ∀ step ∈ spec.steps, ∀ name,
            Run.effective? step.env name =
              (role.own? name).or (Plan.common? pipeline.vars name))
        (pipeline.roles context) run.spec.graph.nodes) ∧
    ∀ place task index job, pipeline.tasks[place]? = some task → index < task.jobs.length →
      (pipeline.withJob place index job).plan settings source claim context hookId =
        (pipeline.plan settings source claim context hookId).map
          (Run.mapNodes (List.zipWith
            (fun role node =>
              if role.runs place index then
                node.withEnv (Plan.jobEnv (Plan.baseEnv pipeline.vars) job)
              else node)
            (pipeline.roles context))) :=
  ⟨fun _ planned => plan_equips planned, fun place _ index job listed within =>
    plan_mapNodes (Plan.Frame.staged_fault_withJob place index job) rfl
      (Plan.Frame.nodes_withJob place index job listed within)⟩

theorem samplePlan_environments :
    ∃ run, samplePlan = .ok run ∧
      List.Forall₂
        (fun value node => ∀ spec, node.taskSpec = some spec → ∀ step ∈ spec.steps,
          Run.effective? step.env "GO" = value)
        [none, none, some "1.13", none, some "1.14", none, none, none] run.spec.graph.nodes ∧
      (sample.withJob 0 1 (.ofList [("GO", "1.15")])).planLikeSample =
        .ok (run.mapNodes (List.zipWith
          (fun other node => if other then node.withEnv
            (Plan.jobEnv (Plan.baseEnv sample.vars) (.ofList [("GO", "1.15")])) else node)
          [false, false, false, false, true, false, false, false])) := by
  have planned : samplePlan = .ok _ := rfl
  obtain ⟨equips, varies⟩ := plan_environments sample _ _ _ (some (.ofDocument .null)) _
  refine ⟨_, planned, ?_, ?_⟩
  · have values : [none, none, some "1.13", none, some "1.14", none, none, none] =
        (sample.roles (some (.ofDocument .null))).map fun role =>
          (role.own? "GO").or (Plan.common? sample.vars "GO") := by
      decide +kernel
    rw [values, List.forall₂_map_left_iff]
    exact (equips _ planned).imp fun role node known spec found step member =>
      known.2.2 spec found step member "GO"
  · have varied : [false, false, false, false, true, false, false, false] =
        (sample.roles (some (.ofDocument .null))).map (Plan.Role.runs 0 1) := by
      decide +kernel
    rw [varied]
    refine (varies 0 _ 1 (.ofList [("GO", "1.15")]) rfl (by decide)).trans
      ((congrArg (Except.map _) planned).trans ?_)
    refine congrArg (fun change => Except.ok (Run.mapNodes change _)) (funext fun nodes => ?_)
    rw [List.zipWith_map_left]

end Pipeline

end StagedRuns
