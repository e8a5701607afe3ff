import StagedRuns.Proofs.Plan.Outline

/-!
What the scripts before and after all stages change. The first one comes between the checkout and
what would else run right after it; the second one comes after the nodes that nothing waits for.
-/

namespace StagedRuns

open StagedRuns.Webhook (Context)

/-- A node that runs after another one instead. -/
def Run.Node.redirected (old new : String) (node : Run.Node) : Run.Node :=
  { node with runAfter := node.runAfter.map fun name => if name = old then new else name }

/-- The nodes that nothing waits for. -/
def Run.sinks (nodes : List Run.Node) : List Run.Node :=
  nodes.filter fun node => node.name ∉ nodes.flatMap Run.Node.runAfter

namespace Pipeline

def withBefore (pipeline : Pipeline) (lines : List String) : Pipeline :=
  { pipeline with beforeScript := lines }

def withAfter (pipeline : Pipeline) (lines : List String) : Pipeline :=
  { pipeline with afterScript := lines }

/-- The variables of all nodes of a pipeline. -/
def sharedEnv (pipeline : Pipeline) : List Run.Variable :=
  pipeline.vars.toList.map (fun binding => ⟨binding.1, binding.2⟩) ++
    [⟨"CI_PROJECT_DIR", "$(workspaces.source.path)"⟩]

/-- A node with one step for each line. -/
def linesNode (pipeline : Pipeline) (name : String) (runAfter lines : List String) : Run.Node :=
  { name, runAfter, workspaces := [⟨"source", "git-checkout"⟩], taskRef := none, params := []
    taskSpec := some
      { workspaces := ["source"]
        steps := lines.map (Plan.lineStep pipeline.sharedEnv pipeline.image) } }

theorem scriptNode_eq_linesNode (pipeline : Pipeline) (name : String)
    (runAfter lines : List String) :
    Plan.scriptNode name runAfter (Plan.baseEnv pipeline.vars) pipeline.image lines =
      pipeline.linesNode name runAfter lines := rfl

end Pipeline

namespace Plan

/-! ### Before all stages -/

def redirect (name : String) : String :=
  if name = checkoutName then beforeName else name

theorem Work.stage_infix_nodeName (work : Work) :
    "-stage-".toList <:+: work.nodeName.toList := by
  unfold nodeName
  simp only [String.toList_append]
  exact (List.infix_append _ _ _).trans (List.infix_append' [] _ _)

theorem redirect_of_infix {name : String} (staged : "-stage-".toList <:+: name.toList) :
    redirect name = name := by
  refine if_neg ?_
  rintro rfl
  exact @Frame.not_stage_infix_own .checkout _ rfl staged

theorem redirect_nodeName (work : Work) : redirect work.nodeName = work.nodeName :=
  redirect_of_infix work.stage_infix_nodeName

theorem redirect_name (work : Work) : redirect work.name = work.name := by
  refine redirect_of_infix ?_
  unfold Work.name
  split
  · rw [String.toList_append]
    exact work.stage_infix_nodeName.trans (List.infix_append' [] _ _)
  · exact work.stage_infix_nodeName

theorem exits_redirect (works : List Work) : Work.exits works = (Work.exits works).map redirect := by
  unfold Work.exits
  rw [List.map_map]
  exact List.map_congr_left fun work _ => (redirect_name work).symm

namespace Frame

variable {pipeline : Pipeline} {settings : Settings} {context : Option Context}
  {source : Source} {lines : List String}

theorem workNode_redirected (frame : Frame) (frontier : List String) (work : Work) :
    frame.workNode (frontier.map redirect) work =
      (frame.workNode frontier work).redirected checkoutName beforeName := by
  unfold workNode
  split
  · change _ = { archiverNode frame.settings frame.env work.nodeName work.task.artifacts with
      runAfter := [redirect work.nodeName] }
    rw [redirect_nodeName]
    rfl
  · split <;> rfl

theorem outline_unscripted {frame : Frame} (unscripted : frame.pipeline.beforeScript = [])
    (unfinished : frame.pipeline.afterScript = []) :
    frame.outline =
      ⟨.checkout, []⟩ :: posts frame.shares [checkoutName] frame.pipeline.stages := by
  unfold outline entry
  rw [unscripted, unfinished, if_pos rfl, if_pos rfl, List.append_nil]
  rfl

theorem outline_scripted {frame : Frame} (scripted : frame.pipeline.beforeScript ≠ [])
    (unfinished : frame.pipeline.afterScript = []) :
    frame.outline =
      ⟨.checkout, []⟩ :: ⟨.before, [checkoutName]⟩ ::
        (posts frame.shares [checkoutName] frame.pipeline.stages).map
          (Post.change id redirect) := by
  have entered : frame.entry = [checkoutName].map redirect :=
    if_neg (mt List.isEmpty_iff.mp scripted)
  have redirected := @posts_change frame.shares frame.shares id redirect
    (fun _ => (List.map_id _).symm) (fun _ => exits_redirect _)
  unfold outline
  rw [entered, redirected, unfinished, if_pos rfl, if_neg scripted, List.append_nil]
  rfl

/-- A script before all stages gets the second node of the outline, and the first one is replaced
by it in what the others run after. -/
theorem nodes_withBefore (unscripted : pipeline.beforeScript = [])
    (unfinished : pipeline.afterScript = []) (scripted : lines ≠ []) :
    (outline ⟨pipeline.withBefore lines, settings, context⟩).map
        (nodeAt ⟨pipeline.withBefore lines, settings, context⟩ source) =
      (((outline ⟨pipeline, settings, context⟩).map
          (nodeAt ⟨pipeline, settings, context⟩ source)).map
        (Run.Node.redirected checkoutName beforeName)).insertIdx 1
          (pipeline.linesNode beforeName [checkoutName] lines) := by
  have staged (post : Post)
      (member : post ∈ posts (shares ⟨pipeline, settings, context⟩) [checkoutName]
        pipeline.stages) :
      nodeAt ⟨pipeline.withBefore lines, settings, context⟩ source (post.change id redirect) =
        (nodeAt ⟨pipeline, settings, context⟩ source post).redirected checkoutName beforeName := by
    obtain ⟨_, _, share, _, role⟩ := role_of_mem_posts member
    unfold nodeAt Post.change
    rw [role]
    exact workNode_redirected ⟨pipeline, settings, context⟩ post.frontier share.2
  have rest := List.map_congr_left staged
  rw [← Pipeline.scriptNode_eq_linesNode,
    @outline_unscripted ⟨pipeline, settings, context⟩ unscripted unfinished,
    @outline_scripted ⟨pipeline.withBefore lines, settings, context⟩ scripted unfinished]
  simp only [List.map_cons, List.map_map, List.insertIdx_succ_cons, List.insertIdx_zero]
  exact congrArg (fun nodes => _ :: _ :: nodes) rest

/-! ### After all stages -/

def mentioned (nodes : List Planned) : List String :=
  nodes.flatMap (·.node.runAfter)

/-- Of the nodes of a variant, the last one is left if the others are waited for. -/
theorem filter_variant_names {variant : Variant}
    (distinct : (variant.nodes.map (·.node.name)).Nodup) :
    (variant.nodes.map (·.node.name)).filter
        (fun name => ¬ (variant.archiver.isSome ∧ name = variant.task.node.name)) =
      [variant.exit] := by
  unfold Variant.nodes Variant.exit at *
  cases archives : variant.archiver with
  | none => simp
  | some archiver =>
      rw [archives] at distinct
      have apart : archiver.node.name ≠ variant.task.node.name := by
        intro same
        simp [same] at distinct
      simp [apart]

section Layer

variable {layer : Layer} {frontier : List String} (after : layer.After frontier)
  (distinct : (frontier ++ layer.nodes.map (·.node.name)).Nodup)

include after

theorem frontier_subset_mentioned : frontier ⊆ mentioned layer.nodes := by
  obtain ⟨variant, rest, variants⟩ := List.exists_cons_of_ne_nil after.occupied
  have present : variant ∈ layer.variants := by rw [variants]; exact List.mem_cons_self
  intro name member
  rw [← after.tasks variant present] at member
  exact List.mem_flatMap.mpr ⟨variant.task,
    List.mem_flatMap.mpr ⟨variant, present, List.mem_cons_self⟩, member⟩

theorem mem_mentioned {name : String} (member : name ∈ mentioned layer.nodes) :
    name ∈ frontier ∨
      ∃ variant ∈ layer.variants, variant.archiver.isSome ∧ name = variant.task.node.name := by
  obtain ⟨planned, inLayer, waits⟩ := List.mem_flatMap.mp member
  obtain ⟨variant, present, isNode⟩ := List.mem_flatMap.mp inLayer
  rcases mem_variant_nodes.mp isNode with rfl | archives
  · rw [after.tasks variant present] at waits
    exact Or.inl waits
  · rw [(after.archivers variant present planned archives).2, List.mem_singleton] at waits
    exact Or.inr ⟨variant, present, Option.isSome_of_eq_some archives, waits⟩

include distinct

/-- In a layer, something waits for the node of a variant exactly if the variant has something to
archive, and nothing waits for what archives it. -/
theorem mem_mentioned_iff {variant : Variant} (present : variant ∈ layer.variants) {name : String}
    (named : name ∈ variant.nodes.map (·.node.name)) :
    name ∈ mentioned layer.nodes ↔ variant.archiver.isSome ∧ name = variant.task.node.name := by
  obtain ⟨_, namesDistinct, apart⟩ := List.nodup_append'.mp distinct
  rw [Layer.nodes, List.map_flatMap, List.nodup_flatMap] at namesDistinct
  have inLayer : name ∈ layer.nodes.map (·.node.name) := by
    rw [Layer.nodes, List.map_flatMap]
    exact List.mem_flatMap.mpr ⟨variant, present, named⟩
  constructor
  · intro member
    rcases mem_mentioned after member with inFrontier | ⟨other, otherPresent, archived, same⟩
    · exact absurd inLayer (apart inFrontier)
    · by_cases equal : variant = other
      · subst equal
        exact ⟨archived, same⟩
      · -- Two variants of a layer share no name.
        have symmetric : Std.Symm (Function.onFun List.Disjoint fun variant : Variant =>
            variant.nodes.map (·.node.name)) := ⟨fun _ _ disjoint => disjoint.symm⟩
        have disjoint := namesDistinct.2.forall present otherPresent equal
        rw [same] at named
        exact absurd List.mem_cons_self (disjoint named)
  · rintro ⟨archived, rfl⟩
    obtain ⟨archiver, archives⟩ := Option.isSome_iff_exists.mp archived
    have waits := (after.archivers variant present archiver archives).2
    refine List.mem_flatMap.mpr ⟨archiver, ?_, ?_⟩
    · exact List.mem_flatMap.mpr ⟨variant, present, mem_variant_nodes.mpr (Or.inr archives)⟩
    · rw [waits]
      exact List.mem_cons_self

/-- What nothing waits for in a layer is what it ends with. -/
theorem filter_mentioned :
    (frontier ++ layer.nodes.map (·.node.name)).filter (· ∉ mentioned layer.nodes) =
      layer.exits := by
  have past : frontier.filter (· ∉ mentioned layer.nodes) = [] := by
    rw [List.filter_eq_nil_iff]
    intro name member
    simpa using frontier_subset_mentioned after member
  rw [List.filter_append, past, List.nil_append, Layer.nodes, List.map_flatMap,
    List.filter_flatMap, Layer.exits, ← List.flatMap_pure_eq_map]
  refine List.flatMap_congr fun variant present => ?_
  have namesDistinct : (variant.nodes.map (·.node.name)).Nodup := by
    have inLayer := (List.nodup_append'.mp distinct).2.1
    rw [Layer.nodes, List.map_flatMap, List.nodup_flatMap] at inLayer
    exact inLayer.1 variant present
  refine Eq.trans (List.filter_congr fun name named => ?_) (filter_variant_names namesDistinct)
  exact decide_eq_decide.mpr (not_congr (mem_mentioned_iff after distinct present named))

end Layer

/-- What nothing waits for in a sequence of layers is what the last one ends with. -/
theorem Layered.filter_mentioned {frontier last : List String} {layers : List Layer}
    (layered : Layered frontier layers last)
    (distinct : (frontier ++ (layers.flatMap Layer.nodes).map (·.node.name)).Nodup) :
    (frontier ++ (layers.flatMap Layer.nodes).map (·.node.name)).filter
        (· ∉ mentioned (layers.flatMap Layer.nodes)) = last := by
  induction layered with
  | nil frontier => simp [mentioned]
  | @cons frontier last layer rest after _ continued ih =>
      rw [List.flatMap_cons, List.map_append, ← List.append_assoc] at distinct ⊢
      obtain ⟨before, _, apart⟩ := List.nodup_append'.mp distinct
      have ended := Frame.filter_mentioned after before
      have exitsDistinct :
          (layer.exits ++ (rest.flatMap Layer.nodes).map (·.node.name)).Nodup := by
        refine distinct.sublist (List.Sublist.append_right ?_ _)
        rw [← ended]
        exact List.filter_sublist
      -- Nothing in the layer waits for a later node.
      have later : ((rest.flatMap Layer.nodes).map (·.node.name)).filter
          (· ∉ mentioned layer.nodes) = (rest.flatMap Layer.nodes).map (·.node.name) := by
        rw [List.filter_eq_self]
        intro name inRest
        rw [decide_eq_true_eq]
        intro member
        refine apart (List.mem_append.mpr ?_) inRest
        rcases mem_mentioned after member with inFrontier | ⟨variant, present, _, rfl⟩
        · exact Or.inl inFrontier
        · exact Or.inr (List.mem_map.mpr ⟨variant.task,
            List.mem_flatMap.mpr ⟨variant, present, List.mem_cons_self⟩, rfl⟩)
      rw [← ih exitsDistinct, ← ended]
      conv_rhs => rw [← later, ← List.filter_append, List.filter_filter]
      refine List.filter_congr fun name _ => ?_
      rw [← Bool.decide_and, decide_eq_decide, mentioned, List.flatMap_append, List.mem_append,
        not_or, and_comm]
      rfl

theorem Layered.last_ne_nil {frontier last : List String} {layers : List Layer}
    (layered : Layered frontier layers last) (waits : frontier ≠ [] ∨ layers ≠ []) : last ≠ [] := by
  induction layered with
  | nil frontier => exact waits.resolve_right (fun occupied => occupied rfl)
  | cons after _ _ ih =>
      refine ih (Or.inl ?_)
      rw [Ne, Layer.exits, List.map_eq_nil_iff]
      exact after.occupied

/-- What comes after the stages of a plan without a script after them runs after the sinks of the
plan, of which there is at least one. -/
theorem nodes_sinks {frame : Frame} {source : Source} {nodes : List Planned}
    (planned : frame.nodes source = .ok nodes) (unfinished : frame.pipeline.afterScript = []) :
    let last := ending frame.shares frame.entry frame.pipeline.stages
    last ≠ [] ∧ (((nodes.map Planned.node).map Run.Node.name).Nodup →
      last = (Run.sinks (nodes.map Planned.node)).map Run.Node.name) := by
  obtain ⟨staged, last, stages, rfl⟩ := nodes_ok.mp planned
  obtain ⟨-, rfl⟩ := stages_outlined source stages
  obtain ⟨layers, layered, same, -⟩ := staged_layered source stages
  have noScript : frame.scripted .after afterName
      (ending frame.shares frame.entry frame.pipeline.stages) frame.pipeline.afterScript = [] := by
    rw [unfinished]
    rfl
  rw [noScript, List.append_nil, same]
  refine ⟨layered.last_ne_nil (Or.inr (List.cons_ne_nil _ _)), ?_⟩
  intro distinct
  rw [List.map_map] at distinct
  rw [← layered.filter_mentioned distinct, List.nil_append, Run.sinks, List.filter_map,
    List.filter_map, List.map_map, List.flatMap_map]
  rfl

theorem role_ne_after {frame : Frame} (unfinished : frame.pipeline.afterScript = []) {post : Post}
    (member : post ∈ frame.outline) : post.role ≠ .after := by
  unfold outline at member
  rw [unfinished, if_pos rfl, List.append_nil] at member
  rcases List.mem_append.mp member with front | inStages
  · rcases List.mem_cons.mp front with rfl | inBefore
    · exact Role.noConfusion
    · split at inBefore
      · cases inBefore
      · rw [List.mem_singleton.mp inBefore]
        exact Role.noConfusion
  · obtain ⟨_, _, share, _, role⟩ := role_of_mem_posts inStages
    rw [role]
    exact Role.noConfusion

theorem nodes_withAfter (unfinished : pipeline.afterScript = []) (finished : lines ≠ []) :
    (outline ⟨pipeline.withAfter lines, settings, context⟩).map
        (nodeAt ⟨pipeline.withAfter lines, settings, context⟩ source) =
      (outline ⟨pipeline, settings, context⟩).map
          (nodeAt ⟨pipeline, settings, context⟩ source) ++
        [pipeline.linesNode afterName
          (ending (shares ⟨pipeline, settings, context⟩) (entry ⟨pipeline, settings, context⟩)
            pipeline.stages) lines] := by
  have extended : outline ⟨pipeline.withAfter lines, settings, context⟩ =
      outline ⟨pipeline, settings, context⟩ ++
        [⟨.after, ending (shares ⟨pipeline, settings, context⟩)
          (entry ⟨pipeline, settings, context⟩) pipeline.stages⟩] := by
    unfold outline
    rw [unfinished, if_pos rfl, List.append_nil]
    exact congrArg (_ ++ ·) (if_neg finished)
  have kept (post : Post) (member : post ∈ outline ⟨pipeline, settings, context⟩) :
      nodeAt ⟨pipeline.withAfter lines, settings, context⟩ source post =
        nodeAt ⟨pipeline, settings, context⟩ source post := by
    have role := @role_ne_after ⟨pipeline, settings, context⟩ unfinished post member
    unfold nodeAt
    cases named : post.role with
    | after => exact absurd named role
    | _ => rfl
  rw [extended, List.map_append, List.map_congr_left kept, ← Pipeline.scriptNode_eq_linesNode]
  rfl

end Frame

end Plan

namespace Pipeline

variable {pipeline : Pipeline} {settings : Settings} {source : Source} {claim hookId : String}
  {context : Option Context} {lines : List String}

theorem plan_withBefore (unscripted : pipeline.beforeScript = [])
    (unfinished : pipeline.afterScript = []) (scripted : lines ≠ []) :
    (pipeline.withBefore lines).plan settings source claim context hookId =
      (pipeline.plan settings source claim context hookId).map (Run.mapNodes fun nodes =>
        (nodes.map (Run.Node.redirected "git-clone" "before-step")).insertIdx 1
          (pipeline.linesNode "before-step" ["git-clone"] lines)) :=
  plan_mapNodes rfl rfl (Plan.Frame.nodes_withBefore unscripted unfinished scripted)

theorem plan_withAfter (unfinished : pipeline.afterScript = []) (finished : lines ≠ []) :
    ∃ frontier,
      (pipeline.withAfter lines).plan settings source claim context hookId =
        (pipeline.plan settings source claim context hookId).map (Run.mapNodes fun nodes =>
          nodes ++ [pipeline.linesNode "after-step" frontier lines]) ∧
      ∀ run, pipeline.plan settings source claim context hookId = .ok run →
        frontier ≠ [] ∧ ((run.spec.graph.nodes.map Run.Node.name).Nodup →
          frontier = (Run.sinks run.spec.graph.nodes).map Run.Node.name) := by
  let frame : Plan.Frame := ⟨pipeline, settings, context⟩
  refine ⟨Plan.ending frame.shares frame.entry pipeline.stages, plan_mapNodes rfl rfl
    (Plan.Frame.nodes_withAfter unfinished finished), ?_⟩
  intro run planned
  obtain ⟨nodes, given, same⟩ := plan_ok planned
  rw [same]
  exact Plan.Frame.nodes_sinks given unfinished

/-- The scripts of a pipeline are edits of its graph, and planning fails with them as it does
without. A script before all stages is the second node, and takes the place of the checkout in what
the others run after. A script after all stages is the last node, and runs after the sinks of the
others, if these can be told apart. -/
theorem plan_scripts (settings : Settings) (source : Source) (claim : String)
    (context : Option Context) (hookId : String) (unscripted : pipeline.beforeScript = [])
    (unfinished : pipeline.afterScript = []) {before after : List String} (scripted : before ≠ [])
    (finished : after ≠ []) :
    (pipeline.withBefore before).plan settings source claim context hookId =
      (pipeline.plan settings source claim context hookId).map (Run.mapNodes fun nodes =>
        (nodes.map (Run.Node.redirected "git-clone" "before-step")).insertIdx 1
          (pipeline.linesNode "before-step" ["git-clone"] before)) ∧
    ∀ base ∈ [pipeline, pipeline.withBefore before], ∃ frontier,
      (base.withAfter after).plan settings source claim context hookId =
        (base.plan settings source claim context hookId).map (Run.mapNodes fun nodes =>
          nodes ++ [pipeline.linesNode "after-step" frontier after]) ∧
      ∀ run, base.plan settings source claim context hookId = .ok run →
        frontier ≠ [] ∧ ((run.spec.graph.nodes.map Run.Node.name).Nodup →
          frontier = (Run.sinks run.spec.graph.nodes).map Run.Node.name) := by
  refine ⟨plan_withBefore unscripted unfinished scripted, ?_⟩
  intro base listed
  rcases List.mem_pair.mp listed with rfl | rfl
  · exact plan_withAfter unfinished finished
  · exact @plan_withAfter (pipeline.withBefore before) _ _ _ _ _ _ unfinished finished

def bareSample : Pipeline :=
  { sample with beforeScript := [], afterScript := [] }

theorem bareSample_scripts :
    ∃ run, (bareSample.withBefore ["make deps"]).planLikeSample = .ok run ∧
      samplePlan = .ok (run.mapNodes fun nodes => nodes ++
        [ { name := "after-step", runAfter := ["ship-stage-deploy"]
            workspaces := [⟨"source", "git-checkout"⟩], taskRef := none, params := []
            taskSpec := some
              { workspaces := ["source"]
                steps :=
                  [ { name := "", image := "", command := ["sh"], args := ["-c", "make clean"]
                      env := [⟨"CI_PROJECT_DIR", "$(workspaces.source.path)"⟩]
                      workingDir := "$(workspaces.source.path)", script := "" } ] } } ]) := by
  obtain ⟨_, finish⟩ := @plan_scripts bareSample _ _ _ (some (.ofDocument .null)) _ rfl rfl
    ["make deps"] ["make clean"] (List.cons_ne_nil _ _) (List.cons_ne_nil _ _)
  obtain ⟨frontier, planned, sinks⟩ := finish _ (.tail _ (.head _))
  have found : (bareSample.withBefore ["make deps"]).planLikeSample = .ok _ := rfl
  have last : frontier = ["ship-stage-deploy"] :=
    ((sinks _ found).2 (by decide +kernel)).trans (by decide +kernel)
  refine ⟨_, found, planned.trans ?_⟩
  rw [last]
  exact congrArg (Except.map _) found

end Pipeline

end StagedRuns
