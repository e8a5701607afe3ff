import Mathlib.Data.List.Nodup
import Mathlib.Logic.Relation
import StagedRuns.Proofs.Plan.Names
import StagedRuns.Proofs.Plan.Order

/-!
The barriers between the stages of a plan. If no two nodes have the same name, then the nodes that
a node waits for, over any number of others, are exactly those of the layers before its own, and
for an archiver also the node whose artifacts it archives.
-/

namespace StagedRuns

namespace Run

/-- Whether a node is one of those that another one runs after. -/
def Waits (nodes : List Node) (earlier later : Node) : Prop :=
  earlier ∈ nodes ∧ later ∈ nodes ∧ earlier.name ∈ later.runAfter

/-- Whether a node is complete before another one starts, since that one runs after it or after one
that it comes before. -/
def Precedes (nodes : List Node) : Node → Node → Prop :=
  Relation.TransGen (Waits nodes)

end Run

namespace Plan

open StagedRuns.Run (Node Waits Precedes)

/-- What keeps a node waiting until another one is complete. -/
inductive Barrier (earlier later : Planned) : Prop
  | checkout (first : earlier.node.name = checkoutName) (other : later.node.name ≠ checkoutName)
  | before (first : earlier.node.name = beforeName) (notCheckout : later.node.name ≠ checkoutName)
      (other : later.node.name ≠ beforeName)
  | after (last : later.node.name = afterName) (other : earlier.node.name ≠ afterName)
  | stages {first second : Nat} (ofFirst : earlier.origin.position? = some first)
      (ofSecond : later.origin.position? = some second) (increases : first < second)
  | archives (archives : later.Archives earlier)

theorem Origin.level_lt_iff {earlier later : Origin} :
    earlier.level < later.level ↔
      (earlier = .checkout ∧ later ≠ .checkout) ∨
      (earlier = .before ∧ later ≠ .checkout ∧ later ≠ .before) ∨
      (later = .after ∧ earlier ≠ .after) ∨
      ∃ first second, earlier.position? = some first ∧ later.position? = some second ∧
        first < second := by
  cases earlier <;> cases later <;>
    simp only [level, position?, WithTop.coe_lt_coe, WithTop.coe_lt_top, not_top_lt] <;> simp

theorem Origin.not_level_lt {earlier later : Origin} (staged : earlier.position?.isSome)
    (same : earlier.position? = later.position?) : ¬ earlier.level < later.level := by
  intro below
  rcases level_lt_iff.mp below with ⟨rfl, _⟩ | ⟨rfl, _⟩ | ⟨rfl, _⟩ |
    ⟨first, second, ofFirst, ofSecond, increases⟩
  · cases staged
  · cases staged
  · rw [same] at staged
    cases staged
  · rw [ofFirst, ofSecond] at same
    exact absurd (Option.some.inj same) (Nat.ne_of_lt increases)

namespace Frame

variable {frame : Frame}

/-- The barriers are the order of the levels, and what an archiver waits for beside it. -/
theorem barrier_iff {earlier later : Planned} (earlierNamed : frame.Names earlier)
    (laterNamed : frame.Names later) :
    Barrier earlier later ↔
      earlier.origin.level < later.origin.level ∨ later.Archives earlier := by
  have checkout : ownName? .checkout = some checkoutName := rfl
  have before : ownName? .before = some beforeName := rfl
  have after : ownName? .after = some afterName := rfl
  rw [Origin.level_lt_iff, ← earlierNamed.eq_own_iff checkout, ← earlierNamed.eq_own_iff before,
    ← laterNamed.eq_own_iff after, ne_eq, ne_eq, ne_eq, ← laterNamed.eq_own_iff checkout,
    ← laterNamed.eq_own_iff before, ← earlierNamed.eq_own_iff after]
  constructor
  · intro barrier
    cases barrier with
    | checkout first other => exact Or.inl (Or.inl ⟨first, other⟩)
    | before first notCheckout other =>
        exact Or.inl (Or.inr (Or.inl ⟨first, notCheckout, other⟩))
    | after last other => exact Or.inl (Or.inr (Or.inr (Or.inl ⟨last, other⟩)))
    | stages ofFirst ofSecond increases =>
        exact Or.inl (Or.inr (Or.inr (Or.inr ⟨_, _, ofFirst, ofSecond, increases⟩)))
    | archives archives => exact Or.inr archives
  · rintro ((⟨first, other⟩ | ⟨first, notCheckout, other⟩ | ⟨last, other⟩ |
      ⟨_, _, ofFirst, ofSecond, increases⟩) | archives)
    · exact .checkout first other
    · exact .before first notCheckout other
    · exact .after last other
    · exact .stages ofFirst ofSecond increases
    · exact .archives archives

theorem Archives.level_eq {archiver task : Planned} (archives : archiver.Archives task) :
    archiver.origin.level = task.origin.level := by
  obtain ⟨position, ofTask, ofArchiver⟩ := archives.stage
  rw [ofTask, ofArchiver]
  rfl

/-! ### What a node waits for comes earlier -/

theorem eq_of_name_eq {nodes : List Planned} (distinct : (nodes.map (·.node.name)).Nodup)
    {left right : Planned} (inLeft : left ∈ nodes) (inRight : right ∈ nodes)
    (same : left.node.name = right.node.name) : left = right :=
  List.inj_on_of_nodup_map distinct inLeft inRight same

/-- What a layer runs after is what all layers run after, or what an earlier layer ends with. -/
theorem Layered.after_earlier {frontier last : List String} {layers : List Layer}
    (layered : Layered frontier layers last) {layer : Layer} (member : layer ∈ layers) :
    ∃ names, layer.After names ∧ ∀ name ∈ names, name ∈ frontier ∨
      ∃ earlier ∈ layers, earlier.level < layer.level ∧ name ∈ earlier.exits := by
  induction layered with
  | nil frontier => cases member
  | @cons frontier last head rest after rises continued ih =>
      rcases List.mem_cons.mp member with rfl | inRest
      · exact ⟨frontier, after, fun name present => Or.inl present⟩
      · obtain ⟨names, given, each⟩ := ih inRest
        refine ⟨names, given, ?_⟩
        intro name present
        rcases each name present with inHead | ⟨earlier, inLayers, below, ends⟩
        · exact Or.inr ⟨head, List.mem_cons_self, rises layer inRest, inHead⟩
        · exact Or.inr ⟨earlier, List.mem_cons_of_mem _ inLayers, below, ends⟩

/-- A node that another one runs after is of a lower level, or is archived by it. -/
theorem level_lt_of_waits {layers : List Layer} {last : List String}
    (layered : Layered [] layers last)
    (distinct : ((layers.flatMap Layer.nodes).map (·.node.name)).Nodup)
    {earlier later : Planned} (inEarlier : earlier ∈ layers.flatMap Layer.nodes)
    (inLater : later ∈ layers.flatMap Layer.nodes)
    (waits : earlier.node.name ∈ later.node.runAfter) :
    earlier.origin.level < later.origin.level ∨ later.Archives earlier := by
  obtain ⟨layer, inLayers, isNode⟩ := List.mem_flatMap.mp inLater
  obtain ⟨names, after, each⟩ := layered.after_earlier inLayers
  have atLevel := after.levels later isNode
  obtain ⟨variant, present, ofVariant⟩ := List.mem_flatMap.mp isNode
  rcases mem_variant_nodes.mp ofVariant with rfl | archives
  · rw [after.tasks variant present] at waits
    rcases each _ waits with none | ⟨before, beforeIn, below, ends⟩
    · cases none
    · obtain ⟨planned, ofBefore, named⟩ := List.mem_map.mp (Layer.exits_subset before ends)
      have inAll := List.mem_flatMap.mpr ⟨before, beforeIn, ofBefore⟩
      obtain rfl := eq_of_name_eq distinct inAll inEarlier named
      obtain ⟨_, beforeAfter, _⟩ := layered.after_earlier beforeIn
      rw [atLevel, beforeAfter.levels planned ofBefore]
      exact Or.inl below
  · obtain ⟨archived, runAfter⟩ := after.archivers variant present later archives
    rw [runAfter, List.mem_singleton] at waits
    have ofTask : variant.task ∈ layer.nodes :=
      List.mem_flatMap.mpr ⟨variant, present, mem_variant_nodes.mpr (Or.inl rfl)⟩
    have inAll := List.mem_flatMap.mpr ⟨layer, inLayers, ofTask⟩
    obtain rfl := eq_of_name_eq distinct inEarlier inAll waits
    exact Or.inr archived

/-- The relation of levels and archivers is transitive, so no path leaves it. -/
theorem level_lt_of_precedes {layers : List Layer} {last : List String}
    (layered : Layered [] layers last)
    (distinct : ((layers.flatMap Layer.nodes).map (·.node.name)).Nodup)
    {earlier : Planned} (inEarlier : earlier ∈ layers.flatMap Layer.nodes) {node : Node}
    (precedes : Precedes ((layers.flatMap Layer.nodes).map Planned.node) earlier.node node) :
    ∀ later ∈ layers.flatMap Layer.nodes, later.node = node →
      earlier.origin.level < later.origin.level ∨ later.Archives earlier := by
  induction precedes with
  | single waits =>
      rintro later inLater rfl
      exact level_lt_of_waits layered distinct inEarlier inLater waits.2.2
  | tail path waits ih =>
      rintro later inLater rfl
      obtain ⟨middle, inMiddle, rfl⟩ := List.mem_map.mp waits.1
      have second := level_lt_of_waits layered distinct inMiddle inLater waits.2.2
      rcases ih middle inMiddle rfl with below | archived
      · rcases second with above | archives
        · exact Or.inl (lt_trans below above)
        · exact Or.inl (lt_of_lt_of_eq below (Archives.level_eq archives).symm)
      · rcases second with above | archives
        · exact Or.inl (lt_of_eq_of_lt (Archives.level_eq archived).symm above)
        · -- What is archived is no archiver itself.
          obtain ⟨_, _, isArchiver⟩ := archived.stage
          obtain ⟨_, isTask, _⟩ := archives.stage
          rw [isArchiver] at isTask
          cases isTask

/-! ### All that comes earlier is waited for -/

variable {nodes : List Node}

/-- Whether a node is one that a layer runs after if it runs after those with the given names, or
comes before such a one. -/
def Reaches (nodes : List Node) (node : Node) (names : List String) : Prop :=
  ∃ exit ∈ nodes, exit.name ∈ names ∧ Relation.ReflTransGen (Waits nodes) node exit

theorem waits_archiver {layer : Layer} {frontier : List String} (after : layer.After frontier)
    (within : layer.nodes.map Planned.node ⊆ nodes) {variant : Variant}
    (present : variant ∈ layer.variants) {archiver : Planned}
    (archives : variant.archiver = some archiver) :
    Waits nodes variant.task.node archiver.node := by
  have inLayer : ∀ planned ∈ variant.nodes, planned.node ∈ nodes := fun planned isNode =>
    within (List.mem_map_of_mem (List.mem_flatMap.mpr ⟨variant, present, isNode⟩))
  refine ⟨inLayer _ (mem_variant_nodes.mpr (Or.inl rfl)),
    inLayer _ (mem_variant_nodes.mpr (Or.inr archives)), ?_⟩
  rw [(after.archivers variant present archiver archives).2]
  exact List.mem_singleton.mpr rfl

/-- Every node of a layer leads to one that the layer ends with. -/
theorem reaches_exits {layer : Layer} {frontier : List String} (after : layer.After frontier)
    (within : layer.nodes.map Planned.node ⊆ nodes) {planned : Planned}
    (member : planned ∈ layer.nodes) : Reaches nodes planned.node layer.exits := by
  obtain ⟨variant, present, isNode⟩ := List.mem_flatMap.mp member
  have inNodes := within (List.mem_map_of_mem member)
  have ends : variant.exit ∈ layer.exits := List.mem_map_of_mem present
  cases archived : variant.archiver with
  | none =>
      rcases mem_variant_nodes.mp isNode with rfl | archives
      · refine ⟨_, inNodes, ?_, .refl⟩
        rwa [Variant.exit, archived] at ends
      · rw [archived] at archives
        cases archives
  | some archiver =>
      rw [Variant.exit, archived] at ends
      have waits := waits_archiver after within present archived
      rcases mem_variant_nodes.mp isNode with rfl | archives
      · exact ⟨archiver.node, waits.2.1, ends, .single waits⟩
      · have same := Option.some.inj (archived.symm.trans archives)
        exact ⟨archiver.node, waits.2.1, ends, same ▸ .refl⟩

/-- What leads to the nodes that a layer runs after comes before all nodes of the layer. -/
theorem precedes_layer {layer : Layer} {frontier : List String} (after : layer.After frontier)
    (within : layer.nodes.map Planned.node ⊆ nodes) {node : Node}
    (reaches : Reaches nodes node frontier) :
    ∀ planned ∈ layer.nodes, Precedes nodes node planned.node := by
  obtain ⟨exit, inNodes, named, path⟩ := reaches
  intro planned member
  obtain ⟨variant, present, isNode⟩ := List.mem_flatMap.mp member
  have ofTask : variant.task ∈ layer.nodes :=
    List.mem_flatMap.mpr ⟨variant, present, mem_variant_nodes.mpr (Or.inl rfl)⟩
  have waits : Waits nodes exit variant.task.node := by
    refine ⟨inNodes, within (List.mem_map_of_mem ofTask), ?_⟩
    rwa [after.tasks variant present]
  have toTask : Precedes nodes node variant.task.node := .tail' path waits
  rcases mem_variant_nodes.mp isNode with rfl | archives
  · exact toTask
  · exact toTask.tail (waits_archiver after within present archives)

theorem Layered.precedes_all {frontier last : List String} {layers : List Layer}
    (layered : Layered frontier layers last)
    (within : (layers.flatMap Layer.nodes).map Planned.node ⊆ nodes) {node : Node}
    (reaches : Reaches nodes node frontier) :
    ∀ planned ∈ layers.flatMap Layer.nodes, Precedes nodes node planned.node := by
  induction layered with
  | nil frontier =>
      intro planned none
      cases none
  | @cons frontier last head rest after rises continued ih =>
      rw [List.flatMap_cons, List.map_append] at within
      have headWithin := List.Subset.trans (List.subset_append_left _ _) within
      have restWithin := List.Subset.trans (List.subset_append_right _ _) within
      have toHead := precedes_layer after headWithin reaches
      -- A layer has some node, and that node leads to what the next layer runs after.
      obtain ⟨variant, present⟩ := List.exists_mem_of_ne_nil _ after.occupied
      have ofTask : variant.task ∈ head.nodes :=
        List.mem_flatMap.mpr ⟨variant, present, mem_variant_nodes.mpr (Or.inl rfl)⟩
      obtain ⟨exit, inNodes, named, path⟩ := reaches_exits after headWithin ofTask
      have toRest := ih restWithin
        ⟨exit, inNodes, named, (toHead variant.task ofTask).to_reflTransGen.trans path⟩
      intro planned member
      rcases List.mem_append.mp member with inHead | inRest
      · exact toHead planned inHead
      · exact toRest planned inRest

theorem Layered.precedes_later {frontier last : List String} {layers : List Layer}
    (layered : Layered frontier layers last)
    (within : (layers.flatMap Layer.nodes).map Planned.node ⊆ nodes)
    {earlier later : Planned} (inEarlier : earlier ∈ layers.flatMap Layer.nodes)
    (inLater : later ∈ layers.flatMap Layer.nodes)
    (below : earlier.origin.level < later.origin.level) :
    Precedes nodes earlier.node later.node := by
  induction layered with
  | nil frontier => cases inEarlier
  | @cons frontier last head rest after rises continued ih =>
      rw [List.flatMap_cons, List.map_append] at within
      have headWithin := List.Subset.trans (List.subset_append_left _ _) within
      have restWithin := List.Subset.trans (List.subset_append_right _ _) within
      have restAbove : ∀ planned ∈ rest.flatMap Layer.nodes,
          head.level < planned.origin.level := by
        intro planned member
        obtain ⟨layer, inRest, isNode⟩ := List.mem_flatMap.mp member
        obtain ⟨_, layerAfter, _⟩ := continued.after_earlier inRest
        rw [layerAfter.levels planned isNode]
        exact rises layer inRest
      rcases List.mem_append.mp inEarlier with earlierHead | earlierRest
      · rcases List.mem_append.mp inLater with laterHead | laterRest
        · rw [after.levels earlier earlierHead, after.levels later laterHead] at below
          exact absurd below (lt_irrefl _)
        · exact continued.precedes_all restWithin (reaches_exits after headWithin earlierHead)
            later laterRest
      · rcases List.mem_append.mp inLater with laterHead | laterRest
        · have above := restAbove earlier earlierRest
          rw [after.levels later laterHead] at below
          exact absurd (lt_trans above below) (lt_irrefl _)
        · exact ih restWithin earlierRest laterRest

theorem waits_of_archives {layers : List Layer} {last : List String}
    (layered : Layered [] layers last)
    (distinct : ((layers.flatMap Layer.nodes).map (·.node.name)).Nodup)
    {task archiver : Planned} (inTask : task ∈ layers.flatMap Layer.nodes)
    (inArchiver : archiver ∈ layers.flatMap Layer.nodes) (archives : archiver.Archives task) :
    Waits ((layers.flatMap Layer.nodes).map Planned.node) task.node archiver.node := by
  obtain ⟨layer, inLayers, isNode⟩ := List.mem_flatMap.mp inArchiver
  obtain ⟨names, after, _⟩ := layered.after_earlier inLayers
  have within : layer.nodes.map Planned.node ⊆ (layers.flatMap Layer.nodes).map Planned.node :=
    List.map_subset _ fun planned member => List.mem_flatMap.mpr ⟨layer, inLayers, member⟩
  obtain ⟨variant, present, ofVariant⟩ := List.mem_flatMap.mp isNode
  rcases mem_variant_nodes.mp ofVariant with rfl | archived
  · obtain ⟨position, _, isArchiver⟩ := archives.stage
    exact absurd isArchiver (after.starts variant present position)
  · have named := (after.archivers variant present archiver archived).1.name
    have same := (String.append_left_inj _).mp (archives.name.symm.trans named)
    have ofTask : variant.task ∈ layer.nodes :=
      List.mem_flatMap.mpr ⟨variant, present, mem_variant_nodes.mpr (Or.inl rfl)⟩
    have inAll := List.mem_flatMap.mpr ⟨layer, inLayers, ofTask⟩
    obtain rfl := eq_of_name_eq distinct inTask inAll same
    exact waits_archiver after within present archived

/-- In a plan without repeated names, one node comes before another exactly if it is of a lower
level or is archived by it. -/
theorem Layered.precedes_iff {layers : List Layer} {last : List String}
    (layered : Layered [] layers last)
    (distinct : ((layers.flatMap Layer.nodes).map (·.node.name)).Nodup)
    {earlier later : Planned} (inEarlier : earlier ∈ layers.flatMap Layer.nodes)
    (inLater : later ∈ layers.flatMap Layer.nodes) :
    Precedes ((layers.flatMap Layer.nodes).map Planned.node) earlier.node later.node ↔
      earlier.origin.level < later.origin.level ∨ later.Archives earlier := by
  constructor
  · intro precedes
    exact level_lt_of_precedes layered distinct inEarlier precedes later inLater rfl
  · rintro (below | archives)
    · exact layered.precedes_later (List.Subset.refl _) inEarlier inLater below
    · exact .single (waits_of_archives layered distinct inEarlier inLater archives)

end Frame

end Plan

/-- Stage barriers, exactly. If the nodes of a planned run have different names, one of them comes
before another exactly if a barrier stands between them: the checkout comes before all others, the
script before the stages before all but these two, all others before the script after the stages,
the nodes of a stage before those of the later stages, whatever the stages between them have lost
to rules, and the node of a task before its archiver. Two nodes of one stage are in no other
order. -/
theorem Pipeline.precedes_iff_barrier {pipeline : Pipeline} {settings : Settings} {source : Source}
    {claim : String} {context : Option Webhook.Context} {hookId : String} {run : Run}
    (planned : pipeline.plan settings source claim context hookId = .ok run)
    (distinct : (run.spec.graph.nodes.map Run.Node.name).Nodup) :
    ∃ nodes, Plan.Frame.nodes ⟨pipeline, settings, context⟩ source = .ok nodes ∧
      run.spec.graph.nodes = nodes.map Plan.Planned.node ∧
      (∀ node ∈ nodes, Plan.Frame.Names ⟨pipeline, settings, context⟩ node) ∧
      ∀ earlier ∈ nodes, ∀ later ∈ nodes,
        (Run.Precedes run.spec.graph.nodes earlier.node later.node ↔
          Plan.Barrier earlier later) ∧
        (earlier.origin.position?.isSome → earlier.origin.position? = later.origin.position? →
          Run.Precedes run.spec.graph.nodes earlier.node later.node →
            later.Archives earlier) := by
  obtain ⟨nodes, given, same⟩ := Pipeline.plan_ok planned
  have names := Plan.Frame.nodes_names given
  obtain ⟨layers, last, layered, rfl⟩ := Plan.Frame.nodes_layered given
  rw [same, List.map_map] at distinct
  refine ⟨_, given, same, names, ?_⟩
  intro earlier inEarlier later inLater
  have levels := layered.precedes_iff distinct inEarlier inLater
  rw [same]
  constructor
  · rw [levels, Plan.Frame.barrier_iff (names earlier inEarlier) (names later inLater)]
  · intro staged sameStage precedes
    rcases levels.mp precedes with below | archives
    · exact absurd below (Plan.Origin.not_level_lt staged sameStage)
    · exact archives

theorem Pipeline.samplePlan_barriers :
    ∃ (run : Run) (nodes : List Plan.Planned), Pipeline.samplePlan = .ok run ∧
      (run.spec.graph.nodes.map Run.Node.name).Nodup ∧
      run.spec.graph.nodes = nodes.map Plan.Planned.node ∧
      ∀ earlier ∈ nodes, ∀ later ∈ nodes,
        (Run.Precedes run.spec.graph.nodes earlier.node later.node ↔
          Plan.Barrier earlier later) := by
  have distinct : ∀ run, Pipeline.samplePlan = .ok run →
      (run.spec.graph.nodes.map Run.Node.name).Nodup := by
    intro run planned
    cases planned
    decide +kernel
  have planned : Pipeline.samplePlan = .ok _ := rfl
  obtain ⟨nodes, _, same, _, barriers⟩ :=
    Pipeline.precedes_iff_barrier planned (distinct _ planned)
  refine ⟨_, nodes, planned, distinct _ planned, same, ?_⟩
  intro earlier inEarlier later inLater
  exact (barriers earlier inEarlier later inLater).1

end StagedRuns
