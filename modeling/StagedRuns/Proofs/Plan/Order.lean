import Mathlib.Data.List.Nodup
import Mathlib.Logic.Relation
import StagedRuns.Proofs.Plan.Layers

/-!
The order of the nodes of a plan. The checkout comes first and waits for nothing. Every other node
waits for something, and only for nodes that come before it, so the checkout comes before it on
some path of dependencies.
-/

namespace StagedRuns

namespace Run

/-- Whether the node at a place is one that the node at a later place runs after. -/
def LinkedAt (nodes : List Node) (earlier later : Nat) : Prop :=
  earlier < later ∧ ∃ first second, nodes[earlier]? = some first ∧
    nodes[later]? = some second ∧ first.name ∈ second.runAfter

/-- Nodes of which each runs after some of those before it, where those before all of them have the
names `seen`. -/
def Ordered : (seen : List String) → List Node → Prop
  | _, [] => True
  | seen, node :: rest =>
      node.runAfter ≠ [] ∧ node.runAfter ⊆ seen ∧ Ordered (node.name :: seen) rest

namespace Ordered

theorem mono {seen more : List String} {nodes : List Node} (ordered : Ordered seen nodes)
    (grows : seen ⊆ more) : Ordered more nodes := by
  induction nodes generalizing seen more with
  | nil => trivial
  | cons node rest ih =>
      obtain ⟨waits, before, continued⟩ := ordered
      exact ⟨waits, List.Subset.trans before grows,
        ih continued (List.cons_subset_cons node.name grows)⟩

theorem append {seen later : List String} {front back : List Node} (first : Ordered seen front)
    (second : Ordered later back) (covered : later ⊆ front.map Node.name ++ seen) :
    Ordered seen (front ++ back) := by
  induction front generalizing seen with
  | nil => exact second.mono covered
  | cons node rest ih =>
      obtain ⟨waits, before, continued⟩ := first
      refine ⟨waits, before, ih continued ?_⟩
      intro name member
      have present := covered member
      simp only [List.map_cons, List.cons_append, List.mem_cons, List.mem_append] at present ⊢
      tauto

/-- What the node at a place runs after was seen before, or stands at an earlier place. -/
theorem at_place {seen : List String} {nodes : List Node} (ordered : Ordered seen nodes)
    {place : Nat} {node : Node} (found : nodes[place]? = some node) :
    node.runAfter ≠ [] ∧ ∀ name ∈ node.runAfter, name ∈ seen ∨
      ∃ earlier first, earlier < place ∧ nodes[earlier]? = some first ∧ first.name = name := by
  induction nodes generalizing seen place with
  | nil => cases found
  | cons head tail ih =>
      obtain ⟨waits, before, continued⟩ := ordered
      cases place with
      | zero =>
          cases found
          exact ⟨waits, fun name member => Or.inl (before member)⟩
      | succ place =>
          obtain ⟨tailWaits, each⟩ := ih continued found
          refine ⟨tailWaits, ?_⟩
          intro name member
          rcases each name member with inSeen | ⟨earlier, first, bound, foundFirst, named⟩
          · rcases List.mem_cons.mp inSeen with same | inSeen
            · exact Or.inr ⟨0, head, Nat.succ_pos place, rfl, same.symm⟩
            · exact Or.inl inSeen
          · exact Or.inr ⟨earlier + 1, first, Nat.succ_lt_succ bound, foundFirst, named⟩

/-- Every place is reached from the first one if what comes after that is in order. -/
theorem reached {root : Node} {rest : List Node} (ordered : Ordered [root.name] rest)
    (place : Nat) (within : place < rest.length) :
    Relation.TransGen (LinkedAt (root :: rest)) 0 (place + 1) := by
  induction place using Nat.strong_induction_on with
  | _ place ih =>
      have found := List.getElem?_eq_getElem within
      obtain ⟨waits, each⟩ := ordered.at_place found
      obtain ⟨name, member⟩ := List.exists_mem_of_ne_nil _ waits
      rcases each name member with inSeen | ⟨earlier, first, bound, foundFirst, rfl⟩
      · refine .single ⟨Nat.succ_pos place, root, _, rfl, found, ?_⟩
        rwa [← List.mem_singleton.mp inSeen]
      · refine .tail (ih earlier bound (Nat.lt_trans bound within)) ?_
        exact ⟨Nat.succ_lt_succ bound, first, _, foundFirst, found, member⟩

/-- Nodes in order with different names do not wait for themselves. -/
theorem name_notMem_runAfter {seen : List String} {nodes : List Node} (ordered : Ordered seen nodes)
    (distinct : (seen ++ nodes.map Node.name).Nodup) :
    ∀ node ∈ nodes, node.name ∉ node.runAfter := by
  induction nodes generalizing seen with
  | nil =>
      intro node none
      cases none
  | cons head tail ih =>
      obtain ⟨_, before, continued⟩ := ordered
      rw [List.map_cons, List.nodup_middle] at distinct
      intro node member
      rcases List.mem_cons.mp member with rfl | inTail
      · intro waits
        have headTail := List.nodup_cons.mp distinct
        exact headTail.1 (List.mem_append_left _ (before waits))
      · exact ih continued distinct node inTail

end Ordered

end Run

namespace Plan.Frame

open StagedRuns.Run (Ordered)

variable {frontier last seen : List String}

theorem exit_mem_names (variant : Variant) :
    variant.exit ∈ variant.nodes.map (·.node.name) := by
  unfold Variant.exit Variant.nodes
  cases variant.archiver with
  | none => exact List.mem_cons_self
  | some archiver => exact List.mem_cons_of_mem _ List.mem_cons_self

theorem Layer.exits_subset (layer : Layer) : layer.exits ⊆ layer.nodes.map (·.node.name) := by
  intro name member
  obtain ⟨variant, present, rfl⟩ := List.mem_map.mp member
  obtain ⟨planned, isNode, named⟩ := List.mem_map.mp (exit_mem_names variant)
  exact List.mem_map.mpr ⟨planned, List.mem_flatMap.mpr ⟨variant, present, isNode⟩, named⟩

/-- Variants are in order if the nodes that they run after were seen: an archiver comes right after
the node of its task. -/
theorem variants_ordered {variants : List Variant} (waits : frontier ≠ [])
    (before : frontier ⊆ seen)
    (tasks : ∀ variant ∈ variants, variant.task.node.runAfter = frontier)
    (archivers : ∀ variant ∈ variants, ∀ archiver, variant.archiver = some archiver →
      archiver.node.runAfter = [variant.task.node.name]) :
    Ordered seen ((variants.flatMap Variant.nodes).map Planned.node) := by
  induction variants generalizing seen with
  | nil => trivial
  | cons variant rest ih =>
      have runAfter := tasks variant List.mem_cons_self
      have tail : Ordered seen ((rest.flatMap Variant.nodes).map Planned.node) :=
        ih before (fun other member => tasks other (List.mem_cons_of_mem _ member))
          (fun other member => archivers other (List.mem_cons_of_mem _ member))
      have head : Ordered seen (variant.nodes.map Planned.node) := by
        refine ⟨runAfter ▸ waits, runAfter ▸ before, ?_⟩
        cases found : variant.archiver with
        | none => trivial
        | some archiver =>
            have placed := archivers variant List.mem_cons_self archiver found
            refine ⟨placed ▸ List.cons_ne_nil _ _, ?_, trivial⟩
            rw [placed]
            exact List.cons_subset_cons _ (List.nil_subset seen)
      rw [List.flatMap_cons, List.map_append]
      exact head.append tail (List.subset_append_right _ seen)

theorem Layered.ordered {layers : List Layer} (layered : Layered frontier layers last)
    (waits : frontier ≠ []) (before : frontier ⊆ seen) :
    Ordered seen ((layers.flatMap Layer.nodes).map Planned.node) := by
  induction layered generalizing seen with
  | nil frontier => trivial
  | @cons frontier last layer rest after rises continued ih =>
      have head : Ordered seen (layer.nodes.map Planned.node) :=
        variants_ordered waits before after.tasks
          (fun variant member archiver archives =>
            (after.archivers variant member archiver archives).2)
      have exitsWait : layer.exits ≠ [] := by
        unfold Layer.exits
        rw [ne_eq, List.map_eq_nil_iff]
        exact after.occupied
      rw [List.flatMap_cons, List.map_append]
      refine head.append (ih exitsWait (List.Subset.refl layer.exits)) ?_
      intro name member
      have present := Layer.exits_subset layer member
      rw [List.map_map]
      exact List.mem_append_left seen present

/-- The checkout comes first in a plan, and what comes after it is in order. -/
theorem nodes_ordered {frame : Frame} {source : Source} {nodes : List Planned}
    (planned : frame.nodes source = .ok nodes) :
    ∃ rest, nodes.map Planned.node = checkoutNode frame.env source :: rest ∧
      Ordered [checkoutName] rest := by
  obtain ⟨layers, last, layered, rfl⟩ := nodes_layered planned
  cases layered with
  | cons after rises continued =>
      exact ⟨(layers.flatMap Layer.nodes).map Planned.node, rfl,
        continued.ordered (List.cons_ne_nil _ _) (List.Subset.refl _)⟩

end Plan.Frame

/-- The nodes of a planned run are in a rooted topological order: the checkout is first and waits
for nothing, every later node waits for some nodes, all of them at earlier places, and the checkout
leads to it. -/
theorem Pipeline.plan_rooted {pipeline : Pipeline} {settings : Settings} {source : Source}
    {claim : String} {context : Option Webhook.Context} {hookId : String} {run : Run}
    (planned : pipeline.plan settings source claim context hookId = .ok run) :
    (∃ root, run.spec.graph.nodes[0]? = some root ∧ root.name = Plan.checkoutName ∧
      root.runAfter = []) ∧
    ∀ place node, 0 < place → run.spec.graph.nodes[place]? = some node →
      node.runAfter ≠ [] ∧
      (∀ name ∈ node.runAfter, ∃ earlier first, earlier < place ∧
        run.spec.graph.nodes[earlier]? = some first ∧ first.name = name) ∧
      Relation.TransGen (Run.LinkedAt run.spec.graph.nodes) 0 place := by
  obtain ⟨nodes, given, same⟩ := Pipeline.plan_ok planned
  obtain ⟨layers, last, layered, rfl⟩ := Plan.Frame.nodes_layered given
  cases layered with
  | cons after rises continued =>
      let root := Plan.checkoutNode (Plan.Frame.env ⟨pipeline, settings, context⟩) source
      let rest := (layers.flatMap Plan.Frame.Layer.nodes).map Plan.Planned.node
      have split : run.spec.graph.nodes = root :: rest := by
        rw [same]
        rfl
      have ordered : Run.Ordered [root.name] rest :=
        continued.ordered (List.cons_ne_nil _ _) (List.Subset.refl _)
      rw [split]
      refine ⟨⟨root, rfl, rfl, rfl⟩, ?_⟩
      intro place node later found
      cases place with
      | zero => exact absurd later (Nat.lt_irrefl 0)
      | succ place =>
          have within : place < rest.length :=
            Nat.lt_of_succ_lt_succ (List.getElem?_eq_some_iff.mp found).1
          obtain ⟨waits, each⟩ := ordered.at_place found
          refine ⟨waits, ?_, ordered.reached place within⟩
          intro name member
          rcases each name member with inSeen | ⟨earlier, first, bound, foundFirst, named⟩
          · exact ⟨0, root, later, rfl, (List.mem_singleton.mp inSeen).symm⟩
          · exact ⟨earlier + 1, first, Nat.succ_lt_succ bound, foundFirst, named⟩

/-- A pipeline with both scripts, a task in two variants whose artifacts are archived, and a stage
whose only task is excluded. -/
def Pipeline.sample : Pipeline :=
  { Pipeline.empty with
    beforeScript := ["make deps"]
    afterScript := ["make clean"]
    stages := ["build", "check", "deploy"]
    tasks :=
      [ { name := "compile", stage := "build", script := ["make"], rules := []
          artifacts := ["bin"]
          options := some
            { taskRef := none, image := none, parameters := []
              jobs := [.ofList [("GO", "1.13")], .ofList [("GO", "1.14")]] } }
      , { name := "lint", stage := "check", script := ["make lint"]
          rules := [{ guard := "true", directive := never }], artifacts := [], options := none }
      , { name := "ship", stage := "deploy", script := ["make ship"], rules := []
          artifacts := [], options := none } ] }

def Pipeline.samplePlan : Except PlanError Run :=
  Pipeline.sample.plan
    { archiverImage := "archiver", archiveUrl := "gs://archive", runPrefix := "run-"
      serviceAccount := "default", volumeSize := "1Gi" }
    { repoUrl := "https://example.com/owner/name.git", gitRef := "main" } "claim"
    (some (.ofDocument .null)) "hook"

def Pipeline.planLikeSample (pipeline : Pipeline) : Except PlanError Run :=
  pipeline.plan
    { archiverImage := "archiver", archiveUrl := "gs://archive", runPrefix := "run-"
      serviceAccount := "default", volumeSize := "1Gi" }
    { repoUrl := "https://example.com/owner/name.git", gitRef := "main" } "claim"
    (some (.ofDocument .null)) "hook"

theorem Pipeline.samplePlan_rooted :
    ∃ run, Pipeline.samplePlan = .ok run ∧
      (∃ root, run.spec.graph.nodes[0]? = some root ∧ root.name = Plan.checkoutName ∧
        root.runAfter = []) ∧
      Relation.TransGen (Run.LinkedAt run.spec.graph.nodes) 0 7 := by
  refine ⟨_, rfl, ?_⟩
  have rooted := Pipeline.plan_rooted (rfl : Pipeline.samplePlan = .ok _)
  exact ⟨rooted.1, (rooted.2 7 _ (Nat.zero_lt_succ 6) rfl).2.2⟩

end StagedRuns
