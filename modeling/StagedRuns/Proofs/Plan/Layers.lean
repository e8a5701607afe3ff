import Mathlib.Order.WithBot
import StagedRuns.Proofs.Plan.Success

/-!
The layers of a plan: the checkout, the script before all stages, every stage that has nodes, and
the script after all stages. What a layer ends with is what the next one runs after, and a stage
without nodes leaves no layer.
-/

namespace StagedRuns.Plan

open StagedRuns.Run (Node Variable)

/-- The position of the stage that a node was planned for. -/
def Origin.position? : Origin → Option Nat
  | .task position => some position
  | .archiver position => some position
  | _ => none

/-- How late a node comes. -/
def Origin.level : Origin → WithTop Nat
  | .checkout => WithTop.some 0
  | .before => WithTop.some 1
  | .task position => WithTop.some (position + 2)
  | .archiver position => WithTop.some (position + 2)
  | .after => ⊤

structure Planned.Archives (archiver task : Planned) : Prop where
  stage : ∃ position, task.origin = .task position ∧ archiver.origin = .archiver position
  name : archiver.node.name = task.node.name ++ "-archiver"

namespace Frame

structure Layer where
  level : WithTop Nat
  variants : List Variant

namespace Layer

def nodes (layer : Layer) : List Planned :=
  layer.variants.flatMap Variant.nodes

def exits (layer : Layer) : List String :=
  layer.variants.map Variant.exit

structure After (layer : Layer) (frontier : List String) : Prop where
  occupied : layer.variants ≠ []
  tasks : ∀ variant ∈ layer.variants, variant.task.node.runAfter = frontier
  starts : ∀ variant ∈ layer.variants, ∀ position, variant.task.origin ≠ .archiver position
  archivers : ∀ variant ∈ layer.variants, ∀ archiver, variant.archiver = some archiver →
    archiver.Archives variant.task ∧ archiver.node.runAfter = [variant.task.node.name]
  levels : ∀ planned ∈ layer.nodes, planned.origin.level = layer.level

def single (planned : Planned) : Layer :=
  { level := planned.origin.level, variants := [{ task := planned, archiver := none }] }

theorem single_after (planned : Planned) (alone : ∀ position, planned.origin ≠ .archiver position) :
    (single planned).After planned.node.runAfter where
  occupied := List.cons_ne_nil _ _
  tasks := by
    intro variant member
    rw [List.mem_singleton.mp member]
  starts := by
    intro variant member
    rw [List.mem_singleton.mp member]
    exact alone
  archivers := by
    intro variant member archiver archives
    rw [List.mem_singleton.mp member] at archives
    cases archives
  levels := by
    intro other member
    rw [List.mem_singleton.mp member]
    rfl

end Layer

/-- Layers that follow one another, each running after what the one before it ends with. -/
inductive Layered : List String → List Layer → List String → Prop
  | nil (frontier : List String) : Layered frontier [] frontier
  | cons {frontier last : List String} {layer : Layer} {rest : List Layer}
      (after : layer.After frontier) (rises : ∀ later ∈ rest, layer.level < later.level)
      (continued : Layered layer.exits rest last) : Layered frontier (layer :: rest) last

namespace Layered

theorem single (planned : Planned) (alone : ∀ position, planned.origin ≠ .archiver position) :
    Layered planned.node.runAfter [Layer.single planned] [planned.node.name] :=
  .cons (Layer.single_after planned alone) (fun _ none => by cases none) (.nil _)

theorem append {frontier middle last : List String} {front back : List Layer}
    (first : Layered frontier front middle) (second : Layered middle back last)
    (rises : ∀ earlier ∈ front, ∀ later ∈ back, earlier.level < later.level) :
    Layered frontier (front ++ back) last := by
  induction first with
  | nil frontier => exact second
  | cons after inFront continued ih =>
      refine .cons after ?_ (ih second ?_)
      · intro later member
        rcases List.mem_append.mp member with stillFront | inBack
        · exact inFront later stillFront
        · exact rises _ List.mem_cons_self later inBack
      · intro earlier member
        exact rises earlier (List.mem_cons_of_mem _ member)

end Layered

/-! ### The layers that are planned -/

variable {frame : Frame} {position : Nat} {frontier : List String}

theorem mem_variant_nodes {variant : Variant} {planned : Planned} :
    planned ∈ variant.nodes ↔ planned = variant.task ∨ variant.archiver = some planned := by
  unfold Variant.nodes
  rw [List.mem_cons, Option.mem_toList]

theorem variant_facts {task : Task} {name : String} {env : List Variable} {variant : Variant}
    (planned : frame.variant position frontier task name env = .ok variant) :
    variant.task.origin = .task position ∧ variant.task.node.name = name ∧
      variant.task.node.runAfter = frontier ∧
        ∀ archiver, variant.archiver = some archiver →
          task.artifacts ≠ [] ∧ archiver.origin = .archiver position ∧
            archiver.node.name = name ++ "-archiver" ∧ archiver.node.runAfter = [name] := by
  obtain ⟨node, given, rfl⟩ := variant_ok.mp planned
  obtain ⟨named, placed⟩ := taskNode_ok given
  refine ⟨rfl, named, placed, ?_⟩
  intro archiver archives
  cases artifacts : task.artifacts with
  | nil =>
      rw [artifacts] at archives
      cases archives
  | cons path paths =>
      rw [artifacts] at archives
      cases archives
      exact ⟨List.cons_ne_nil _ _, rfl, rfl, rfl⟩

def stageLayer (position : Nat) (variants : List Variant) : Layer :=
  { level := WithTop.some (position + 2), variants }

theorem stageLayer_after {name : String} {variants : List Variant}
    (planned : frame.stage position frontier name = .ok variants) (occupied : variants ≠ []) :
    (stageLayer position variants).After frontier := by
  have facts : ∀ variant ∈ variants, ∃ task name env,
      frame.variant position frontier task name env = .ok variant := by
    intro variant member
    obtain ⟨task, _, _, env, index, _, given⟩ := exists_task_of_mem_stage planned member
    exact ⟨task, _, env, given⟩
  refine { occupied, tasks := ?_, starts := ?_, archivers := ?_, levels := ?_ }
  · intro variant member
    obtain ⟨task, name, env, given⟩ := facts variant member
    exact (variant_facts given).2.2.1
  · intro variant member other archives
    obtain ⟨task, name, env, given⟩ := facts variant member
    rw [(variant_facts given).1] at archives
    cases archives
  · intro variant member archiver archives
    obtain ⟨task, name, env, given⟩ := facts variant member
    obtain ⟨origin, named, _, archived⟩ := variant_facts given
    obtain ⟨_, archiverOrigin, archiverNamed, placed⟩ := archived archiver archives
    rw [← named] at archiverNamed placed
    exact ⟨⟨⟨position, origin, archiverOrigin⟩, archiverNamed⟩, placed⟩
  · intro planned member
    obtain ⟨variant, present, isNode⟩ := List.mem_flatMap.mp member
    obtain ⟨task, name, env, given⟩ := facts variant present
    obtain ⟨origin, _, _, archived⟩ := variant_facts given
    rcases mem_variant_nodes.mp isNode with rfl | archives
    · rw [origin]
      rfl
    · rw [(archived planned archives).2.1]
      rfl

theorem stages_layered {names : List String} {staged : List Planned} {last : List String}
    (planned : frame.stages position frontier names = .ok (staged, last)) :
    ∃ layers, Layered frontier layers last ∧ staged = layers.flatMap Layer.nodes ∧
      ∀ layer ∈ layers, ∃ later, position ≤ later ∧ layer.level = WithTop.some (later + 2) := by
  induction names generalizing position frontier staged with
  | nil =>
      cases planned
      exact ⟨[], .nil _, rfl, fun _ none => by cases none⟩
  | cons name rest ih =>
      obtain ⟨variants, later, stage, continued, rfl⟩ := stages_cons_ok.mp planned
      obtain ⟨layers, layered, rfl, levels⟩ := ih continued
      have deeper : ∀ layer ∈ layers, ∃ later, position + 1 ≤ later ∧
          layer.level = WithTop.some (later + 2) := levels
      by_cases empty : variants = []
      · -- A stage without variants leaves the frontier to its successor.
        subst empty
        refine ⟨layers, layered, rfl, ?_⟩
        intro layer member
        obtain ⟨later, bound, level⟩ := deeper layer member
        exact ⟨later, Nat.le_of_succ_le bound, level⟩
      · have exits : advance frontier variants = (stageLayer position variants).exits := by
          unfold advance
          rw [if_neg (by rwa [List.isEmpty_iff])]
          rfl
        rw [exits] at layered
        refine ⟨stageLayer position variants :: layers,
          .cons (stageLayer_after stage empty) ?_ layered, rfl, ?_⟩
        · intro layer member
          obtain ⟨later, bound, level⟩ := deeper layer member
          rw [level]
          exact WithTop.coe_lt_coe.mpr (by omega)
        · intro layer member
          rcases List.mem_cons.mp member with rfl | inRest
          · exact ⟨position, Nat.le_refl position, rfl⟩
          · obtain ⟨later, bound, level⟩ := deeper layer inRest
            exact ⟨later, Nat.le_of_succ_le bound, level⟩

theorem scripted_layered (frame : Frame) (origin : Origin)
    (alone : ∀ position, origin ≠ .archiver position) (name : String)
    (frontier lines : List String) :
    Layered frontier ((frame.scripted origin name frontier lines).map Layer.single)
      (if lines.isEmpty then frontier else [name]) := by
  cases lines with
  | nil => exact .nil frontier
  | cons line lines =>
      exact .single ⟨origin, scriptNode name frontier frame.env frame.pipeline.image _⟩ alone

theorem flatMap_single (planned : List Planned) :
    (planned.map Layer.single).flatMap Layer.nodes = planned := by
  induction planned with
  | nil => rfl
  | cons head tail ih => exact congrArg (head :: ·) ih

theorem level_of_scripted {origin : Origin} {name : String} {lines : List String} {layer : Layer}
    (member : layer ∈ (frame.scripted origin name frontier lines).map Layer.single) :
    layer.level = origin.level := by
  obtain ⟨planned, present, rfl⟩ := List.mem_map.mp member
  cases lines with
  | nil => cases present
  | cons line lines =>
      rw [List.mem_singleton.mp present]
      rfl

def root (frame : Frame) (source : Source) : Layer :=
  Layer.single ⟨.checkout, checkoutNode frame.env source⟩

/-- Up to the script after all stages, a plan is a sequence of layers that begins with the checkout
alone. -/
theorem staged_layered (source : Source) {staged : List Planned} {last : List String}
    (planned : frame.stages 0 frame.entry frame.pipeline.stages = .ok (staged, last)) :
    ∃ layers, Layered [] (frame.root source :: layers) last ∧
      ⟨.checkout, checkoutNode frame.env source⟩ ::
          frame.scripted .before beforeName [checkoutName] frame.pipeline.beforeScript ++ staged =
        (frame.root source :: layers).flatMap Layer.nodes ∧
      ∀ layer ∈ frame.root source :: layers, layer.level < Origin.after.level := by
  obtain ⟨layers, stagesLayered, rfl, levels⟩ := stages_layered planned
  let before := frame.scripted .before beforeName [checkoutName] frame.pipeline.beforeScript
  have beforeLayered : Layered [checkoutName] (before.map Layer.single) frame.entry :=
    scripted_layered frame .before (fun _ => Origin.noConfusion) beforeName [checkoutName]
      frame.pipeline.beforeScript
  have aboveBefore : ∀ earlier ∈ before.map Layer.single, ∀ later ∈ layers,
      earlier.level < later.level := by
    intro earlier inBefore later inLayers
    obtain ⟨position, _, level⟩ := levels later inLayers
    rw [level_of_scripted inBefore, level]
    exact WithTop.coe_lt_coe.mpr (Nat.succ_lt_succ (Nat.succ_pos position))
  have tail := beforeLayered.append stagesLayered aboveBefore
  refine ⟨_, .cons (Layer.single_after _ fun _ => Origin.noConfusion) ?_ tail, ?_, ?_⟩
  · intro later member
    change WithTop.some 0 < later.level
    rcases List.mem_append.mp member with inBefore | inLayers
    · rw [level_of_scripted inBefore]
      exact WithTop.coe_lt_coe.mpr Nat.zero_lt_one
    · obtain ⟨position, _, level⟩ := levels later inLayers
      rw [level]
      exact WithTop.coe_lt_coe.mpr (Nat.succ_pos _)
  · rw [List.flatMap_cons, List.flatMap_append, flatMap_single]
    rfl
  · intro layer member
    rcases List.mem_cons.mp member with rfl | rest
    · exact WithTop.coe_lt_top _
    · rcases List.mem_append.mp rest with inBefore | inLayers
      · rw [level_of_scripted inBefore]
        exact WithTop.coe_lt_top _
      · obtain ⟨position, _, level⟩ := levels layer inLayers
        rw [level]
        exact WithTop.coe_lt_top _

/-- A plan is a sequence of layers that begins with the checkout alone. -/
theorem nodes_layered {source : Source} {nodes : List Planned}
    (planned : frame.nodes source = .ok nodes) :
    ∃ layers last, Layered [] (frame.root source :: layers) last ∧
      nodes = (frame.root source :: layers).flatMap Layer.nodes := by
  obtain ⟨staged, last, given, rfl⟩ := nodes_ok.mp planned
  obtain ⟨layers, layered, same, belowAfter⟩ := staged_layered source given
  let after := frame.scripted .after afterName last frame.pipeline.afterScript
  have afterLayered := scripted_layered frame .after (fun _ => Origin.noConfusion) afterName last
    frame.pipeline.afterScript
  refine ⟨layers ++ after.map Layer.single, _, layered.append afterLayered ?_, ?_⟩
  · intro earlier inLayers later inAfter
    rw [level_of_scripted inAfter]
    exact belowAfter earlier inLayers
  · rw [same, ← List.cons_append, List.flatMap_append, flatMap_single]

end Frame

end StagedRuns.Plan
