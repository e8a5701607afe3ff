import StagedRuns.Proofs.Plan.Layers

/-!
What the nodes of a plan are called. The name of a node tells what it is there for as far as the
checkout and the scripts go: the names of the nodes of tasks have a part that theirs have not.
-/

namespace StagedRuns.Plan

open StagedRuns.Run (Variable)

namespace Frame

/-- Whether a task of the stage at a position is in the run and has a variant whose node has the
given name. -/
def Emits (frame : Frame) (position : Nat) (task : Task) (name : String) : Prop :=
  ∃ stage, frame.pipeline.stages[position]? = some stage ∧
    task ∈ frame.pipeline.tasksOf stage ∧ frame.excludes task = .ok false ∧
      ∃ index < (variantEnvs frame.env task.jobs).length, name = frame.nameOf stage task index

/-- Whether a node has the name that goes with what it is there for. -/
def Names (frame : Frame) (planned : Planned) : Prop :=
  match planned.origin with
  | .checkout => planned.node.name = checkoutName
  | .before => planned.node.name = beforeName
  | .task position => ∃ task, frame.Emits position task planned.node.name
  | .archiver position =>
      ∃ task name, frame.Emits position task name ∧ task.artifacts ≠ [] ∧
        planned.node.name = name ++ "-archiver"
  | .after => planned.node.name = afterName

variable {frame : Frame} {position : Nat} {frontier : List String}

theorem stage_names {name : String} {variants : List Variant}
    (planned : frame.stage position frontier name = .ok variants)
    (placed : frame.pipeline.stages[position]? = some name) :
    ∀ node ∈ variants.flatMap Variant.nodes, frame.Names node := by
  intro node member
  obtain ⟨variant, present, isNode⟩ := List.mem_flatMap.mp member
  obtain ⟨task, ofStage, kept, env, index, indexed, given⟩ :=
    exists_task_of_mem_stage planned present
  have bound : index < (variantEnvs frame.env task.jobs).length := by
    have within := (List.mem_zipIdx indexed).2.1
    omega
  have emits : frame.Emits position task (frame.nameOf name task index) :=
    ⟨name, placed, ofStage, kept, index, bound, rfl⟩
  obtain ⟨origin, named, _, archived⟩ := variant_facts given
  rcases mem_variant_nodes.mp isNode with rfl | archives
  · unfold Names
    rw [origin, named]
    exact ⟨task, emits⟩
  · obtain ⟨hasArtifacts, archiverOrigin, archiverNamed, _⟩ := archived node archives
    unfold Names
    rw [archiverOrigin, archiverNamed]
    exact ⟨task, _, emits, hasArtifacts, rfl⟩

theorem stages_names {names : List String} {staged : List Planned} {last : List String}
    (planned : frame.stages position frontier names = .ok (staged, last))
    (placed : names = frame.pipeline.stages.drop position) :
    ∀ node ∈ staged, frame.Names node := by
  induction names generalizing position frontier staged with
  | nil =>
      cases planned
      intro node none
      cases none
  | cons name rest ih =>
      obtain ⟨variants, later, stage, continued, rfl⟩ := stages_cons_ok.mp planned
      have head : frame.pipeline.stages[position]? = some name := by
        rw [← List.head?_drop, ← placed]
        rfl
      have tail : rest = frame.pipeline.stages.drop (position + 1) := by
        rw [← List.tail_drop, ← placed]
        rfl
      intro node member
      rcases List.mem_append.mp member with inStage | inLater
      · exact stage_names stage head node inStage
      · exact ih continued tail node inLater

theorem scripted_named {origin : Origin} {name : String} {lines : List String} {node : Planned}
    (member : node ∈ frame.scripted origin name frontier lines) :
    node.origin = origin ∧ node.node.name = name := by
  cases lines with
  | nil => cases member
  | cons line lines =>
      rw [List.mem_singleton.mp member]
      exact ⟨rfl, rfl⟩

theorem nodes_names {source : Source} {nodes : List Planned}
    (planned : frame.nodes source = .ok nodes) : ∀ node ∈ nodes, frame.Names node := by
  obtain ⟨staged, last, given, rfl⟩ := nodes_ok.mp planned
  intro node member
  rcases List.mem_append.mp member with front | inAfter
  · rcases List.mem_append.mp front with first | inStages
    · rcases List.mem_cons.mp first with rfl | inBefore
      · rfl
      · obtain ⟨origin, named⟩ := scripted_named inBefore
        unfold Names
        rw [origin]
        exact named
    · exact stages_names given List.drop_zero.symm node inStages
  · obtain ⟨origin, named⟩ := scripted_named inAfter
    unfold Names
    rw [origin]
    exact named

/-! ### The names of the checkout and the scripts -/

def ownName? : Origin → Option String
  | .checkout => some checkoutName
  | .before => some beforeName
  | .after => some afterName
  | _ => none

theorem ownName_injective {left right : Origin} {name : String}
    (ofLeft : ownName? left = some name) (ofRight : ownName? right = some name) : left = right := by
  have same := ofLeft.trans ofRight.symm
  clear ofRight
  cases left <;> cases right <;>
    simp_all [ownName?, checkoutName, beforeName, afterName]

theorem not_stage_infix_own {origin : Origin} {name : String} (own : ownName? origin = some name) :
    ¬ "-stage-".toList <:+: name.toList := by
  cases origin with
  | checkout | before | after =>
      cases own
      decide +kernel
  | task position | archiver position => cases own

theorem stage_infix_nameOf (stage : String) (task : Task) (index : Nat) :
    "-stage-".toList <:+: (frame.nameOf stage task index).toList := by
  have plain : "-stage-".toList <:+: (task.name ++ "-stage-" ++ stage).toList := by
    rw [String.toList_append, String.toList_append]
    exact List.infix_append _ _ _
  unfold nameOf variantName
  split
  · rw [String.toList_append, String.toList_append]
    exact (plain.trans (List.infix_append' [] _ _)).trans (List.infix_append' [] _ _)
  · exact plain

theorem Names.stage_infix {planned : Planned} (names : frame.Names planned)
    (staged : ownName? planned.origin = none) :
    "-stage-".toList <:+: planned.node.name.toList := by
  unfold Names at names
  cases origin : planned.origin with
  | task position =>
      rw [origin] at names
      obtain ⟨task, stage, _, _, _, index, _, named⟩ := names
      rw [named]
      exact stage_infix_nameOf stage task index
  | archiver position =>
      rw [origin] at names
      obtain ⟨task, name, ⟨stage, _, _, _, index, _, rfl⟩, _, named⟩ := names
      rw [named, String.toList_append]
      exact (stage_infix_nameOf stage task index).trans (List.infix_append' [] _ _)
  | checkout | before | after =>
      rw [origin] at staged
      cases staged

theorem Names.eq_own_iff {planned : Planned} (names : frame.Names planned) {origin : Origin}
    {name : String} (own : ownName? origin = some name) :
    planned.node.name = name ↔ planned.origin = origin := by
  cases staged : ownName? planned.origin with
  | none =>
      constructor
      · rintro rfl
        exact absurd (names.stage_infix staged) (not_stage_infix_own own)
      · intro same
        rw [same, own] at staged
        cases staged
  | some other =>
      have named : planned.node.name = other := by
        unfold Names at names
        cases found : planned.origin with
        | checkout | before | after =>
            rw [found] at names staged
            cases staged
            exact names
        | task position | archiver position =>
            rw [found] at staged
            cases staged
      constructor
      · intro same
        exact ownName_injective (by rw [staged, ← named, same]) own
      · rintro rfl
        rw [named]
        exact Option.some.inj (staged.symm.trans own)

end Frame

end StagedRuns.Plan
