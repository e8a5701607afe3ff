import Mathlib.Data.List.Lattice
import Mathlib.Data.List.Nodup
import Mathlib.Data.List.Pairwise
import StagedRuns.Pipeline.Read
import StagedRuns.Proofs.Plan.Names
import StagedRuns.Proofs.Plan.Order

/-!
When the nodes of a run have different names. The names are joined from the names of tasks and
stages, so two tasks may get the same one, and a stage that is listed twice gives every name twice.
Nothing else makes names coincide.
-/

namespace StagedRuns

namespace Plan

def variantLabel (count index : Nat) : String :=
  if 1 < count then "-" ++ toString index else ""

theorem variantName_eq (task stage : String) (count index : Nat) :
    variantName task stage count index =
      task ++ ("-stage-" ++ (stage ++ variantLabel count index)) := by
  unfold variantName variantLabel
  split
  · simp only [String.append_assoc]
  · simp only [String.append_empty, String.append_assoc]

end Plan

namespace Task

open Plan (variantLabel)

def variantCount (task : Task) : Nat :=
  if task.jobs.isEmpty then 1 else task.jobs.length

/-- What tells the nodes of a variant from all other nodes of the task. -/
def labelsAt (task : Task) (index : Nat) : List String :=
  let label := variantLabel task.variantCount index
  if task.artifacts.isEmpty then [label] else [label, label ++ "-archiver"]

def nodeName (task : Task) (label : String) : String :=
  task.name ++ ("-stage-" ++ (task.stage ++ label))

def nodeNames (task : Task) : List String :=
  (List.range task.variantCount).flatMap fun index => (task.labelsAt index).map task.nodeName

theorem nodeName_injective (task : Task) {first second : String}
    (same : task.nodeName first = task.nodeName second) : first = second := by
  unfold nodeName at same
  rwa [String.append_right_inj, String.append_right_inj, String.append_right_inj] at same

theorem nodeNames_ne_nil (task : Task) : task.nodeNames ≠ [] := by
  have some : 0 < task.variantCount := by
    unfold variantCount
    split
    · exact Nat.zero_lt_one
    · rename_i occupied
      rw [List.isEmpty_iff] at occupied
      exact List.length_pos_iff.mpr occupied
  have first : variantLabel task.variantCount 0 ∈ task.labelsAt 0 := by
    unfold labelsAt
    dsimp only
    split <;> exact List.mem_cons_self
  exact List.ne_nil_of_mem
    (List.mem_flatMap.mpr ⟨0, List.mem_range.mpr some, List.mem_map_of_mem first⟩)

/-! ### The nodes of one task -/

theorem archiver_ne_label {count first second : Nat} (several : 1 < count) :
    variantLabel count first ++ "-archiver" ≠ variantLabel count second := by
  intro same
  unfold variantLabel at same
  rw [if_pos several, if_pos several, String.append_assoc, String.append_right_inj] at same
  have texts := congrArg String.toList same
  simp only [String.toList_append, Nat.toString_eq_ofList_toDigits, String.toList_ofList] at texts
  have dash : '-' ∈ Nat.toDigits 10 second := by
    rw [← texts]
    exact List.mem_append_right _ (by decide)
  have digit := Nat.isDigit_of_mem_toDigits (by decide) (by decide) dash
  exact absurd digit (by decide)

theorem label_injective {count first second : Nat} (several : 1 < count)
    (same : variantLabel count first = variantLabel count second) : first = second := by
  unfold variantLabel at same
  rw [if_pos several, if_pos several, String.append_right_inj] at same
  have digits : Nat.toDigits 10 first = Nat.toDigits 10 second := by
    have texts := congrArg String.toList same
    simpa only [Nat.toString_eq_ofList_toDigits, String.toList_ofList] using texts
  calc
    first = Nat.ofDigitChars 10 (Nat.toDigits 10 first) 0 := Nat.ofDigitChars_ten_toDigits.symm
    _ = Nat.ofDigitChars 10 (Nat.toDigits 10 second) 0 := by rw [digits]
    _ = second := Nat.ofDigitChars_ten_toDigits

theorem labelsAt_nodup (task : Task) (index : Nat) : (task.labelsAt index).Nodup := by
  unfold labelsAt
  dsimp only
  split
  · exact List.nodup_singleton _
  · rw [List.nodup_cons, List.mem_singleton]
    refine ⟨?_, List.nodup_singleton _⟩
    intro same
    have lengths := congrArg String.length same
    rw [String.length_append] at lengths
    have long : "-archiver".length = 9 := by decide
    omega

theorem labelsAt_disjoint {task : Task} {first second : Nat} (several : 1 < task.variantCount)
    (unequal : first ≠ second) : (task.labelsAt first).Disjoint (task.labelsAt second) := by
  have different : variantLabel task.variantCount first ≠
      variantLabel task.variantCount second :=
    fun same => unequal (label_injective several same)
  rw [List.disjoint_left]
  unfold labelsAt
  dsimp only
  intro label inFirst inSecond
  split at inFirst
  · rw [if_pos (by assumption)] at inSecond
    rw [List.mem_singleton] at inFirst inSecond
    exact different (inFirst.symm.trans inSecond)
  · rw [if_neg (by assumption)] at inSecond
    simp only [List.mem_cons, List.not_mem_nil, or_false] at inFirst inSecond
    rcases inFirst with rfl | rfl
    · rcases inSecond with same | same
      · exact different same
      · exact archiver_ne_label several same.symm
    · rcases inSecond with same | same
      · exact archiver_ne_label several same
      · exact different ((String.append_left_inj _).mp same)

theorem nodeNames_nodup (task : Task) : task.nodeNames.Nodup := by
  unfold nodeNames
  rw [List.nodup_flatMap]
  constructor
  · intro index _
    exact (task.labelsAt_nodup index).map fun _ _ => task.nodeName_injective
  · refine List.Pairwise.imp_of_mem ?_ List.pairwise_lt_range
    intro first second _ inRange below
    have several : 1 < task.variantCount := by
      have bound := List.mem_range.mp inRange
      omega
    have labels := labelsAt_disjoint several (Nat.ne_of_lt below)
    exact labels.map fun _ _ => task.nodeName_injective

/-! ### The nodes of two tasks -/

theorem exists_label {task : Task} {name : String} (member : name ∈ task.nodeNames) :
    ∃ label, name = task.nodeName label := by
  obtain ⟨index, _, named⟩ := List.mem_flatMap.mp member
  obtain ⟨label, _, same⟩ := List.mem_map.mp named
  exact ⟨label, same.symm⟩

theorem prefix_nodeName (task : Task) (label : String) :
    task.name.toList <+: (task.nodeName label).toList := by
  unfold nodeName
  rw [String.toList_append]
  exact List.prefix_append _ _

theorem stage_prefix_of_append_eq {front first second : List Char} (occupied : front ≠ [])
    (same : "-stage-".toList ++ first = front ++ ("-stage-".toList ++ second)) :
    "-stage".toList <+: front := by
  change '-' :: 's' :: 't' :: 'a' :: 'g' :: 'e' :: '-' :: first =
    front ++ ('-' :: 's' :: 't' :: 'a' :: 'g' :: 'e' :: '-' :: second) at same
  change ['-', 's', 't', 'a', 'g', 'e'] <+: front
  -- A front of fewer than six characters would put a dash under another letter.
  match front, occupied with
  | [_], _ | [_, _], _ | [_, _, _], _ | [_, _, _, _], _ | [_, _, _, _, _], _ =>
      simp at same
  | _ :: _ :: _ :: _ :: _ :: _ :: rest, _ =>
      simp only [List.cons_append, List.cons.injEq] at same
      obtain ⟨rfl, rfl, rfl, rfl, rfl, rfl, _⟩ := same
      exact ⟨rest, rfl⟩

/-- If two tasks share a node name, the longer of their names goes on with `-stage` after the
shorter one. -/
theorem stage_prefix_name {shorter longer : Task} {label other : String}
    (different : shorter.name ≠ longer.name) (begins : shorter.name.toList <+: longer.name.toList)
    (same : shorter.nodeName label = longer.nodeName other) :
    (shorter.name ++ "-stage").toList <+: longer.name.toList := by
  obtain ⟨back, split⟩ := begins
  have texts := congrArg String.toList same
  simp only [nodeName, String.toList_append] at texts
  rw [← split, List.append_assoc, List.append_cancel_left_eq] at texts
  have occupied : back ≠ [] := by
    rintro rfl
    rw [List.append_nil] at split
    exact different (String.toList_inj.mp split)
  rw [String.toList_append, ← split, List.prefix_append_right_inj]
  exact stage_prefix_of_append_eq occupied texts

theorem disjoint_nodeNames {first second : Task} (different : first.name ≠ second.name)
    (apart : ¬ (first.name ++ "-stage").toList <+: second.name.toList)
    (apartBack : ¬ (second.name ++ "-stage").toList <+: first.name.toList) :
    first.nodeNames.Disjoint second.nodeNames := by
  rw [List.disjoint_left]
  intro name inFirst inSecond
  obtain ⟨label, rfl⟩ := exists_label inFirst
  obtain ⟨other, same⟩ := exists_label inSecond
  have begins := prefix_nodeName first label
  have beginsSecond := prefix_nodeName second other
  rw [← same] at beginsSecond
  rcases List.prefix_or_prefix_of_prefix begins beginsSecond with shorter | shorter
  · exact apart (stage_prefix_name different shorter same)
  · exact apartBack (stage_prefix_name different.symm shorter same.symm)

end Task

namespace Plan.Frame

open StagedRuns.Run (Node Ordered)

variable {frame : Frame} {position : Nat} {frontier : List String}

def keeps (frame : Frame) (task : Task) : Bool :=
  match frame.excludes task with
  | .ok excluded => !excluded
  | .error _ => false

def kept (frame : Frame) (stage : String) : List Task :=
  (frame.pipeline.tasksOf stage).filter frame.keeps

/-- Whether the tasks in the run give different names to their nodes. -/
structure Unambiguous (frame : Frame) : Prop where
  stages : frame.pipeline.stages.Pairwise fun earlier later =>
    earlier = later → frame.kept earlier = []
  tasks : frame.pipeline.tasks.Pairwise fun first second =>
    first.stage ∈ frame.pipeline.stages → frame.keeps first →
      second.stage ∈ frame.pipeline.stages → frame.keeps second →
        first.nodeNames.Disjoint second.nodeNames

def stageNames (frame : Frame) (stage : String) : List String :=
  (frame.kept stage).flatMap Task.nodeNames

theorem mem_kept {stage : String} {task : Task} :
    task ∈ frame.kept stage ↔
      task ∈ frame.pipeline.tasks ∧ task.stage = stage ∧ frame.keeps task := by
  unfold kept Pipeline.tasksOf
  rw [List.mem_filter, List.mem_filter, decide_eq_true_eq, and_assoc]

theorem mem_stageNames {stage name : String} :
    name ∈ frame.stageNames stage ↔
      ∃ task ∈ frame.pipeline.tasks, task.stage = stage ∧ frame.keeps task ∧
        name ∈ task.nodeNames := by
  unfold stageNames
  rw [List.mem_flatMap]
  constructor
  · rintro ⟨task, ofStage, named⟩
    obtain ⟨member, staged, keeps⟩ := mem_kept.mp ofStage
    exact ⟨task, member, staged, keeps, named⟩
  · rintro ⟨task, member, staged, keeps, named⟩
    exact ⟨task, mem_kept.mpr ⟨member, staged, keeps⟩, named⟩

theorem stageNames_nodup_iff {stage : String} :
    (frame.stageNames stage).Nodup ↔
      frame.pipeline.tasks.Pairwise fun first second =>
        first.stage = stage → frame.keeps first → second.stage = stage → frame.keeps second →
          first.nodeNames.Disjoint second.nodeNames := by
  unfold stageNames kept Pipeline.tasksOf
  rw [List.nodup_flatMap, List.pairwise_filter, List.pairwise_filter]
  constructor
  · rintro ⟨_, apart⟩
    refine apart.imp ?_
    intro first second apart firstHere firstKeeps secondHere secondKeeps
    exact apart (decide_eq_true firstHere) (decide_eq_true secondHere) firstKeeps secondKeeps
  · intro apart
    refine ⟨fun task _ => task.nodeNames_nodup, apart.imp ?_⟩
    intro first second apart firstHere secondHere firstKeeps secondKeeps
    exact apart (of_decide_eq_true firstHere) firstKeeps (of_decide_eq_true secondHere)
      secondKeeps

/-! ### The names of all nodes -/

theorem variantEnvs_length (base : List Run.Variable) (task : Task) :
    (variantEnvs base task.jobs).length = task.variantCount := by
  unfold variantEnvs Task.variantCount
  split
  · rfl
  · exact List.length_map _

theorem nameOf_eq (task : Task) (index : Nat) :
    frame.nameOf task.stage task index =
      task.nodeName (variantLabel task.variantCount index) := by
  rw [nameOf, variantName_eq, variantEnvs_length, Task.nodeName]

theorem variant_names {task : Task} {index : Nat} {env : List Run.Variable} {variant : Variant}
    (planned : frame.variant position frontier task (frame.nameOf task.stage task index) env =
      .ok variant) :
    variant.nodes.map (·.node.name) = (task.labelsAt index).map task.nodeName := by
  obtain ⟨node, given, rfl⟩ := variant_ok.mp planned
  have named := (taskNode_ok given).1
  rw [nameOf_eq] at named
  unfold Variant.nodes Task.labelsAt
  cases artifacts : task.artifacts with
  | nil => exact congrArg (fun name => [name]) named
  | cons path paths =>
      have archived : frame.nameOf task.stage task index ++ "-archiver" =
          task.nodeName (variantLabel task.variantCount index ++ "-archiver") := by
        rw [nameOf_eq]
        simp only [Task.nodeName, String.append_assoc]
      exact congrArg₂ (fun first second => [first, second]) named archived

/-- The nodes of a task in the run have the names of the task, and a task that is not has none. -/
theorem variants_names {task : Task} {variants : List Variant}
    (planned : frame.variants position frontier task.stage task = .ok variants) :
    (variants.flatMap Variant.nodes).map (·.node.name) =
      if frame.keeps task then task.nodeNames else [] := by
  rcases variants_ok planned with ⟨excluded, rfl⟩ | ⟨stays, planned⟩
  · rw [keeps, excluded]
    rfl
  · rw [keeps, stays]
    have joined : variants.flatMap (fun variant => variant.nodes.map (·.node.name)) =
        (variantEnvs frame.env task.jobs).zipIdx.flatMap fun indexed =>
          (task.labelsAt indexed.2).map task.nodeName :=
      Result.flatMap_of_mapM (fun _ _ _ given => variant_names given) planned
    calc (variants.flatMap Variant.nodes).map (·.node.name)
        = (variantEnvs frame.env task.jobs).zipIdx.flatMap fun indexed =>
            (task.labelsAt indexed.2).map task.nodeName := by
          rw [List.map_flatMap, joined]
      _ = task.nodeNames := by
          rw [Task.nodeNames, ← variantEnvs_length frame.env task, List.range_eq_range',
            ← List.zipIdx_map_snd, List.flatMap_map]

theorem stage_nodeNames {stage : String} {variants : List Variant}
    (planned : frame.stage position frontier stage = .ok variants) :
    (variants.flatMap Variant.nodes).map (·.node.name) = frame.stageNames stage := by
  obtain ⟨groups, grouped, rfl⟩ := stage_ok.mp planned
  have joined : groups.flatMap (fun group => (group.flatMap Variant.nodes).map (·.node.name)) =
      (frame.pipeline.tasksOf stage).flatMap fun task =>
        if frame.keeps task then task.nodeNames else [] := by
    refine Result.flatMap_of_mapM (fun task member group given => ?_) grouped
    obtain rfl := Pipeline.stage_of_mem_tasksOf member
    exact variants_names given
  rw [stageNames, kept, Result.flatMap_filter, ← joined, List.flatten_eq_flatMap, List.flatMap_assoc,
    List.map_flatMap]
  rfl

theorem stages_nodeNames {names : List String} {staged : List Planned} {last : List String}
    (planned : frame.stages position frontier names = .ok (staged, last)) :
    staged.map (·.node.name) =
      names.flatMap frame.stageNames := by
  induction names generalizing position frontier staged with
  | nil =>
      cases planned
      rfl
  | cons name rest ih =>
      obtain ⟨variants, later, stage, continued, rfl⟩ := stages_cons_ok.mp planned
      rw [List.map_append, stage_nodeNames stage, ih continued, List.flatMap_cons]

/-! ### Different names -/

theorem stage_infix_nodeNames {task : Task} {name : String} (member : name ∈ task.nodeNames) :
    "-stage-".toList <:+: name.toList := by
  obtain ⟨label, rfl⟩ := Task.exists_label member
  unfold Task.nodeName
  rw [String.toList_append, String.toList_append, ← List.append_assoc]
  exact List.infix_append _ _ _

theorem scripted_names (origin : Origin) (name : String) (frontier lines : List String) :
    (frame.scripted origin name frontier lines).map (·.node.name) =
      if lines.isEmpty then [] else [name] := by
  cases lines <;> rfl

theorem nodup_between {front middle back : List String} (outer : (front ++ back).Nodup)
    (foreign : ∀ name ∈ front ++ back, name ∉ middle) :
    (front ++ middle ++ back).Nodup ↔ middle.Nodup := by
  have swapped : (front ++ middle ++ back).Nodup ↔ ((front ++ back) ++ middle).Nodup := by
    refine List.Perm.nodup_iff ?_
    rw [List.append_assoc, List.append_assoc]
    exact List.perm_append_comm.append_left front
  rw [swapped, List.nodup_append']
  constructor
  · intro distinct
    exact distinct.2.1
  · intro distinct
    exact ⟨outer, distinct, List.disjoint_left.mpr foreign⟩

/-- The checkout and the scripts share no name with one another or with a task, so the names of a
plan differ if those of its tasks do. -/
theorem nodes_nodup_iff {source : Source} {nodes : List Planned}
    (planned : frame.nodes source = .ok nodes) :
    (nodes.map (·.node.name)).Nodup ↔
      (frame.pipeline.stages.flatMap frame.stageNames).Nodup := by
  obtain ⟨staged, last, given, rfl⟩ := nodes_ok.mp planned
  rw [← stages_nodeNames given, List.map_append, List.map_append, List.map_cons, scripted_names,
    scripted_names]
  have foreign : ∀ (origin : Origin) {name : String}, ownName? origin = some name →
      name ∉ staged.map (·.node.name) := by
    intro origin name own member
    rw [stages_nodeNames given] at member
    obtain ⟨stage, _, ofStage⟩ := List.mem_flatMap.mp member
    obtain ⟨task, _, _, _, ofTask⟩ := mem_stageNames.mp ofStage
    exact not_stage_infix_own own (stage_infix_nodeNames ofTask)
  have listed : [checkoutName, beforeName, afterName].Nodup := by decide
  have sublist : (checkoutName ::
      (if frame.pipeline.beforeScript.isEmpty then [] else [beforeName]) ++
        if frame.pipeline.afterScript.isEmpty then [] else [afterName]).Sublist
      [checkoutName, beforeName, afterName] := by
    split <;> split <;> decide
  refine nodup_between (listed.sublist sublist) ?_
  intro name member
  have own := sublist.subset member
  simp only [List.mem_cons, List.not_mem_nil, or_false] at own
  rcases own with rfl | rfl | rfl
  · exact foreign .checkout rfl
  · exact foreign .before rfl
  · exact foreign .after rfl

/-- Different names leave no two tasks with a common one, and no stage that gives its names
twice. -/
theorem unambiguous_of_nodup (distinct : (frame.pipeline.stages.flatMap frame.stageNames).Nodup) :
    frame.Unambiguous := by
  obtain ⟨within, across⟩ := List.nodup_flatMap.mp distinct
  refine ⟨?_, ?_⟩
  · refine across.imp ?_
    rintro earlier later disjoint rfl
    by_contra occupied
    obtain ⟨task, member⟩ := List.exists_mem_of_ne_nil _ occupied
    obtain ⟨name, named⟩ := List.exists_mem_of_ne_nil _ task.nodeNames_ne_nil
    have ofStage : name ∈ frame.stageNames earlier := List.mem_flatMap.mpr ⟨task, member, named⟩
    exact List.disjoint_left.mp disjoint ofStage ofStage
  · rw [List.pairwise_iff_forall_sublist]
    intro first second inOrder firstListed firstKeeps secondListed secondKeeps
    by_cases same : first.stage = second.stage
    · have apart := stageNames_nodup_iff.mp (within _ firstListed)
      exact List.pairwise_iff_forall_sublist.mp apart inOrder rfl firstKeeps same.symm secondKeeps
    · have symmetric : Std.Symm (Function.onFun List.Disjoint frame.stageNames) :=
        ⟨fun _ _ disjoint => List.Disjoint.symm disjoint⟩
      have disjoint := across.forall firstListed secondListed same
      have firstMember := inOrder.subset List.mem_cons_self
      have secondMember := inOrder.subset (List.mem_cons_of_mem _ List.mem_cons_self)
      rw [List.disjoint_left]
      intro name inFirst inSecond
      exact List.disjoint_left.mp disjoint
        (mem_stageNames.mpr ⟨first, firstMember, rfl, firstKeeps, inFirst⟩)
        (mem_stageNames.mpr ⟨second, secondMember, rfl, secondKeeps, inSecond⟩)

theorem nodup_of_unambiguous (unambiguous : frame.Unambiguous) :
    (frame.pipeline.stages.flatMap frame.stageNames).Nodup := by
  obtain ⟨stages, tasks⟩ := unambiguous
  rw [List.nodup_flatMap]
  constructor
  · intro stage listed
    refine stageNames_nodup_iff.mpr (tasks.imp ?_)
    intro first second apart firstHere firstKeeps secondHere secondKeeps
    exact apart (firstHere ▸ listed) firstKeeps (secondHere ▸ listed) secondKeeps
  · refine stages.imp_of_mem ?_
    intro earlier later earlierListed laterListed once
    change (frame.stageNames earlier).Disjoint (frame.stageNames later)
    rw [List.disjoint_left]
    intro name inEarlier inLater
    obtain ⟨first, firstMember, rfl, firstKeeps, inFirst⟩ := mem_stageNames.mp inEarlier
    obtain ⟨second, secondMember, rfl, secondKeeps, inSecond⟩ := mem_stageNames.mp inLater
    by_cases same : first.stage = second.stage
    · have member := mem_kept.mpr ⟨firstMember, rfl, firstKeeps⟩
      rw [once same] at member
      cases member
    · have symmetric : Std.Symm fun first second : Task =>
          first.stage ∈ frame.pipeline.stages → frame.keeps first →
            second.stage ∈ frame.pipeline.stages → frame.keeps second →
              first.nodeNames.Disjoint second.nodeNames :=
        ⟨fun _ _ apart listed keeps otherListed otherKeeps =>
          (apart otherListed otherKeeps listed keeps).symm⟩
      have different : first ≠ second := fun equal => same (congrArg Task.stage equal)
      have disjoint := tasks.forall firstMember secondMember different earlierListed firstKeeps
        laterListed secondKeeps
      exact List.disjoint_left.mp disjoint inFirst inSecond

theorem unambiguous_of_names (stages : frame.pipeline.stages.Nodup)
    (names : (frame.pipeline.tasks.map Task.name).Nodup)
    (apart : ∀ first ∈ frame.pipeline.tasks, ∀ second ∈ frame.pipeline.tasks,
      ¬ (first.name ++ "-stage").toList <+: second.name.toList) : frame.Unambiguous := by
  refine ⟨?_, ?_⟩
  · refine stages.imp ?_
    intro earlier later different same
    exact absurd same different
  · refine (List.pairwise_map.mp names).imp_of_mem ?_
    intro first second firstMember secondMember different _ _ _ _
    exact Task.disjoint_nodeNames different (apart first firstMember second secondMember)
      (apart second secondMember first firstMember)

end Plan.Frame

/-- The nodes of a run have different names, and none of them waits for its own name, exactly if
no stage with tasks in the run is listed twice and no two tasks in the run have a node name in
common. So it is if all stages are listed once, all tasks have different names, and no task is
named as another one with `-stage` and perhaps more after it. -/
theorem Pipeline.names_nodup_iff {pipeline : Pipeline} {settings : Settings} {source : Source}
    {claim : String} {context : Option Webhook.Context} {hookId : String} {run : Run}
    (planned : pipeline.plan settings source claim context hookId = .ok run) :
    (((run.spec.graph.nodes.map Run.Node.name).Nodup ∧
        ∀ node ∈ run.spec.graph.nodes, node.name ∉ node.runAfter) ↔
      Plan.Frame.Unambiguous ⟨pipeline, settings, context⟩) ∧
    (pipeline.stages.Nodup → (pipeline.tasks.map Task.name).Nodup →
      (∀ first ∈ pipeline.tasks, ∀ second ∈ pipeline.tasks,
        ¬ (first.name ++ "-stage").toList <+: second.name.toList) →
      Plan.Frame.Unambiguous ⟨pipeline, settings, context⟩) := by
  obtain ⟨nodes, given, same⟩ := Pipeline.plan_ok planned
  have names : run.spec.graph.nodes.map Run.Node.name = nodes.map (·.node.name) := by
    rw [same, List.map_map]
    rfl
  refine ⟨?_, @Plan.Frame.unambiguous_of_names ⟨pipeline, settings, context⟩⟩
  rw [names, Plan.Frame.nodes_nodup_iff given]
  constructor
  · rintro ⟨distinct, _⟩
    exact Plan.Frame.unambiguous_of_nodup distinct
  · intro unambiguous
    have distinct := Plan.Frame.nodup_of_unambiguous unambiguous
    refine ⟨distinct, ?_⟩
    obtain ⟨rest, split, ordered⟩ := Plan.Frame.nodes_ordered given
    have all := (Plan.Frame.nodes_nodup_iff given).mpr distinct
    rw [← names, same, split] at all
    rw [same, split]
    intro node member
    rcases List.mem_cons.mp member with rfl | inRest
    · exact List.not_mem_nil
    · exact ordered.name_notMem_runAfter all node inRest

theorem Pipeline.samplePlan_unambiguous :
    ∃ run, Pipeline.samplePlan = .ok run ∧
      (run.spec.graph.nodes.map Run.Node.name).Nodup ∧
      ∀ node ∈ run.spec.graph.nodes, node.name ∉ node.runAfter := by
  have planned : Pipeline.samplePlan = .ok _ := rfl
  have names := Pipeline.names_nodup_iff planned
  have unambiguous := names.2 (by decide) (by decide) (by decide +kernel)
  exact ⟨_, planned, names.1.mpr unambiguous⟩

def Pipeline.repeatedStage : String :=
  "stages: [test, test]\nlint:\n  stage: test\n  script:\n    - make lint\n"

/-- Listed twice, a stage makes two nodes of one name, the second of which waits for itself. -/
theorem Pipeline.repeatedStage_waits :
    ∃ pipeline run, Pipeline.read Pipeline.repeatedStage = .ok pipeline ∧
      pipeline.plan
        { archiverImage := "", archiveUrl := "", runPrefix := "", serviceAccount := ""
          volumeSize := "" }
        { repoUrl := "https://github.com/example/repo.git", gitRef := "main" } "claim" none "hook" =
          .ok run ∧
      ¬ (run.spec.graph.nodes.map Run.Node.name).Nodup ∧
      ∃ node ∈ run.spec.graph.nodes, node.name ∈ node.runAfter := by
  let pipeline : Pipeline :=
    { Pipeline.empty with
      stages := ["test", "test"]
      tasks :=
        [ { name := "lint", stage := "test", script := ["make lint"], rules := []
            artifacts := [], options := none } ] }
  have read : Pipeline.read Pipeline.repeatedStage = .ok pipeline := by decide +kernel
  refine ⟨pipeline, _, read, rfl, ?_, ?_⟩
  · decide
  · decide

end StagedRuns
