import Mathlib.Data.List.Induction
import Mathlib.Data.List.TakeWhile
import StagedRuns.Pipeline.Read
import StagedRuns.Proofs.Dictionary
import StagedRuns.Proofs.Yaml.Reading

/-!
What the pipelines that are read have in common: they have stages, and their tasks are named after
the keys of the document and passed all checks. Two tasks have one name exactly if two keys of the
document differ in nothing but a tag.
-/

namespace StagedRuns

open StagedRuns.Yaml (Value)

/-! ### Tasks -/

structure TaskOptions.Valid (options : TaskOptions) : Prop where
  parameters : ∀ parameter ∈ options.parameters,
    parameter.name ≠ "" ∧ parameter.expression ≠ ""
  jobs : ∀ job ∈ options.jobs, ∃ key value,
    job.toList = [(key, value)] ∧ '=' ∉ key.toList ∧ '=' ∉ value.toList

/-- What the checks of a task leave. -/
structure Task.Valid (task : Task) : Prop where
  staged : task.stage ≠ ""
  notBoth : task.script = [] ∨ task.taskRef? = none
  equipped : task.script = [] → task.options.isSome
  options : ∀ options ∈ task.options, options.Valid

theorem jobOf_ok {task entry : String} {job : Dictionary String}
    (done : jobOf task entry = .ok job) :
    ∃ key value, job.toList = [(key, value)] ∧ '=' ∉ key.toList ∧ '=' ∉ value.toList := by
  unfold jobOf at done
  dsimp only at done
  split at done
  · rename_i value _
    split at done
    · cases done
    · rename_i single
      cases done
      refine ⟨_, _, rfl, ?_, ?_⟩
      · rw [String.toList_ofList]
        intro member
        simpa using List.mem_takeWhile_imp member
      · rw [String.toList_ofList]
        simpa using single
  · cases done

theorem checkParameter_ok {task : String} {written parameter : Parameter}
    (done : checkParameter task written = .ok parameter) :
    parameter.name ≠ "" ∧ parameter.expression ≠ "" := by
  unfold checkParameter at done
  split at done
  · cases done
  · rename_i filled
    cases done
    exact not_or.mp filled

theorem WrittenOptions.check_ok {task : String} {written : WrittenOptions}
    {options : TaskOptions} (done : written.check task = .ok options) : options.Valid := by
  obtain ⟨jobs, jobsDone, done⟩ := Result.bind_eq_ok.mp done
  obtain ⟨parameters, parametersDone, done⟩ := Result.bind_eq_ok.mp done
  cases done
  refine ⟨?_, ?_⟩
  · intro parameter member
    obtain ⟨_, _, done⟩ := Result.exists_of_mem_mapM parametersDone member
    exact checkParameter_ok done
  · intro job member
    obtain ⟨_, _, done⟩ := Result.exists_of_mem_mapM jobsDone member
    exact jobOf_ok done

theorem present?_ne_blank {text : Option String} {content : String}
    (found : present? text = some content) : content ≠ "" := by
  obtain ⟨_, filled⟩ := Option.filter_eq_some_iff.mp found
  simpa using filled

theorem stage_ne_blank (stage : Option String) : (present? stage).getD defaultStage ≠ "" := by
  cases found : present? stage with
  | none => decide
  | some content => exact present?_ne_blank found

theorem WrittenTask.check_ok {name : String} {written : WrittenTask} {task : Task}
    (done : written.check name = .ok task) : task.name = name ∧ task.Valid := by
  obtain ⟨options, optionsDone, done⟩ := Result.bind_eq_ok.mp done
  have valid : ∀ given ∈ options, given.Valid := by
    intro given member
    cases isGiven : written.options with
    | none =>
        rw [isGiven] at optionsDone
        cases optionsDone
        cases member
    | some other =>
        rw [isGiven] at optionsDone
        obtain ⟨checked, checkedDone, same⟩ := Result.bind_eq_ok.mp optionsDone
        cases same
        cases member
        exact WrittenOptions.check_ok checkedDone
  dsimp only at done
  split at done
  · cases done
  · rename_i supplied
    split at done
    · cases done
    · rename_i notBoth
      cases done
      refine ⟨rfl, stage_ne_blank written.stage, ?_, ?_, valid⟩
      · by_cases empty : written.script = []
        · exact .inl empty
        · refine .inr (Option.not_isSome_iff_eq_none.mp fun referred => notBoth ?_)
          rw [Bool.and_eq_true, Bool.not_eq_true', List.isEmpty_eq_false_iff]
          exact ⟨empty, referred⟩
      · intro empty
        refine Option.isSome_iff_ne_none.mpr fun absent => supplied ?_
        rw [Bool.and_eq_true, List.isEmpty_iff, Option.isNone_iff_eq_none]
        exact ⟨empty, absent⟩

theorem Task.read_ok {name : String} {value : Value} {task : Task}
    (done : Task.read name value = .ok task) : task.name = name ∧ task.Valid := by
  unfold Task.read at done
  split at done
  · exact WrittenTask.check_ok done
  · cases done

/-! ### Stages -/

theorem eraseDups_concat (before : List String) (stage : String) :
    (before ++ [stage]).eraseDups =
      if before.eraseDups.contains stage then before.eraseDups
      else before.eraseDups ++ [stage] := by
  have seen : before.eraseDups.contains stage = before.contains stage := by
    rw [Bool.eq_iff_iff, List.contains_iff_mem, List.contains_iff_mem, List.mem_eraseDups]
  rw [List.eraseDups_append, List.removeAll, List.filter_cons, List.filter_nil,
    List.elem_eq_contains, seen]
  cases before.contains stage with
  | true => exact List.append_nil _
  | false => rfl

theorem implicitStages_eq (pipeline : Pipeline) :
    pipeline.implicitStages = (pipeline.tasks.map Task.stage).eraseDups := by
  unfold Pipeline.implicitStages
  generalize pipeline.tasks.map Task.stage = stages
  induction stages using List.reverseRecOn with
  | nil => rfl
  | append_singleton before stage ih =>
      rw [List.foldl_append, ih, List.foldl_cons, List.foldl_nil, eraseDups_concat]

theorem nodup_eraseDups (stages : List String) : stages.eraseDups.Nodup := by
  induction stages using List.reverseRecOn with
  | nil => exact List.nodup_nil
  | append_singleton before stage ih =>
      rw [eraseDups_concat]
      split
      · exact ih
      · rename_i unseen
        refine List.nodup_append.mpr ⟨ih, List.pairwise_singleton _ stage, ?_⟩
        rintro earlier member later isStage rfl
        cases List.mem_singleton.mp isStage
        exact unseen (List.contains_iff_mem.mpr member)

/-! ### Entries -/

namespace Pipeline

/-- The keys of a document that are about the pipeline. Every other key names a task. -/
def reservedKeys : List String :=
  ["image", "variables", "before_script", "after_script", "stages", "tekton"]

def Unlisted (value : Value) : Prop :=
  value.untagged = .null ∨ value.untagged = .sequence []

theorem decodeTexts_unlisted {value : Value} (unlisted : Unlisted value) :
    decodeTexts value = .ok [] := by
  change Yaml.listOf Value.asText value = .ok []
  unfold Yaml.listOf
  rcases unlisted with null | nothing
  · rw [null]
  · rw [nothing]
    rfl

theorem decoded_ok {α : Type} {result : Except Yaml.Problem α} {value : α}
    (done : decoded result = .ok value) : result = .ok value := by
  cases result with
  | error problem => cases done
  | ok other =>
      cases done
      rfl

/-- What an entry adds to a pipeline: a task, or something else, and stages under their key only. -/
theorem addEntry_ok {before after : Pipeline} {entry : Value × Value}
    (done : before.addEntry entry = .ok after) :
    ∃ key, entry.1.asText = .ok key ∧
      ((key ∈ reservedKeys ∧ after.tasks = before.tasks ∧
          (after.stages = before.stages ∨
            key = "stages" ∧ decodeTexts entry.2 = .ok after.stages)) ∨
        (key ∉ reservedKeys ∧ after.stages = before.stages ∧
          ∃ task, Task.read key entry.2 = .ok task ∧ after.tasks = before.tasks ++ [task])) := by
  obtain ⟨key, keyRead, done⟩ := Result.bind_eq_ok.mp done
  refine ⟨key, decoded_ok keyRead, ?_⟩
  split at done
  · obtain ⟨image, _, done⟩ := Result.bind_eq_ok.mp done
    cases done
    exact .inl ⟨by decide, rfl, .inl rfl⟩
  · obtain ⟨vars, _, done⟩ := Result.bind_eq_ok.mp done
    cases done
    exact .inl ⟨by decide, rfl, .inl rfl⟩
  · obtain ⟨script, _, done⟩ := Result.bind_eq_ok.mp done
    cases done
    exact .inl ⟨by decide, rfl, .inl rfl⟩
  · obtain ⟨script, _, done⟩ := Result.bind_eq_ok.mp done
    cases done
    exact .inl ⟨by decide, rfl, .inl rfl⟩
  · obtain ⟨stages, stagesRead, done⟩ := Result.bind_eq_ok.mp done
    cases done
    exact .inl ⟨by decide, rfl, .inr ⟨rfl, decoded_ok stagesRead⟩⟩
  · obtain ⟨options, _, done⟩ := Result.bind_eq_ok.mp done
    cases done
    exact .inl ⟨by decide, rfl, .inl rfl⟩
  · rename_i notImage notVariables notBefore notAfter notStages notOptions
    obtain ⟨task, taskRead, done⟩ := Result.bind_eq_ok.mp done
    cases done
    refine .inr ⟨?_, rfl, task, taskRead, rfl⟩
    simp only [reservedKeys, List.mem_cons, List.not_mem_nil, or_false]
    rintro (same | same | same | same | same | same)
    exacts [notImage same, notVariables same, notBefore same, notAfter same, notStages same,
      notOptions same]

theorem asText_ok_iff {value : Value} {content : String} :
    value.asText = .ok content ↔ value.untagged = .string content := by
  unfold Value.asText
  cases value.untagged with
  | string other =>
      constructor
      · intro same
        cases same
        rfl
      · intro same
        cases same
        rfl
  | null | bool | number | sequence | mapping | tagged => exact iff_of_false nofun nofun

def Keyed (entries : List (Value × Value)) (keys : List String) : Prop :=
  List.Forall₂ (fun entry key => entry.1.untagged = .string key) entries keys

/-- The tasks that a walk over entries adds, whatever pipeline it begins with. -/
theorem entries_ok {entries : List (Value × Value)} {before after : Pipeline}
    (done : entries.foldlM addEntry before = .ok after) :
    ∃ keys tasks, Keyed entries keys ∧ after.tasks = before.tasks ++ tasks ∧
      tasks.map Task.name = keys.filter (· ∉ reservedKeys) ∧ (∀ task ∈ tasks, task.Valid) ∧
        ((∀ entry ∈ entries, entry.1.untagged = .string "stages" → Unlisted entry.2) →
          before.stages = [] → after.stages = []) := by
  induction entries generalizing before with
  | nil =>
      cases done
      exact ⟨[], [], .nil, (List.append_nil _).symm, rfl, nofun, fun _ => id⟩
  | cons entry rest ih =>
      rw [List.foldlM_cons] at done
      obtain ⟨between, added, done⟩ := Result.bind_eq_ok.mp done
      obtain ⟨keys, tasks, keyed, appended, named, valid, unstaged⟩ := ih done
      obtain ⟨key, keyRead, ⟨reserved, noTask, stages⟩ |
        ⟨unreserved, noStages, task, taskRead, oneTask⟩⟩ := addEntry_ok added
      · refine ⟨key :: keys, tasks, .cons (asText_ok_iff.mp keyRead) keyed, noTask ▸ appended,
          ?_, valid, ?_⟩
        · rw [List.filter_cons_of_neg (by simpa using reserved), named]
        · intro unlisted empty
          rw [List.forall_mem_cons] at unlisted
          refine unstaged unlisted.2 ?_
          rcases stages with kept | ⟨rfl, listed⟩
          · rw [kept, empty]
          · have nothing := decodeTexts_unlisted (unlisted.1 (asText_ok_iff.mp keyRead))
            exact Except.ok.inj (listed.symm.trans nothing)
      · obtain ⟨name, taskValid⟩ := Task.read_ok taskRead
        refine ⟨key :: keys, task :: tasks, .cons (asText_ok_iff.mp keyRead) keyed, ?_, ?_, ?_, ?_⟩
        · rw [appended, oneTask, List.append_assoc, List.singleton_append]
        · rw [List.filter_cons_of_pos (by simpa using unreserved), List.map_cons, named, name]
        · rw [List.forall_mem_cons]
          exact ⟨taskValid, valid⟩
        · intro unlisted empty
          rw [List.forall_mem_cons] at unlisted
          exact unstaged unlisted.2 (noStages.trans empty)

/-! ### Names -/

/-- Two keys name a task alike and are not the same: they differ in their tags. -/
def Confuses (key other : Value) : Prop :=
  key.same other = false ∧
    ∃ name, name ∉ reservedKeys ∧ key.untagged = .string name ∧ other.untagged = .string name

theorem nodup_keys_iff {entries : List (Value × Value)} {keys : List String}
    (keyed : Keyed entries keys) (distinct : Value.repeatsKey entries = false) :
    (keys.filter (· ∉ reservedKeys)).Nodup ↔
      entries.Pairwise fun entry other => ¬ Confuses entry.1 other.1 := by
  induction keyed with
  | nil => exact iff_of_true List.nodup_nil .nil
  | @cons entry key entries keys isKey keyed ih =>
      rw [Value.repeatsKey, Bool.or_eq_false_iff, List.any_eq_false] at distinct
      rw [List.pairwise_cons, ← ih distinct.2]
      by_cases reserved : key ∈ reservedKeys
      · rw [List.filter_cons_of_neg (by simpa using reserved)]
        refine (and_iff_right ?_).symm
        rintro other _ ⟨-, name, unreserved, isName, -⟩
        cases isKey.symm.trans isName
        exact unreserved reserved
      · rw [List.filter_cons_of_pos (by simpa using reserved), List.nodup_cons]
        refine and_congr_left fun _ => ?_
        rw [List.mem_filter, not_and]
        -- the entries with this key are those that the reader did not take for the same
        constructor
        · rintro unseen other present ⟨-, name, -, isName, isOther⟩
          cases isKey.symm.trans isName
          obtain ⟨otherKey, inKeys, isOtherKey⟩ := Result.exists_of_forall₂ keyed present
          cases isOther.symm.trans isOtherKey
          exact unseen inKeys (by simpa using reserved)
        · intro unconfused inKeys _
          obtain ⟨other, present, isOther⟩ := Result.exists_of_forall₂ keyed.flip inKeys
          exact unconfused other present
            ⟨Bool.eq_false_iff.mpr (distinct.1 other present), key, reserved, isKey, isOther⟩

/-- Where no key has a tag, no two keys name a task alike. -/
theorem unconfused_of_untagged {entries : List (Value × Value)}
    (untagged : ∀ entry ∈ entries, entry.1.untagged = entry.1) :
    entries.Pairwise fun entry other => ¬ Confuses entry.1 other.1 := by
  refine List.pairwise_of_forall_mem_list ?_
  rintro entry present other otherPresent ⟨different, name, -, isName, isOther⟩
  rw [← untagged entry present, ← untagged other otherPresent, isName, isOther] at different
  simp [Value.same] at different

/-! ### Documents -/

/-- A pipeline has what every pipeline has that was read from these entries. -/
structure Validated (entries : List (Value × Value)) (pipeline : Pipeline) : Prop where
  staged : pipeline.stages ≠ []
  named : ∃ keys, Keyed entries keys ∧
    pipeline.tasks.map Task.name = keys.filter (· ∉ reservedKeys)
  valid : ∀ task ∈ pipeline.tasks, task.Valid
  implicit : (∀ entry ∈ entries, entry.1.untagged = .string "stages" → Unlisted entry.2) →
    pipeline.stages = (if pipeline.tasks = [] then [defaultStage]
      else (pipeline.tasks.map Task.stage).eraseDups) ∧
      pipeline.stages.Nodup ∧ ∀ task ∈ pipeline.tasks, task.stage ∈ pipeline.stages

theorem withStages_tasks (pipeline : Pipeline) : pipeline.withStages.tasks = pipeline.tasks := by
  unfold withStages
  split
  · rfl
  · split <;> rfl

theorem withStages_staged (pipeline : Pipeline) : pipeline.withStages.stages ≠ [] := by
  unfold withStages
  split
  · rename_i listed
    simpa using listed
  · split
    · exact List.cons_ne_nil _ _
    · rename_i found
      simpa using found

theorem withStages_implicit {pipeline : Pipeline} (unstaged : pipeline.stages = []) :
    pipeline.withStages.stages = (if pipeline.tasks = [] then [defaultStage]
      else (pipeline.tasks.map Task.stage).eraseDups) := by
  have none : pipeline.implicitStages = [] ↔ pipeline.tasks = [] := by
    rw [implicitStages_eq]
    cases pipeline.tasks with
    | nil => exact iff_of_true rfl rfl
    | cons task tasks =>
        rw [List.map_cons, List.eraseDups_cons]
        exact iff_of_false (List.cons_ne_nil _ _) (List.cons_ne_nil _ _)
  unfold withStages
  rw [unstaged, if_neg (by decide)]
  by_cases empty : pipeline.tasks = []
  · rw [if_pos empty, if_pos (List.isEmpty_iff.mpr (none.mpr empty))]
  · rw [if_neg empty, if_neg fun nothing => empty (none.mp (List.isEmpty_iff.mp nothing)),
      implicitStages_eq]

theorem ofEntries_validated {entries : List (Value × Value)} {pipeline : Pipeline}
    (done : ofEntries entries = .ok pipeline) : Validated entries pipeline := by
  obtain ⟨walked, walk, same⟩ := Result.bind_eq_ok.mp done
  cases same
  obtain ⟨keys, tasks, keyed, appended, named, valid, unstaged⟩ := entries_ok walk
  cases (appended : walked.tasks = tasks)
  refine ⟨withStages_staged walked, ⟨keys, keyed, ?_⟩, ?_, ?_⟩
  · rw [withStages_tasks, named]
  · rw [withStages_tasks]
    exact valid
  · intro unlisted
    have stages := withStages_implicit (unstaged unlisted rfl)
    rw [stages, withStages_tasks]
    refine ⟨rfl, ?_, ?_⟩
    · split
      · exact List.pairwise_singleton _ _
      · exact nodup_eraseDups _
    · intro task present
      rw [if_neg (List.ne_nil_of_mem present), List.mem_eraseDups]
      exact List.mem_map_of_mem present

/-- A pipeline that is read has stages and valid tasks with the names of the document's keys. Two
tasks have one name exactly if two keys differ in nothing but a tag. -/
theorem read_validated {text : String} {pipeline : Pipeline}
    (accepted : Pipeline.read text = .ok pipeline) :
    ∃ entries, Yaml.readMapping text = .ok entries ∧ Validated entries pipeline ∧
      ((pipeline.tasks.map Task.name).Nodup ↔
        entries.Pairwise fun entry other => ¬ Confuses entry.1 other.1) := by
  obtain ⟨entries, entriesRead, done⟩ := Result.bind_eq_ok.mp accepted
  have isRead := decoded_ok entriesRead
  have validated := ofEntries_validated done
  refine ⟨entries, isRead, validated, ?_⟩
  obtain ⟨keys, keyed, named⟩ := validated.named
  rw [named]
  exact nodup_keys_iff keyed (Yaml.distinct_of_readMapping isRead)

def plainText : String :=
  "build:\n  script: [make]\ncheck:\n  stage: test\n  tekton:\n    jobs: [CI=1]\n"

theorem plainText_validated :
    ∃ pipeline entries, Pipeline.read plainText = .ok pipeline ∧ Validated entries pipeline ∧
      pipeline.tasks.map Task.name = ["build", "check"] ∧
        entries.Pairwise fun entry other => ¬ Confuses entry.1 other.1 := by
  have names : (Pipeline.read plainText).toOption.map (·.tasks.map Task.name) =
      some ["build", "check"] := by
    decide +kernel
  obtain ⟨pipeline, found, isNames⟩ := Option.map_eq_some_iff.mp names
  have accepted := Result.ok_of_toOption found
  obtain ⟨entries, -, validated, distinct⟩ := read_validated accepted
  refine ⟨pipeline, entries, accepted, validated, isNames, distinct.mp ?_⟩
  rw [isNames]
  decide

def taggedText : String :=
  "build:\n  script: [make]\n!other build:\n  script: [make again]\n"

theorem taggedText_repeats :
    ∃ pipeline, Pipeline.read taggedText = .ok pipeline ∧
      ¬ (pipeline.tasks.map Task.name).Nodup := by
  have names : (Pipeline.read taggedText).toOption.map (·.tasks.map Task.name) =
      some ["build", "build"] := by
    decide +kernel
  obtain ⟨pipeline, found, isNames⟩ := Option.map_eq_some_iff.mp names
  refine ⟨pipeline, Result.ok_of_toOption found, ?_⟩
  rw [isNames]
  decide

end Pipeline

end StagedRuns
