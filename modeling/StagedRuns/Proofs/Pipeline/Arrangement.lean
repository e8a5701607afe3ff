import StagedRuns.Proofs.Pipeline.Validated

/-!
The order of the keys of a document. Each entry is read by itself, and makes a setting of the
pipeline or a task. So whether a document is accepted does not depend on the order of its entries,
and what it is read as depends on the order of the tasks alone, unless two keys that differ in a tag
make one setting in two ways.
-/

namespace StagedRuns

open StagedRuns.RecordData (text dictionary)
open StagedRuns.Yaml (Value)

inductive Setting where
  | image (content : String)
  | vars (vars : Dictionary String)
  | beforeScript (lines : List String)
  | afterScript (lines : List String)
  | stages (names : List String)
  | options (options : PipelineOptions)

/-- What an entry of a document says. -/
inductive Clause where
  | setting (setting : Setting)
  | task (task : Task)

/-! ### Settings -/

/-- The stages of a pipeline with some tasks that lists these. -/
def stagesFor (tasks : List Task) (listed : List String) : List String :=
  if listed ≠ [] then listed
  else if tasks = [] then [defaultStage]
  else (tasks.map Task.stage).eraseDups

theorem Pipeline.withStages_eq (pipeline : Pipeline) :
    pipeline.withStages =
      { pipeline with stages := stagesFor pipeline.tasks pipeline.stages } := by
  unfold stagesFor
  by_cases listed : pipeline.stages = []
  · rw [if_neg (not_not.mpr listed), ← withStages_implicit listed]
    unfold withStages
    split
    · rfl
    · split <;> rfl
  · rw [if_pos listed]
    unfold withStages
    rw [if_pos (by simpa using listed)]

namespace Setting

def key : Setting → String
  | .image _ => "image"
  | .vars _ => "variables"
  | .beforeScript _ => "before_script"
  | .afterScript _ => "after_script"
  | .stages _ => "stages"
  | .options _ => "tekton"

def apply (pipeline : Pipeline) : Setting → Pipeline
  | .image content => { pipeline with image := content }
  | .vars texts => { pipeline with vars := texts }
  | .beforeScript lines => { pipeline with beforeScript := lines }
  | .afterScript lines => { pipeline with afterScript := lines }
  | .stages names => { pipeline with stages := names }
  | .options given => { pipeline with options := some given }

def settle (tasks : List Task) : Setting → Setting
  | .stages names => .stages (stagesFor tasks names)
  | other => other

theorem key_reserved (setting : Setting) : setting.key ∈ Pipeline.reservedKeys := by
  cases setting <;> simp [key, Pipeline.reservedKeys]

theorem settle_key (tasks : List Task) (setting : Setting) :
    (setting.settle tasks).key = setting.key := by
  cases setting <;> rfl

theorem apply_tasks (pipeline : Pipeline) (setting : Setting) :
    (setting.apply pipeline).tasks = pipeline.tasks := by
  cases setting <;> rfl

theorem apply_comm {first second : Setting} (apart : first.key ≠ second.key)
    (pipeline : Pipeline) :
    second.apply (first.apply pipeline) = first.apply (second.apply pipeline) := by
  cases first <;> cases second <;> first | rfl | exact absurd rfl apart

/-- A setting can be told from what it was applied to last. -/
theorem eq_of_apply_eq {first second : Setting} {pipeline other : Pipeline}
    (same : first.key = second.key) (alike : first.apply pipeline = second.apply other) :
    first = second := by
  cases first <;> cases second <;> simp_all [key, apply]

theorem apply_withStages (pipeline : Pipeline) (setting : Setting) :
    (setting.apply pipeline).withStages =
      (setting.settle pipeline.tasks).apply pipeline.withStages := by
  rw [Pipeline.withStages_eq, Pipeline.withStages_eq]
  cases setting <;> rfl

theorem foldl_withStages (pipeline : Pipeline) (settings : List Setting) :
    (settings.foldl apply pipeline).withStages =
      (settings.map (settle pipeline.tasks)).foldl apply pipeline.withStages := by
  induction settings generalizing pipeline with
  | nil => rfl
  | cons setting rest ih =>
      rw [List.foldl_cons, ih, apply_tasks, apply_withStages]
      rfl

end Setting

/-! ### Clauses -/

namespace Clause

def add (pipeline : Pipeline) : Clause → Pipeline
  | .setting made => made.apply pipeline
  | .task made => { pipeline with tasks := pipeline.tasks ++ [made] }

def isTask : Clause → Bool
  | .setting _ => false
  | .task _ => true

def setting? : Clause → Option Setting
  | .setting made => some made
  | .task _ => none

def task? : Clause → Option Task
  | .setting _ => none
  | .task made => some made

def settings (clauses : List Clause) : List Setting :=
  clauses.filterMap setting?

def tasks (clauses : List Clause) : List Task :=
  clauses.filterMap task?

/-- The pipeline of some clauses: its tasks, with the settings on top of them. -/
def assemble (clauses : List Clause) : Pipeline :=
  ((settings clauses).map (Setting.settle (tasks clauses))).foldl Setting.apply
    { Pipeline.empty with tasks := tasks clauses }.withStages

theorem foldl_add (pipeline : Pipeline) (clauses : List Clause) :
    clauses.foldl add pipeline =
      (settings clauses).foldl Setting.apply
        { pipeline with tasks := pipeline.tasks ++ tasks clauses } := by
  induction clauses generalizing pipeline with
  | nil => simp [settings, tasks]
  | cons clause rest ih =>
      rw [List.foldl_cons, ih]
      cases clause with
      | setting made => cases made <;> rfl
      | task made =>
          simp only [add, List.append_assoc]
          rfl

theorem withStages_foldl_add (clauses : List Clause) :
    (clauses.foldl add Pipeline.empty).withStages = assemble clauses := by
  rw [foldl_add, Setting.foldl_withStages]
  rfl

theorem tasks_filter (clauses : List Clause) : tasks (clauses.filter isTask) = tasks clauses := by
  unfold tasks
  rw [List.filterMap_filter]
  refine List.filterMap_congr fun clause _ => ?_
  cases clause <;> rfl

theorem settings_filter (clauses : List Clause) : settings (clauses.filter isTask) = [] := by
  unfold settings
  rw [List.filterMap_filter, List.filterMap_eq_nil_iff]
  intro clause _
  cases clause <;> rfl

def Agree (clauses : List Clause) : Prop :=
  ∀ first ∈ settings clauses, ∀ second ∈ settings clauses, first.key = second.key →
    first.settle (tasks clauses) = second.settle (tasks clauses)

theorem assemble_perm {clauses others : List Clause} (same : clauses.Perm others)
    (ordered : tasks clauses = tasks others) (agree : Agree clauses) :
    assemble clauses = assemble others := by
  unfold assemble
  rw [← ordered]
  refine List.Perm.foldl_eq' ((same.filterMap setting?).map _) ?_ _
  intro first firstMember second secondMember pipeline
  obtain ⟨first, firstMade, rfl⟩ := List.mem_map.mp firstMember
  obtain ⟨second, secondMade, rfl⟩ := List.mem_map.mp secondMember
  by_cases alike : first.key = second.key
  · rw [agree first firstMade second secondMade alike]
  · refine Setting.apply_comm ?_ pipeline
    rwa [Setting.settle_key, Setting.settle_key]

theorem assemble_concat (clauses : List Clause) (last : Setting) :
    ∃ pipeline, assemble (clauses ++ [.setting last]) =
      (last.settle (tasks (clauses ++ [.setting last]))).apply pipeline := by
  have split : settings (clauses ++ [.setting last]) = settings clauses ++ [last] :=
    List.filterMap_append
  unfold assemble
  rw [split, List.map_append, List.foldl_append]
  exact ⟨_, rfl⟩

theorem assemble_setting (clauses : List Clause) (only : Setting) :
    assemble (.setting only :: clauses.filter isTask) =
      (only.settle (tasks clauses)).apply
        { Pipeline.empty with tasks := tasks clauses }.withStages := by
  have onlyTasks : tasks (.setting only :: clauses.filter isTask) = tasks clauses :=
    tasks_filter clauses
  have onlySetting : settings (.setting only :: clauses.filter isTask) = [only] :=
    congrArg (only :: ·) (settings_filter clauses)
  unfold assemble
  rw [onlyTasks, onlySetting]
  rfl

end Clause

/-! ### Entries -/

namespace Pipeline

def clauseOf (entry : Value × Value) : Except PipelineError Clause := do
  match ← decoded entry.1.asText with
  | "image" => return .setting (.image (← decoded (text entry.2)))
  | "variables" => return .setting (.vars (← decoded (dictionary text entry.2)))
  | "before_script" => return .setting (.beforeScript (← decoded (decodeTexts entry.2)))
  | "after_script" => return .setting (.afterScript (← decoded (decodeTexts entry.2)))
  | "stages" => return .setting (.stages (← decoded (decodeTexts entry.2)))
  | "tekton" => return .setting (.options (← decoded (PipelineOptions.decode entry.2)))
  | name => return .task (← Task.read name entry.2)

theorem addEntry_eq (pipeline : Pipeline) (entry : Value × Value) :
    pipeline.addEntry entry = clauseOf entry >>= fun clause => pure (clause.add pipeline) := by
  unfold addEntry clauseOf
  rw [bind_assoc]
  refine congrArg (decoded entry.1.asText >>= ·) (funext fun key => ?_)
  split <;> simp only [bind_assoc, pure_bind, Clause.add, Setting.apply]

theorem foldlM_addEntry (pipeline : Pipeline) (entries : List (Value × Value)) :
    entries.foldlM addEntry pipeline =
      entries.mapM clauseOf >>= fun clauses => pure (clauses.foldl Clause.add pipeline) := by
  induction entries generalizing pipeline with
  | nil => rfl
  | cons entry rest ih =>
      rw [List.foldlM_cons, addEntry_eq, List.mapM_cons]
      simp only [bind_assoc, pure_bind, List.foldl_cons, ih]

theorem ofEntries_ok {entries : List (Value × Value)} {pipeline : Pipeline} :
    ofEntries entries = .ok pipeline ↔
      ∃ clauses, entries.mapM clauseOf = .ok clauses ∧ Clause.assemble clauses = pipeline := by
  unfold ofEntries
  rw [foldlM_addEntry, bind_assoc, Result.bind_eq_ok]
  simp only [pure_bind, Result.pure_eq_ok, Clause.withStages_foldl_add]

def namesTask (entry : Value × Value) : Bool :=
  match entry.1.untagged with
  | .string key => key ∉ reservedKeys
  | _ => false

theorem clauseOf_ok {entry : Value × Value} {clause : Clause} (read : clauseOf entry = .ok clause) :
    (∃ made, clause = .setting made ∧ entry.1.untagged = .string made.key) ∨
      ∃ made, clause = .task made ∧ namesTask entry = true := by
  obtain ⟨key, keyRead, read⟩ := Result.bind_eq_ok.mp read
  have isKey := asText_ok_iff.mp (decoded_ok keyRead)
  split at read
  case h_7 =>
    obtain ⟨made, _, same⟩ := Result.bind_eq_ok.mp read
    cases same
    refine .inr ⟨made, rfl, ?_⟩
    unfold namesTask
    rw [isKey]
    simp_all [reservedKeys]
  all_goals
    obtain ⟨content, _, same⟩ := Result.bind_eq_ok.mp read
    cases same
    exact .inl ⟨_, rfl, isKey⟩

theorem namesTask_eq {entry : Value × Value} {clause : Clause}
    (read : clauseOf entry = .ok clause) : namesTask entry = clause.isTask := by
  rcases clauseOf_ok read with ⟨made, rfl, isKey⟩ | ⟨made, rfl, named⟩
  · unfold namesTask
    rw [isKey]
    simp [made.key_reserved, Clause.isTask]
  · exact named

theorem key_of_setting {entry : Value × Value} {made : Setting}
    (reads : clauseOf entry = .ok (.setting made)) : entry.1.untagged = .string made.key := by
  rcases clauseOf_ok reads with ⟨_, same, isKey⟩ | ⟨_, same, _⟩
  · cases same
    exact isKey
  · cases same

/-- An entry with the key of a setting makes one. -/
theorem setting_of_key {entry : Value × Value} {clause : Clause}
    (reads : clauseOf entry = .ok clause) {key : String} (reserved : key ∈ reservedKeys)
    (isKey : entry.1.untagged = .string key) :
    ∃ made : Setting, clause = .setting made ∧ made.key = key := by
  rcases clauseOf_ok reads with ⟨made, rfl, isMade⟩ | ⟨_, rfl, named⟩
  · cases isKey.symm.trans isMade
    exact ⟨made, rfl, rfl⟩
  · unfold namesTask at named
    rw [isKey] at named
    exact absurd reserved (of_decide_eq_true named)

/-! ### Arrangements -/

/-- Whether two mappings have the same entries, and those of tasks in the same order. -/
structure Rearranged (entries others : List (Value × Value)) : Prop where
  same : entries.Perm others
  ordered : entries.filter namesTask = others.filter namesTask

theorem Rearranged.symm {entries others : List (Value × Value)}
    (rearranged : Rearranged entries others) : Rearranged others entries where
  same := rearranged.same.symm
  ordered := rearranged.ordered.symm

section Arrangements

variable {entries others : List (Value × Value)} {clauses : List Clause}

theorem clauses_filter (read : entries.mapM clauseOf = .ok clauses) :
    (entries.filter namesTask).mapM clauseOf = .ok (clauses.filter Clause.isTask) :=
  Result.mapM_filter (fun _ _ => namesTask_eq) read

theorem Rearranged.reads (rearranged : Rearranged entries others)
    (read : entries.mapM clauseOf = .ok clauses) :
    ∃ arranged, others.mapM clauseOf = .ok arranged ∧ clauses.Perm arranged ∧
      Clause.tasks clauses = Clause.tasks arranged := by
  obtain ⟨arranged, othersRead, same⟩ := Result.mapM_perm rearranged.same read
  refine ⟨arranged, othersRead, same, ?_⟩
  have tasks := clauses_filter read
  rw [rearranged.ordered, clauses_filter othersRead] at tasks
  rw [← Clause.tasks_filter clauses, ← Except.ok.inj tasks, Clause.tasks_filter]

/-- Whether the entries that make one setting agree on the pipeline, each of them alone with the
tasks. -/
def Agreeing (entries : List (Value × Value)) : Prop :=
  ∀ first ∈ entries, ∀ second ∈ entries, ∀ key ∈ reservedKeys,
    first.1.untagged = .string key → second.1.untagged = .string key →
      ofEntries (first :: entries.filter namesTask) = ofEntries (second :: entries.filter namesTask)

/-- An entry that makes a setting, alone with the tasks. -/
theorem ofEntries_setting (read : entries.mapM clauseOf = .ok clauses) {entry : Value × Value}
    {made : Setting} (reads : clauseOf entry = .ok (.setting made)) :
    ofEntries (entry :: entries.filter namesTask) =
      .ok ((made.settle (Clause.tasks clauses)).apply
        { empty with tasks := Clause.tasks clauses }.withStages) := by
  rw [ofEntries_ok]
  refine ⟨.setting made :: clauses.filter Clause.isTask, ?_, Clause.assemble_setting clauses made⟩
  rw [List.mapM_cons, reads, Result.ok_bind, clauses_filter read]
  rfl

theorem mem_settings (read : entries.mapM clauseOf = .ok clauses) {made : Setting} :
    made ∈ Clause.settings clauses ↔ ∃ entry ∈ entries, clauseOf entry = .ok (.setting made) := by
  have isSetting : ∀ clause : Clause, clause.setting? = some made ↔ clause = .setting made := by
    intro clause
    cases clause <;> simp [Clause.setting?]
  unfold Clause.settings
  simp only [List.mem_filterMap, isSetting, exists_eq_right]
  constructor
  · exact Result.exists_of_mem_mapM read
  · rintro ⟨entry, present, reads⟩
    obtain ⟨clause, member, same⟩ :=
      Result.exists_of_forall₂ (Result.mapM_eq_ok.mp read) present
    rw [reads] at same
    rwa [← Except.ok.inj same] at member

theorem exists_setting (read : entries.mapM clauseOf = .ok clauses) {entry : Value × Value}
    (present : entry ∈ entries) {key : String} (reserved : key ∈ reservedKeys)
    (isKey : entry.1.untagged = .string key) :
    ∃ made ∈ Clause.settings clauses, made.key = key ∧ clauseOf entry = .ok (.setting made) := by
  obtain ⟨clause, _, reads⟩ := Result.exists_of_forall₂ (Result.mapM_eq_ok.mp read) present
  obtain ⟨made, rfl, madeKey⟩ := setting_of_key reads reserved isKey
  exact ⟨made, (mem_settings read).mpr ⟨entry, present, reads⟩, madeKey, reads⟩

theorem agreeing_iff (read : entries.mapM clauseOf = .ok clauses) :
    Agreeing entries ↔ Clause.Agree clauses := by
  constructor
  · intro agreeing first firstMade second secondMade alike
    obtain ⟨entry, present, reads⟩ := (mem_settings read).mp firstMade
    obtain ⟨other, otherPresent, otherReads⟩ := (mem_settings read).mp secondMade
    have same := agreeing entry present other otherPresent first.key first.key_reserved
      (key_of_setting reads) (alike ▸ key_of_setting otherReads)
    rw [ofEntries_setting read reads, ofEntries_setting read otherReads] at same
    refine Setting.eq_of_apply_eq ?_ (Except.ok.inj same)
    rwa [Setting.settle_key, Setting.settle_key]
  · intro agree entry present other otherPresent key reserved isKey isOther
    obtain ⟨made, member, madeKey, reads⟩ := exists_setting read present reserved isKey
    obtain ⟨otherMade, otherMember, otherKey, otherReads⟩ :=
      exists_setting read otherPresent reserved isOther
    rw [ofEntries_setting read reads, ofEntries_setting read otherReads,
      agree made member otherMade otherMember (madeKey.trans otherKey.symm)]

theorem exists_last (read : entries.mapM clauseOf = .ok clauses) {entry : Value × Value}
    {made : Setting} (present : entry ∈ entries) (reads : clauseOf entry = .ok (.setting made)) :
    ∃ others pipeline, Rearranged entries others ∧
      ofEntries others = .ok ((made.settle (Clause.tasks clauses)).apply pipeline) := by
  obtain ⟨before, after, rfl⟩ := List.append_of_mem present
  have noTask : namesTask entry = false := namesTask_eq reads
  have rearranged : Rearranged (before ++ entry :: after) (before ++ after ++ [entry]) := by
    refine ⟨?_, ?_⟩
    · exact List.perm_middle.trans (List.perm_append_singleton entry (before ++ after)).symm
    · simp [noTask]
  obtain ⟨arranged, othersRead, _, sameTasks⟩ := rearranged.reads read
  obtain ⟨front, _, last⟩ := Result.bind_eq_ok.mp (List.mapM_append.symm.trans othersRead)
  rw [List.mapM_cons, List.mapM_nil, reads] at last
  obtain rfl : front ++ [.setting made] = arranged := Result.pure_eq_ok.mp last
  obtain ⟨pipeline, assembled⟩ := Clause.assemble_concat front made
  rw [← sameTasks] at assembled
  exact ⟨_, pipeline, rearranged, ofEntries_ok.mpr ⟨_, othersRead, assembled⟩⟩

theorem accepted_of_rearranged (rearranged : Rearranged entries others)
    (accepted : ∃ pipeline, ofEntries entries = .ok pipeline) :
    ∃ pipeline, ofEntries others = .ok pipeline := by
  obtain ⟨pipeline, done⟩ := accepted
  obtain ⟨clauses, read, _⟩ := ofEntries_ok.mp done
  obtain ⟨arranged, othersRead, _, _⟩ := rearranged.reads read
  exact ⟨_, ofEntries_ok.mpr ⟨arranged, othersRead, rfl⟩⟩

theorem ofEntries_of_rearranged {pipeline : Pipeline} (agreeing : Agreeing entries)
    (rearranged : Rearranged entries others) (done : ofEntries entries = .ok pipeline) :
    ofEntries others = .ok pipeline := by
  obtain ⟨clauses, read, rfl⟩ := ofEntries_ok.mp done
  obtain ⟨arranged, othersRead, same, ordered⟩ := rearranged.reads read
  have agree := (agreeing_iff read).mp agreeing
  exact ofEntries_ok.mpr ⟨arranged, othersRead, (Clause.assemble_perm same ordered agree).symm⟩

theorem agreeing_of_rearranged {pipeline : Pipeline} (done : ofEntries entries = .ok pipeline)
    (always : ∀ others, Rearranged entries others → ofEntries others = .ok pipeline) :
    Agreeing entries := by
  obtain ⟨clauses, read, _⟩ := ofEntries_ok.mp done
  rw [agreeing_iff read]
  intro first firstMade second secondMade alike
  obtain ⟨entry, present, reads⟩ := (mem_settings read).mp firstMade
  obtain ⟨other, otherPresent, otherReads⟩ := (mem_settings read).mp secondMade
  -- either of the two can come last, and then shows
  obtain ⟨_, under, firstRearranged, firstLast⟩ := exists_last read present reads
  obtain ⟨_, otherUnder, secondRearranged, secondLast⟩ := exists_last read otherPresent otherReads
  rw [always _ firstRearranged] at firstLast
  rw [always _ secondRearranged] at secondLast
  refine Setting.eq_of_apply_eq ?_ (Except.ok.inj (firstLast.symm.trans secondLast))
  rwa [Setting.settle_key, Setting.settle_key]

theorem entry_unique (distinct : Value.repeatsKey entries = false) {first second : Value × Value}
    (firstPresent : first ∈ entries) (secondPresent : second ∈ entries) {key : String}
    (isKey : first.1 = .string key) (isOther : second.1 = .string key) : first = second := by
  have alike : first.1.same second.1 = true ∧ second.1.same first.1 = true := by
    rw [isKey, isOther]
    simp [Value.same]
  induction entries with
  | nil => cases firstPresent
  | cons entry rest ih =>
      rw [Value.repeatsKey, Bool.or_eq_false_iff, List.any_eq_false] at distinct
      rcases List.mem_cons.mp firstPresent with rfl | firstBehind
      · rcases List.mem_cons.mp secondPresent with rfl | secondBehind
        · rfl
        · exact absurd alike.1 (distinct.1 second secondBehind)
      · rcases List.mem_cons.mp secondPresent with rfl | secondBehind
        · exact absurd alike.2 (distinct.1 first firstBehind)
        · exact ih distinct.2 firstBehind secondBehind

theorem agreeing_of_untagged (distinct : Value.repeatsKey entries = false)
    (untagged : ∀ entry ∈ entries, entry.1.untagged = entry.1) : Agreeing entries := by
  intro first firstPresent second secondPresent key _ isKey isOther
  rw [untagged first firstPresent] at isKey
  rw [untagged second secondPresent] at isOther
  rw [entry_unique distinct firstPresent secondPresent isKey isOther]

end Arrangements

/-! ### Documents -/

def spelling? : Value → Option (List String × String)
  | .string content => some ([], content)
  | .tagged tag value => (spelling? value).map fun spelled => (tag :: spelled.1, spelled.2)
  | _ => none

theorem eq_of_spelling? {value : Value} {spelled : List String × String}
    (spells : spelling? value = some spelled) :
    value = spelled.1.foldr Value.tagged (.string spelled.2) := by
  fun_induction spelling? value generalizing spelled with
  | case1 content =>
      cases spells
      rfl
  | case2 tag value ih =>
      obtain ⟨inner, innerSpelled, rfl⟩ := Option.map_eq_some_iff.mp spells
      rw [List.foldr_cons, ← ih innerSpelled]
  | case3 => cases spells

theorem read_eq {text : String} {entries : List (Value × Value)}
    (isRead : Yaml.readMapping text = .ok entries) : Pipeline.read text = ofEntries entries := by
  unfold Pipeline.read
  rw [isRead]
  rfl

/-- Whether a document is accepted does not depend on the order of its keys. What it is read as
depends on the order of the tasks only, exactly if the entries that make one setting agree; they do
if no key has a tag. -/
theorem read_rearranged {text : String} {entries : List (Value × Value)}
    (isRead : Yaml.readMapping text = .ok entries) :
    (∀ other others, Yaml.readMapping other = .ok others → Rearranged entries others →
      ((∃ pipeline, Pipeline.read text = .ok pipeline) ↔
          ∃ pipeline, Pipeline.read other = .ok pipeline) ∧
        (Agreeing entries →
          ∀ pipeline, Pipeline.read text = .ok pipeline ↔ Pipeline.read other = .ok pipeline)) ∧
      (∀ pipeline, Pipeline.read text = .ok pipeline →
        (Agreeing entries ↔
          ∀ others, Rearranged entries others → ofEntries others = .ok pipeline)) ∧
      ((∀ entry ∈ entries, entry.1.untagged = entry.1) → Agreeing entries) := by
  rw [read_eq isRead]
  refine ⟨?_, ?_, agreeing_of_untagged (Yaml.distinct_of_readMapping isRead)⟩
  · intro other others otherRead rearranged
    rw [read_eq otherRead]
    refine ⟨⟨accepted_of_rearranged rearranged, accepted_of_rearranged rearranged.symm⟩, ?_⟩
    intro agreeing pipeline
    refine ⟨ofEntries_of_rearranged agreeing rearranged, ?_⟩
    intro done
    obtain ⟨first, firstDone⟩ := accepted_of_rearranged rearranged.symm ⟨pipeline, done⟩
    have same := ofEntries_of_rearranged agreeing rearranged firstDone
    rw [firstDone, ← Except.ok.inj (same.symm.trans done)]
  · intro pipeline done
    exact ⟨fun agreeing others rearranged => ofEntries_of_rearranged agreeing rearranged done,
      agreeing_of_rearranged done⟩

def settingsLast : String :=
  "check:\n  stage: test\n  script: [make check]\nstages: [test]\nimage: golang\n"

theorem settingsLast_rearranged :
    ∃ entries pipeline, Yaml.readMapping settingsLast = .ok entries ∧
      Pipeline.read settingsLast = .ok pipeline ∧
        pipeline.tasks.map Task.name = ["check"] ∧ pipeline.image = "golang" ∧
          ∀ others, Rearranged entries others → ofEntries others = .ok pipeline := by
  have keys : (Yaml.readMapping settingsLast).toOption.map
      (·.map fun entry => spelling? entry.1) =
        some [some ([], "check"), some ([], "stages"), some ([], "image")] := by
    decide +kernel
  have parts : (Pipeline.read settingsLast).toOption.map
      (fun pipeline => (pipeline.tasks.map Task.name, pipeline.image)) =
        some (["check"], "golang") := by
    decide +kernel
  obtain ⟨entries, found, areKeys⟩ := Option.map_eq_some_iff.mp keys
  obtain ⟨pipeline, accepted, areParts⟩ := Option.map_eq_some_iff.mp parts
  have isRead := Result.ok_of_toOption found
  have done := Result.ok_of_toOption accepted
  obtain ⟨names, image⟩ := Prod.mk.inj areParts
  obtain ⟨_, exactly, agreeing⟩ := read_rearranged isRead
  refine ⟨entries, pipeline, isRead, done, names, image,
    (exactly pipeline done).mp (agreeing ?_)⟩
  intro entry present
  have member := List.mem_map_of_mem (f := fun entry => spelling? entry.1) present
  rw [areKeys] at member
  have plain : ∃ key, spelling? entry.1 = some ([], key) := by
    simp only [List.mem_cons, List.not_mem_nil, or_false] at member
    rcases member with isKey | isKey | isKey <;> exact ⟨_, isKey⟩
  obtain ⟨key, isKey⟩ := plain
  rw [eq_of_spelling? isKey]
  rfl

theorem entries_of_spelling {text : String}
    (first firstValue second secondValue : List String × String)
    (spells : (Yaml.readMapping text).toOption.map
      (·.map fun entry => (spelling? entry.1, spelling? entry.2)) =
        some [(some first, some firstValue), (some second, some secondValue)]) :
    Yaml.readMapping text = .ok
      [ (first.1.foldr Value.tagged (.string first.2),
          firstValue.1.foldr Value.tagged (.string firstValue.2))
      , (second.1.foldr Value.tagged (.string second.2),
          secondValue.1.foldr Value.tagged (.string secondValue.2)) ] := by
  obtain ⟨entries, found, spelled⟩ := Option.map_eq_some_iff.mp spells
  rw [Result.ok_of_toOption found]
  obtain ⟨entry, rest, rfl, isFirst, spelled⟩ := List.map_eq_cons_iff.mp spelled
  obtain ⟨other, none, rfl, isSecond, spelled⟩ := List.map_eq_cons_iff.mp spelled
  obtain rfl := List.map_eq_nil_iff.mp spelled
  obtain ⟨key, value⟩ := Prod.mk.inj isFirst
  obtain ⟨otherKey, otherValue⟩ := Prod.mk.inj isSecond
  rw [← eq_of_spelling? key, ← eq_of_spelling? value, ← eq_of_spelling? otherKey,
    ← eq_of_spelling? otherValue]

/-- Two keys of one setting that differ in a tag. -/
def taggedLast : String :=
  "image: golang\n!other image: rust\n"

def taggedFirst : String :=
  "!other image: rust\nimage: golang\n"

theorem taggedLast_overrides :
    ∃ entries others pipeline other, Yaml.readMapping taggedLast = .ok entries ∧
      Yaml.readMapping taggedFirst = .ok others ∧ Rearranged entries others ∧
        Pipeline.read taggedLast = .ok pipeline ∧ Pipeline.read taggedFirst = .ok other ∧
          pipeline.image = "rust" ∧ other.image = "golang" := by
  have last : Yaml.readMapping taggedLast = .ok _ :=
    entries_of_spelling ([], "image") ([], "golang") (["other"], "image") ([], "rust")
      (by decide +kernel)
  have first : Yaml.readMapping taggedFirst = .ok _ :=
    entries_of_spelling (["other"], "image") ([], "rust") ([], "image") ([], "golang")
      (by decide +kernel)
  have image : ∀ text image, (Pipeline.read text).toOption.map Pipeline.image =
      some image → ∃ pipeline, Pipeline.read text = .ok pipeline ∧ pipeline.image = image := by
    intro text image same
    obtain ⟨pipeline, found, isImage⟩ := Option.map_eq_some_iff.mp same
    exact ⟨pipeline, Result.ok_of_toOption found, isImage⟩
  obtain ⟨pipeline, read, isRust⟩ := image taggedLast "rust" (by decide +kernel)
  obtain ⟨other, otherRead, isGolang⟩ := image taggedFirst "golang" (by decide +kernel)
  refine ⟨_, _, pipeline, other, last, first, ⟨.swap _ _ _, ?_⟩, read, otherRead, isRust, isGolang⟩
  rfl

end Pipeline

end StagedRuns
