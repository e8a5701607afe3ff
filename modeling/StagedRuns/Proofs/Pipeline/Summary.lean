import Mathlib.Data.List.Basic
import StagedRuns.Pipeline.Summary

/-!
The summary of a pipeline as a text, and the names that are read from the warning in it.
-/

namespace StagedRuns

namespace Task

def remarks (task : Task) : List String :=
  [ task.taskRef?.map ("taskRef " ++ ·)
  , if task.jobs = [] then none else some s!"{task.jobs.length} jobs"
  , if task.rules = [] then none else some s!"{task.rules.length} rule(s)"
  , if task.artifacts = [] then none else some "artifacts" ].filterMap id

def entry (task : Task) : String :=
  "    - " ++ task.name ++
    (if task.remarks = [] then "" else " (" ++ ", ".intercalate task.remarks ++ ")") ++ "\n"

end Task

namespace Pipeline

def overview (pipeline : Pipeline) : String :=
  (if pipeline.image = "" then "" else "Image: " ++ pipeline.image ++ "\n") ++
    s!"Pipeline: {pipeline.stages.length} stage(s), {pipeline.tasks.length} task(s)\n" ++
    String.join (pipeline.stages.map fun stage =>
      "  " ++ stage ++ "\n" ++
        String.join ((pipeline.tasks.filter (·.stage = stage)).map Task.entry))

def warning (tasks : List Task) : String :=
  if tasks = [] then ""
  else
    "Warning: tasks in undeclared stages are never run: " ++
      ", ".intercalate (tasks.map Task.name) ++ "\n"

def warningHead : List Char :=
  "Warning: tasks in undeclared stages are never run:".toList

/-- The names in the warnings of a text, each behind a blank, with commas between them. -/
def warned (text : String) : List String :=
  ((text.toList.splitOn '\n').filter (warningHead <+: ·)).flatMap fun line =>
    ((line.drop warningHead.length).splitOn ',').map fun name => String.ofList (name.drop 1)

/-- No text in the summary of the pipeline goes over the end of a line, and no name of a task has
a comma. -/
structure Legible (pipeline : Pipeline) : Prop where
  image : '\n' ∉ pipeline.image.toList
  stages : ∀ stage ∈ pipeline.stages, '\n' ∉ stage.toList
  names : ∀ task ∈ pipeline.tasks, '\n' ∉ task.name.toList ∧ ',' ∉ task.name.toList
  references : ∀ task ∈ pipeline.tasks, ∀ name ∈ task.taskRef?, '\n' ∉ name.toList

/-! ### The text -/

def overviewLines (pipeline : Pipeline) : List String :=
  (if pipeline.image = "" then [] else ["Image: " ++ pipeline.image]) ++
    [s!"Pipeline: {pipeline.stages.length} stage(s), {pipeline.tasks.length} task(s)"] ++
    pipeline.stages.flatMap pipeline.stageLines

def warningLine (tasks : List Task) : String :=
  "Warning: tasks in undeclared stages are never run: " ++ ", ".intercalate (tasks.map Task.name)

theorem summaryLines_eq (pipeline : Pipeline) :
    pipeline.summaryLines = pipeline.overviewLines ++
      if pipeline.neverRun = [] then [] else [warningLine pipeline.neverRun] := by
  unfold summaryLines overviewLines
  cases pipeline.neverRun <;> rfl

theorem notes_eq_remarks (task : Task) : task.notes = task.remarks := by
  unfold Task.notes Task.remarks
  cases task.taskRef? <;> cases task.jobs <;> cases task.rules <;> cases task.artifacts <;> rfl

theorem summaryLine_entry (task : Task) : task.summaryLine ++ "\n" = task.entry := by
  unfold Task.summaryLine Task.entry
  rw [notes_eq_remarks]
  cases task.remarks <;> rfl

theorem stageLines_join (pipeline : Pipeline) (stage : String) :
    String.join ((pipeline.stageLines stage).map (· ++ "\n")) =
      "  " ++ stage ++ "\n" ++
        String.join ((pipeline.tasks.filter (·.stage = stage)).map Task.entry) := by
  unfold stageLines tasksOf
  rw [List.map_cons, String.join_cons, List.map_map]
  exact congrArg (fun entries => _ ++ String.join entries)
    (List.map_congr_left fun task _ => summaryLine_entry task)

theorem join_flatMap {α : Type} (texts : α → List String) (items : List α) :
    String.join (items.flatMap texts) =
      String.join (items.map fun item => String.join (texts item)) := by
  induction items with
  | nil => rfl
  | cons item rest ih =>
      rw [List.flatMap_cons, List.map_cons, String.join_append, String.join_cons, ih]

theorem join_singleton (text : String) : String.join [text] = text :=
  String.join_cons.trans String.append_empty

theorem overviewLines_join (pipeline : Pipeline) :
    String.join (pipeline.overviewLines.map (· ++ "\n")) = pipeline.overview := by
  have image : String.join
      ((if pipeline.image = "" then [] else ["Image: " ++ pipeline.image]).map (· ++ "\n")) =
        if pipeline.image = "" then "" else "Image: " ++ pipeline.image ++ "\n" := by
    split
    · rfl
    · exact join_singleton _
  unfold overviewLines overview
  rw [List.map_append, List.map_append, String.join_append, String.join_append, image,
    List.map_singleton, join_singleton, List.map_flatMap, join_flatMap]
  simp only [stageLines_join, String.append_assoc]
  rfl

/-- The summary of a pipeline is the text about its stages, and behind it the warning about the
tasks of no stage. -/
theorem summary_eq (pipeline : Pipeline) :
    pipeline.summary = pipeline.overview ++ warning pipeline.neverRun := by
  unfold summary warning
  rw [summaryLines_eq, List.map_append, String.join_append, overviewLines_join]
  split
  · rfl
  · rw [List.map_singleton, join_singleton]
    rfl

/-! ### The names that are read -/

theorem toList_join_lines (lines : List String) :
    (String.join (lines.map (· ++ "\n"))).toList =
      ['\n'].intercalate (lines.map String.toList ++ [[]]) := by
  induction lines with
  | nil => rfl
  | cons line rest ih =>
      rw [List.map_cons, String.join_cons, String.toList_append, String.toList_append, ih,
        List.map_cons, List.cons_append, List.intercalate_cons_of_ne_nil (by simp)]
      rfl

/-- A text is read as the lines that it was put together from. -/
theorem splitOn_join_lines {lines : List String} (single : ∀ line ∈ lines, '\n' ∉ line.toList) :
    (String.join (lines.map (· ++ "\n"))).toList.splitOn '\n' =
      lines.map String.toList ++ [[]] := by
  rw [toList_join_lines]
  refine List.splitOn_intercalate _ ?_ (by simp)
  intro line member
  rcases List.mem_append.mp member with written | last
  · obtain ⟨text, present, rfl⟩ := List.mem_map.mp written
    exact single text present
  · rw [List.mem_singleton.mp last]
    exact List.not_mem_nil

theorem not_warningHead_append {front : String} {c : Char} (begins : front.toList.head? = some c)
    (other : c ≠ 'W') (rest : String) : ¬ warningHead <+: (front ++ rest).toList := by
  rw [String.toList_append]
  rintro ⟨more, same⟩
  have first : (front.toList ++ rest.toList).head? = some 'W' := same ▸ rfl
  rw [List.head?_append, begins, Option.some_or] at first
  exact other (Option.some.inj first)

theorem not_warningHead_of_mem {pipeline : Pipeline} {line : String}
    (member : line ∈ pipeline.overviewLines) : ¬ warningHead <+: line.toList := by
  rcases List.mem_append.mp member with front | staged
  · rcases List.mem_append.mp front with image | counts
    · split at image
      · cases image
      · rw [List.mem_singleton.mp image]
        exact not_warningHead_append (by decide : _ = some 'I') (by decide) _
    · rw [List.mem_singleton.mp counts]
      simp only [String.append_assoc]
      exact not_warningHead_append (by decide : _ = some 'P') (by decide) _
  · obtain ⟨stage, _, ofStage⟩ := List.mem_flatMap.mp staged
    rcases List.mem_cons.mp ofStage with rfl | ofTask
    · exact not_warningHead_append (by decide : _ = some ' ') (by decide) _
    · obtain ⟨task, _, rfl⟩ := List.mem_map.mp ofTask
      unfold Task.summaryLine
      rw [String.append_assoc]
      exact not_warningHead_append (by decide : _ = some ' ') (by decide) _

/-- Blanks behind the commas of a list are blanks before its items, but for the first item. -/
theorem cons_intercalate {names : List (List Char)} (occupied : names ≠ []) :
    ' ' :: [',', ' '].intercalate names = [','].intercalate (names.map (' ' :: ·)) := by
  induction names with
  | nil => exact absurd rfl occupied
  | cons name rest ih =>
      cases rest with
      | nil => simp
      | cons next others =>
          have tail := ih (List.cons_ne_nil _ _)
          rw [List.map_cons] at tail
          rw [List.intercalate_cons_cons, List.map_cons, List.map_cons, List.intercalate_cons_cons,
            ← tail]
          simp

theorem toList_warningLine {tasks : List Task} (occupied : tasks ≠ []) :
    (warningLine tasks).toList =
      warningHead ++ [','].intercalate
        (((tasks.map Task.name).map String.toList).map (' ' :: ·)) := by
  have head : "Warning: tasks in undeclared stages are never run: ".toList =
      warningHead ++ [' '] := by
    decide +kernel
  have comma : ", ".toList = [',', ' '] := rfl
  have named : (tasks.map Task.name).map String.toList ≠ [] := by
    simpa using occupied
  unfold warningLine
  rw [← cons_intercalate named, String.toList_append, String.toList_intercalate, head,
    comma, List.append_assoc, List.singleton_append]

/-! ### Line breaks -/

theorem not_mem_append {c : Char} {front rest : String} (inFront : c ∉ front.toList)
    (inRest : c ∉ rest.toList) : c ∉ (front ++ rest).toList := by
  rw [String.toList_append, List.mem_append]
  exact not_or.mpr ⟨inFront, inRest⟩

theorem not_mem_intercalate {c : Char} {separator : String} (apart : c ∉ separator.toList)
    {texts : List String} (without : ∀ text ∈ texts, c ∉ text.toList) :
    c ∉ (separator.intercalate texts).toList := by
  induction texts with
  | nil => simp
  | cons text rest ih =>
      obtain ⟨inFirst, inRest⟩ := List.forall_mem_cons.mp without
      cases rest with
      | nil => simpa using inFirst
      | cons next others =>
          rw [String.intercalate_cons_cons]
          exact not_mem_append (not_mem_append inFirst apart) (ih inRest)

theorem not_mem_toString (n : Nat) : '\n' ∉ (toString n).toList := by
  intro member
  have digits : (toString n).toList = Nat.toDigits 10 n := String.toList_ofList
  rw [digits] at member
  exact absurd (Nat.isDigit_of_mem_toDigits (by decide) (by decide) member) (by decide)

theorem summaryLine_single {task : Task} (named : '\n' ∉ task.name.toList)
    (refers : ∀ name ∈ task.taskRef?, '\n' ∉ name.toList) : '\n' ∉ task.summaryLine.toList := by
  have noted : ∀ note ∈ task.notes, '\n' ∉ note.toList := by
    intro note member
    rcases List.mem_append.mp member with others | artifacts
    · rcases List.mem_append.mp others with others | rules
      · rcases List.mem_append.mp others with reference | jobs
        · obtain ⟨name, found, rfl⟩ := List.mem_map.mp reference
          exact not_mem_append (by decide) (refers name (Option.mem_toList.mp found))
        · split at jobs
          · cases jobs
          · rw [List.mem_singleton.mp jobs]
            exact not_mem_append (not_mem_toString _) (by decide)
      · split at rules
        · cases rules
        · rw [List.mem_singleton.mp rules]
          exact not_mem_append (not_mem_toString _) (by decide)
    · split at artifacts
      · cases artifacts
      · rw [List.mem_singleton.mp artifacts]
        decide
  unfold Task.summaryLine
  refine not_mem_append (not_mem_append (by decide) named) ?_
  cases notes : task.notes with
  | nil => exact List.not_mem_nil
  | cons note rest =>
      rw [notes] at noted
      exact not_mem_append (not_mem_append (by decide) (not_mem_intercalate (by decide) noted))
        (by decide)

theorem overviewLines_single {pipeline : Pipeline} (legible : pipeline.Legible) {line : String}
    (member : line ∈ pipeline.overviewLines) : '\n' ∉ line.toList := by
  rcases List.mem_append.mp member with front | staged
  · rcases List.mem_append.mp front with image | counts
    · split at image
      · cases image
      · rw [List.mem_singleton.mp image]
        exact not_mem_append (by decide) legible.image
    · rw [List.mem_singleton.mp counts]
      exact not_mem_append (not_mem_append (not_mem_append (not_mem_append (by decide)
        (not_mem_toString _)) (by decide)) (not_mem_toString _)) (by decide)
  · obtain ⟨stage, declared, ofStage⟩ := List.mem_flatMap.mp staged
    rcases List.mem_cons.mp ofStage with rfl | ofTask
    · exact not_mem_append (by decide) (legible.stages stage declared)
    · obtain ⟨task, present, rfl⟩ := List.mem_map.mp ofTask
      have listed := List.mem_of_mem_filter present
      exact summaryLine_single (legible.names task listed).1 (legible.references task listed)

theorem summaryLines_single {pipeline : Pipeline} (legible : pipeline.Legible) {line : String}
    (member : line ∈ pipeline.summaryLines) : '\n' ∉ line.toList := by
  rw [summaryLines_eq] at member
  rcases List.mem_append.mp member with inOverview | warns
  · exact overviewLines_single legible inOverview
  · split at warns
    · cases warns
    · rw [List.mem_singleton.mp warns]
      refine not_mem_append (by decide +kernel) (not_mem_intercalate (by decide) ?_)
      rw [List.forall_mem_map]
      exact fun task listed => (legible.names task (List.mem_of_mem_filter listed)).1

theorem filter_overviewLines (pipeline : Pipeline) :
    (pipeline.overviewLines.map String.toList).filter (warningHead <+: ·) = [] := by
  rw [List.filter_eq_nil_iff]
  intro line member
  obtain ⟨text, present, rfl⟩ := List.mem_map.mp member
  exact not_warningHead_of_mem present ∘ of_decide_eq_true

theorem splitOn_items {names : List String} (occupied : names ≠ [])
    (named : ∀ name ∈ names, ',' ∉ name.toList) :
    (([','].intercalate ((names.map String.toList).map (' ' :: ·))).splitOn ',').map
        (fun name => String.ofList (name.drop 1)) = names := by
  rw [List.map_map, List.splitOn_intercalate, List.map_map]
  · exact (List.map_congr_left fun name _ => String.ofList_toList).trans (List.map_id _)
  · rw [List.forall_mem_map]
    intro name listed member
    rcases List.mem_cons.mp member with blank | inName
    · exact absurd blank (by decide)
    · exact named name listed inName
  · simpa using occupied

/-- Where every text in a summary is on one line and the names are without commas, the names that
are read from the warnings are those of the tasks of no stage. -/
theorem warned_summary {pipeline : Pipeline} (legible : pipeline.Legible) :
    warned pipeline.summary = pipeline.neverRun.map Task.name := by
  have named : ∀ name ∈ pipeline.neverRun.map Task.name, ',' ∉ name.toList := by
    rw [List.forall_mem_map]
    exact fun task listed => (legible.names task (List.mem_of_mem_filter listed)).2
  unfold warned summary
  rw [splitOn_join_lines fun _ => summaryLines_single legible, summaryLines_eq, List.map_append,
    List.append_assoc, List.filter_append, filter_overviewLines, List.nil_append]
  generalize pipeline.neverRun = tasks at named ⊢
  split
  · rename_i none
    rw [none]
    rfl
  · rename_i occupied
    have text := toList_warningLine occupied
    have warns : warningHead <+: (warningLine tasks).toList := ⟨_, text.symm⟩
    have last : ¬ warningHead <+: [] := by decide +kernel
    rw [List.map_singleton, List.singleton_append, List.filter_cons, if_pos (decide_eq_true warns),
      List.filter_cons, if_neg (mt of_decide_eq_true last), List.filter_nil,
      List.flatMap_singleton, text, List.drop_left]
    exact splitOn_items (by simpa using occupied) named

end Pipeline

end StagedRuns
