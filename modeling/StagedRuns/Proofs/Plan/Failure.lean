import StagedRuns.Proofs.Plan.Success

/-!
How planning fails. What is evaluated for an event is a list, in the order of the stages and their
tasks: planning fails exactly if a member of the list does, and with the first one that does.
Without an event, nothing can be evaluated.
-/

namespace StagedRuns

open StagedRuns.Webhook (Context)

/-! ### Expressions -/

theorem Expr.value_error {bindings : Expr.Bindings} {expression : String} {error : Expr.Error}
    (failed : Expr.value bindings expression = .error error) : error.expression = expression := by
  unfold Expr.value at failed
  split at failed
  · cases failed
    rfl
  · split at failed
    · cases failed
    · cases failed
      rfl

theorem Webhook.Context.evaluateText_error {context : Context} {expression : String}
    {error : Expr.Error} (failed : context.evaluateText expression = .error error) :
    error.expression = expression := by
  unfold Context.evaluateText at failed
  cases evaluated : context.evaluate expression with
  | error found =>
      rw [evaluated] at failed
      cases failed
      exact Expr.value_error evaluated
  | ok value =>
      rw [evaluated, Result.ok_bind] at failed
      cases value <;> cases failed <;> rfl

/-! ### What is evaluated -/

/-- Whether a rule takes its task out of a run: its directive says so, and its guard is true. -/
def Rule.bars (context : Context) (rule : Rule) : Bool :=
  match context.evaluate rule.guard with
  | .ok value => value.isTrue && rule.directive = never
  | .error _ => false

def Task.barred (context : Context) (task : Task) : Bool :=
  task.rules.any (Rule.bars context)

inductive Evaluation where
  | guard (rule : Rule)
  | parameter (bound : Parameter)
deriving DecidableEq, Repr

namespace Evaluation

def expression : Evaluation → String
  | .guard rule => rule.guard
  | .parameter bound => bound.expression

def fault? (context : Context) : Evaluation → Option Expr.Error
  | .guard rule => Result.fault? (context.evaluate rule.guard)
  | .parameter bound => Result.fault? (context.evaluateText bound.expression)

theorem fault?_expression {context : Context} {evaluation : Evaluation} {error : Expr.Error}
    (fails : evaluation.fault? context = some error) :
    error.expression = evaluation.expression := by
  cases evaluation with
  | guard rule => exact Expr.value_error (Result.fault?_eq_some.mp fails)
  | parameter bound => exact Context.evaluateText_error (Result.fault?_eq_some.mp fails)

end Evaluation

/-- What is evaluated for a task: all guards, and its parameters if no rule bars it and it refers
to a task of the engine. -/
def Task.evaluations (context : Context) (task : Task) : List Evaluation :=
  task.rules.map .guard ++
    if task.barred context || task.taskRef?.isNone then []
    else task.parameters.map .parameter

def Pipeline.staged (pipeline : Pipeline) : List Task :=
  pipeline.stages.flatMap pipeline.tasksOf

def Pipeline.evaluations (pipeline : Pipeline) (context : Context) : List Evaluation :=
  pipeline.staged.flatMap (Task.evaluations context)

/-- Whether the parameters of a task are evaluated if nothing bars it. -/
def Task.Parameterized (task : Task) : Prop :=
  task.taskRef?.isSome ∧ task.parameters ≠ []

instance (task : Task) : Decidable task.Parameterized :=
  inferInstanceAs (Decidable (_ ∧ _))

namespace Plan

open StagedRuns.Run (Variable)

theorem variantEnvs_ne_nil (base : List Variable) (jobs : List (Dictionary String)) :
    variantEnvs base jobs ≠ [] := by
  unfold variantEnvs
  cases jobs <;> exact List.cons_ne_nil _ _

namespace Frame

variable {frame : Frame} {position : Nat} {frontier : List String}

def paramFault? (frame : Frame) (task : Task) : Option PlanError :=
  if task.taskRef?.isSome then
    task.parameters.findSome? fun parameter => Result.fault? (frame.param task.name parameter)
  else none

def taskFault? (frame : Frame) (task : Task) : Option PlanError :=
  match frame.excludes task with
  | .error error => some error
  | .ok true => none
  | .ok false => frame.paramFault? task

theorem fault?_taskNode {task : Task} {name : String} {env : List Variable} :
    Result.fault? (frame.taskNode frontier task name env) = frame.paramFault? task := by
  unfold taskNode paramFault?
  cases task.taskRef? with
  | none => rfl
  | some taskRef => exact Result.fault?_bind_pure.trans Result.fault?_mapM

theorem fault?_variant {task : Task} {name : String} {env : List Variable} :
    Result.fault? (frame.variant position frontier task name env) = frame.paramFault? task :=
  Result.fault?_bind_pure.trans fault?_taskNode

theorem fault?_variants {stage : String} {task : Task} :
    Result.fault? (frame.variants position frontier stage task) = frame.taskFault? task := by
  unfold variants taskFault?
  cases frame.excludes task with
  | error error => rfl
  | ok excluded =>
      cases excluded with
      | true => rfl
      | false =>
          rw [Result.ok_bind]
          refine Result.fault?_mapM.trans ?_
          simp only [fault?_variant]
          -- All variants fail alike, and there is one at least.
          refine Result.findSome?_const ?_ (frame.paramFault? task)
          rw [Ne, List.zipIdx_eq_nil_iff]
          exact variantEnvs_ne_nil _ _

theorem fault?_stage {name : String} :
    Result.fault? (frame.stage position frontier name) =
      (frame.pipeline.tasksOf name).findSome? frame.taskFault? := by
  unfold Frame.stage
  rw [Result.fault?_bind_pure, Result.fault?_mapM]
  simp only [fault?_variants]

theorem fault?_stages {names : List String} :
    Result.fault? (frame.stages position frontier names) =
      (names.flatMap frame.pipeline.tasksOf).findSome? frame.taskFault? := by
  induction names generalizing position frontier with
  | nil => rfl
  | cons name rest ih =>
      rw [stages, List.flatMap_cons, List.findSome?_append, ← fault?_stage]
      refine Result.fault?_bind ?_
      intro variants staged
      exact Result.fault?_bind_pure.trans ih

theorem fault?_nodes {source : Source} :
    Result.fault? (frame.nodes source) = frame.pipeline.staged.findSome? frame.taskFault? :=
  Result.fault?_bind_pure.trans fault?_stages

/-! ### With an event -/

theorem ruleExcludes_ok {context : Context} {rule : Rule} {excluded : Bool}
    (decided : ruleExcludes context rule = .ok excluded) : excluded = rule.bars context := by
  unfold ruleExcludes at decided
  unfold Rule.bars
  cases evaluated : context.evaluate rule.guard with
  | error error =>
      rw [evaluated] at decided
      cases decided
  | ok value =>
      rw [evaluated] at decided
      cases decided
      rfl

theorem fault?_ruleExcludes {context : Context} {rule : Rule} :
    Result.fault? (ruleExcludes context rule) =
      ((Evaluation.guard rule).fault? context).map .expression := by
  unfold ruleExcludes Evaluation.fault?
  dsimp only
  cases context.evaluate rule.guard <;> rfl

theorem excludes_ok {context : Context} {task : Task} {excluded : Bool}
    (given : frame.context = some context) (decided : frame.excludes task = .ok excluded) :
    excluded = task.barred context := by
  unfold Task.barred
  unfold excludes at decided
  rw [given] at decided
  obtain ⟨decisions, each, same⟩ := Result.bind_eq_ok.mp decided
  cases same
  generalize task.rules = rules at each
  have pairs := Result.mapM_eq_ok.mp each
  clear decided each
  induction pairs with
  | nil => rfl
  | cons headDecided _ ih => rw [List.any_cons, List.any_cons, ih, ruleExcludes_ok headDecided, id]

theorem fault?_excludes {context : Context} {task : Task}
    (given : frame.context = some context) :
    Result.fault? (frame.excludes task) =
      (task.rules.map Evaluation.guard).findSome? fun evaluation =>
        (evaluation.fault? context).map .expression := by
  unfold excludes
  rw [given, List.findSome?_map]
  refine Result.fault?_bind_pure.trans (Result.fault?_mapM.trans ?_)
  simp only [fault?_ruleExcludes, Function.comp_def]

theorem fault?_param {context : Context} {task : String} {parameter : Parameter}
    (given : frame.context = some context) :
    Result.fault? (frame.param task parameter) =
      ((Evaluation.parameter parameter).fault? context).map .expression := by
  unfold param Evaluation.fault?
  rw [given]
  dsimp only
  cases context.evaluateText parameter.expression <;> rfl

/-- A task fails as the first of its evaluations that does. -/
theorem taskFault?_of_event {context : Context} {task : Task}
    (given : frame.context = some context) :
    frame.taskFault? task =
      (task.evaluations context).findSome? fun evaluation =>
        (evaluation.fault? context).map .expression := by
  unfold taskFault? Task.evaluations
  rw [List.findSome?_append, ← fault?_excludes given]
  cases decided : frame.excludes task with
  | error error => rfl
  | ok excluded =>
      rw [← excludes_ok given decided]
      cases excluded with
      | true => rfl
      | false =>
          unfold paramFault?
          cases task.taskRef? with
          | none => rfl
          | some taskRef =>
              simp only [fault?_param given]
              show _ = (task.parameters.map Evaluation.parameter).findSome? _
              rw [List.findSome?_map]
              rfl

/-! ### Without an event -/

theorem taskFault?_of_none {task : Task} (given : frame.context = none) :
    frame.taskFault? task =
      if task.taskRef?.isSome then
        task.parameters.head?.map fun parameter => .missingContext task.name parameter.name
      else none := by
  unfold taskFault? paramFault? excludes param
  rw [given]
  cases task.parameters <;> rfl

theorem taskFault?_isSome {task : Task} (given : frame.context = none) :
    (frame.taskFault? task).isSome ↔ task.Parameterized := by
  rw [taskFault?_of_none given]
  unfold Task.Parameterized
  split
  · rename_i refers
    rw [Option.isSome_map, List.isSome_head?, and_iff_right refers]
  · rename_i unreferred
    exact ⟨Bool.noConfusion, fun parameterized => absurd parameterized.1 unreferred⟩

end Frame

end Plan

namespace Pipeline

variable {pipeline : Pipeline} {settings : Settings} {source : Source} {claim hookId : String}

/-- Planning fails as the first task does that cannot be planned. -/
theorem fault?_plan {context : Option Context} :
    Result.fault? (pipeline.plan settings source claim context hookId) =
      pipeline.staged.findSome? (Plan.Frame.taskFault? ⟨pipeline, settings, context⟩) :=
  Result.fault?_bind_pure.trans Plan.Frame.fault?_nodes

theorem fault?_plan_event {context : Context} :
    Result.fault? (pipeline.plan settings source claim (some context) hookId) =
      (pipeline.evaluations context).findSome? fun evaluation =>
        (evaluation.fault? context).map .expression := by
  unfold evaluations
  rw [fault?_plan, Result.findSome?_flatMap]
  congr 1
  funext task
  exact Plan.Frame.taskFault?_of_event rfl

/-- Planning for an event fails exactly if one of its evaluations does, and as the first one that
does. Without an event it fails exactly if a task has parameters for a task of the engine, and names
the first such task and its first parameter. -/
theorem plan_fails (pipeline : Pipeline) (settings : Settings) (source : Source)
    (claim hookId : String) :
    (∀ context,
      ((∃ error, pipeline.plan settings source claim (some context) hookId = .error error) ↔
        ∃ evaluation ∈ pipeline.evaluations context, (evaluation.fault? context).isSome) ∧
      ∀ before evaluation after fault,
        pipeline.evaluations context = before ++ evaluation :: after →
        (∀ earlier ∈ before, earlier.fault? context = none) →
        evaluation.fault? context = some fault →
          pipeline.plan settings source claim (some context) hookId =
            .error (.expression fault) ∧ fault.expression = evaluation.expression) ∧
    ((∃ error, pipeline.plan settings source claim none hookId = .error error) ↔
      ∃ task ∈ pipeline.staged, task.Parameterized) ∧
    ∀ before task after parameter others,
      pipeline.staged = before ++ task :: after →
      (∀ earlier ∈ before, ¬ earlier.Parameterized) →
      task.taskRef?.isSome → task.parameters = parameter :: others →
        pipeline.plan settings source claim none hookId =
          .error (.missingContext task.name parameter.name) := by
  refine ⟨?_, ?_, ?_⟩
  · intro context
    refine ⟨?_, ?_⟩
    · rw [← Result.fault?_isSome, fault?_plan_event, List.findSome?_isSome_iff]
      simp only [Option.isSome_map]
    · intro before evaluation after fault split earlier fails
      refine ⟨?_, Evaluation.fault?_expression fails⟩
      rw [← Result.fault?_eq_some, fault?_plan_event, List.findSome?_eq_some_iff]
      refine ⟨before, evaluation, after, split, ?_, ?_⟩
      · rw [fails]
        rfl
      · intro other present
        rw [earlier other present]
        rfl
  · rw [← Result.fault?_isSome, fault?_plan, List.findSome?_isSome_iff]
    simp only [Plan.Frame.taskFault?_isSome]
  · intro before task after parameter others split earlier refers bound
    rw [← Result.fault?_eq_some, fault?_plan, List.findSome?_eq_some_iff]
    refine ⟨before, task, after, split, ?_, ?_⟩
    · rw [Plan.Frame.taskFault?_of_none rfl, if_pos refers, bound]
      rfl
    · intro other present
      rw [← Option.not_isSome_iff_eq_none, Plan.Frame.taskFault?_isSome rfl]
      exact earlier other present

end Pipeline

def Pipeline.faulty : Pipeline :=
  { Pipeline.empty with
    stages := ["test"]
    tasks :=
      [ { name := "lint", stage := "test", script := ["make lint"]
          rules := [⟨"true", never⟩, ⟨"missing", "manual"⟩], artifacts := [], options := none } ] }

/-- The guards behind one that bars a task are evaluated too. -/
theorem Pipeline.faulty_fails :
    ∃ fault, Pipeline.faulty.plan
        { archiverImage := "", archiveUrl := "", runPrefix := "", serviceAccount := ""
          volumeSize := "" }
        { repoUrl := "https://example.com/owner/name.git", gitRef := "main" } "claim"
        (some (.ofDocument .null)) "hook" = .error (.expression fault) ∧
      fault.expression = "missing" := by
  obtain ⟨event, _⟩ := Pipeline.plan_fails Pipeline.faulty
    { archiverImage := "", archiveUrl := "", runPrefix := "", serviceAccount := ""
      volumeSize := "" }
    { repoUrl := "https://example.com/owner/name.git", gitRef := "main" } "claim" "hook"
  have listed : Pipeline.faulty.evaluations (.ofDocument .null) =
      [.guard ⟨"true", never⟩] ++ .guard ⟨"missing", "manual"⟩ :: [] := by
    decide +kernel
  have holds : (Evaluation.guard ⟨"true", never⟩).fault? (.ofDocument .null) = none := by
    rfl
  have failing : ((Evaluation.guard ⟨"missing", "manual"⟩).fault? (.ofDocument .null)).isSome := by
    decide +kernel
  obtain ⟨fault, fails⟩ := Option.isSome_iff_exists.mp failing
  refine ⟨fault, (event (.ofDocument .null)).2 _ _ _ _ listed ?_ fails⟩
  intro earlier present
  rw [List.mem_singleton.mp present]
  exact holds

end StagedRuns
