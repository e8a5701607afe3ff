import StagedRuns.Definition.Basic
import StagedRuns.Proofs.Result
import StagedRuns.Proofs.Run.Envelope

/-!
What comes of a definition for an event. The filter decides first, and if it lets the event pass, the
bindings are evaluated one after another, up to the first that has no value. If all have one, there is
a run, whose specification differs from that of the definition in its parameters only.
-/

namespace StagedRuns.Definition

open StagedRuns.Expr (Kind Value)
open StagedRuns.Run (Param)
open StagedRuns.Webhook (Context)

variable {definition : Definition} {context : Context} {generateName hookId : String}
  {source : Source} {run : Run} {problem : DefinitionError}

/-- The filter lets an event pass if it is empty or true. -/
def Admits (definition : Definition) (context : Context) : Prop :=
  definition.filter = "" ∨ context.evaluate definition.filter = .ok (.bool true)

/-- The filter keeps an event back if it is there and false. -/
def Refuses (definition : Definition) (context : Context) : Prop :=
  definition.filter ≠ "" ∧ context.evaluate definition.filter = .ok (.bool false)

theorem passes_of_empty (empty : definition.filter = "") :
    definition.passes context = .ok true := by
  unfold passes
  rw [if_pos empty]

theorem passes_of_nonempty (given : definition.filter ≠ "") :
    definition.passes context =
      match context.evaluate definition.filter with
      | .error error => .error (.expression error)
      | .ok (.bool value) => .ok value
      | .ok other => .error (.filterNotBool definition.filter other.kind) := by
  unfold passes
  exact (if_neg given).trans rfl

theorem passes_eq_true : definition.passes context = .ok true ↔ definition.Admits context := by
  by_cases empty : definition.filter = ""
  · exact iff_of_true (passes_of_empty empty) (.inl empty)
  · rw [passes_of_nonempty empty, Admits, or_iff_right empty]
    cases context.evaluate definition.filter with
    | error error => simp
    | ok value => cases value <;> simp

theorem passes_eq_false : definition.passes context = .ok false ↔ definition.Refuses context := by
  by_cases empty : definition.filter = ""
  · refine iff_of_false ?_ fun refuses => refuses.1 empty
    simp [passes_of_empty empty]
  · rw [passes_of_nonempty empty, Refuses, and_iff_right empty]
    cases context.evaluate definition.filter with
    | error error => simp
    | ok value => cases value <;> simp

theorem passes_eq_expression {error : Expr.Error} :
    definition.passes context = .error (.expression error) ↔
      definition.filter ≠ "" ∧ context.evaluate definition.filter = .error error := by
  by_cases empty : definition.filter = ""
  · refine iff_of_false ?_ fun failed => failed.1 empty
    simp [passes_of_empty empty]
  · rw [passes_of_nonempty empty, and_iff_right empty]
    cases context.evaluate definition.filter with
    | error error => simp
    | ok value => cases value <;> simp

theorem passes_eq_filterNotBool {filter : String} {kind : Kind} :
    definition.passes context = .error (.filterNotBool filter kind) ↔
      definition.filter ≠ "" ∧ filter = definition.filter ∧
        ∃ value, context.evaluate definition.filter = .ok value ∧ value.kind = kind ∧
          kind ≠ .bool := by
  by_cases empty : definition.filter = ""
  · refine iff_of_false ?_ fun failed => failed.1 empty
    simp [passes_of_empty empty]
  · rw [passes_of_nonempty empty, and_iff_right empty]
    cases context.evaluate definition.filter with
    | error error => simp
    | ok value =>
        cases value with
        | bool value =>
            refine iff_of_false nofun ?_
            rintro ⟨-, _, ⟨⟩, rfl, noBool⟩
            exact noBool rfl
        | _ =>
            constructor
            · rintro ⟨⟩
              exact ⟨rfl, _, rfl, rfl, nofun⟩
            · rintro ⟨rfl, _, ⟨⟩, rfl, -⟩
              rfl

theorem param_eq_ok {binding : Binding} {given : Param} :
    param context binding = .ok given ↔
      given.name = binding.name ∧ context.evaluateText binding.expression = .ok given.value := by
  unfold param
  cases context.evaluateText binding.expression with
  | error error => simp
  | ok value =>
      obtain ⟨name, text⟩ := given
      simp [eq_comm]

theorem param_eq_error {binding : Binding} :
    param context binding = .error problem ↔
      ∃ error, problem = .expression error ∧
        context.evaluateText binding.expression = .error error := by
  unfold param
  cases context.evaluateText binding.expression with
  | error error => simp [eq_comm]
  | ok value => simp

theorem execute_none :
    definition.execute context generateName source hookId = .ok none ↔
      definition.passes context = .ok false := by
  unfold execute
  cases definition.passes context with
  | error problem => exact iff_of_false nofun nofun
  | ok passes =>
      rw [Result.ok_bind]
      cases passes with
      | false => exact iff_of_true rfl rfl
      | true =>
          refine iff_of_false ?_ nofun
          rw [if_pos rfl]
          cases definition.bindings.mapM (param context) <;> nofun

theorem execute_some :
    definition.execute context generateName source hookId = .ok (some run) ↔
      definition.passes context = .ok true ∧
        ∃ bound, definition.bindings.mapM (param context) = .ok bound ∧
          run = (Run.new managedBy generateName
            { definition.spec with params := definition.spec.params ++ bound }).correlate
              source hookId := by
  unfold execute
  rw [Result.bind_eq_ok]
  constructor
  · rintro ⟨passes, decided, executed⟩
    cases passes with
    | false => cases executed
    | true =>
        obtain ⟨bound, evaluated, same⟩ := Result.bind_eq_ok.mp executed
        cases same
        exact ⟨decided, bound, evaluated, rfl⟩
  · rintro ⟨decided, bound, evaluated, rfl⟩
    exact ⟨true, decided, Result.bind_eq_ok.mpr ⟨bound, evaluated, rfl⟩⟩

theorem execute_ok (executed : definition.execute context generateName source hookId =
    .ok (some run)) :
    ∃ bound, definition.bindings.mapM (param context) = .ok bound ∧
      run = (Run.new managedBy generateName
        { definition.spec with params := definition.spec.params ++ bound }).correlate
          source hookId :=
  (execute_some.mp executed).2

theorem execute_error :
    definition.execute context generateName source hookId = .error problem ↔
      definition.passes context = .error problem ∨
        definition.passes context = .ok true ∧
          definition.bindings.mapM (param context) = .error problem := by
  unfold execute
  cases definition.passes context with
  | error other => simp [Bind.bind, Except.bind]
  | ok passes =>
      rw [Result.ok_bind]
      cases passes with
      | false => exact iff_of_false nofun (by simp)
      | true =>
          rw [if_pos rfl]
          cases definition.bindings.mapM (param context) with
          | error other => simp [Bind.bind, Except.bind]
          | ok bound => simp [Bind.bind, Except.bind, pure, Except.pure]

theorem execute_expression {error : Expr.Error} :
    definition.execute context generateName source hookId = .error (.expression error) ↔
      (definition.filter ≠ "" ∧ context.evaluate definition.filter = .error error) ∨
        definition.Admits context ∧ ∃ before binding after,
          definition.bindings = before ++ binding :: after ∧
            (∀ earlier ∈ before, ∃ value, context.evaluateText earlier.expression = .ok value) ∧
            context.evaluateText binding.expression = .error error := by
  have valued : ∀ binding : Binding, (∃ given, param context binding = .ok given) ↔
      ∃ value, context.evaluateText binding.expression = .ok value := by
    intro binding
    constructor
    · rintro ⟨given, bound⟩
      exact ⟨given.value, (param_eq_ok.mp bound).2⟩
    · rintro ⟨value, evaluated⟩
      exact ⟨⟨binding.name, value⟩, param_eq_ok.mpr ⟨rfl, evaluated⟩⟩
  rw [execute_error, passes_eq_expression, passes_eq_true, Result.mapM_eq_error]
  simp only [valued, param_eq_error, DefinitionError.expression.injEq, exists_eq_left']

theorem exists_run_iff :
    (∃ run, definition.execute context generateName source hookId = .ok (some run)) ↔
      definition.Admits context ∧
        ∀ binding ∈ definition.bindings, ∃ value,
          context.evaluateText binding.expression = .ok value := by
  constructor
  · rintro ⟨run, executed⟩
    obtain ⟨passes, bound, evaluated, -⟩ := execute_some.mp executed
    refine ⟨passes_eq_true.mp passes, ?_⟩
    intro binding member
    obtain ⟨given, -, valued⟩ := Result.exists_of_forall₂ (Result.mapM_eq_ok.mp evaluated) member
    exact ⟨given.value, (param_eq_ok.mp valued).2⟩
  · rintro ⟨admits, valued⟩
    cases executed : definition.execute context generateName source hookId with
    | ok run? =>
        cases run? with
        | some run => exact ⟨run, rfl⟩
        | none => cases (passes_eq_true.mpr admits).symm.trans (execute_none.mp executed)
    | error problem =>
        rcases execute_error.mp executed with failed | ⟨-, failed⟩
        · cases (passes_eq_true.mpr admits).symm.trans failed
        · obtain ⟨before, binding, after, split, -, failed⟩ := Result.mapM_eq_error.mp failed
          obtain ⟨error, -, failed⟩ := param_eq_error.mp failed
          obtain ⟨value, evaluated⟩ := valued binding (split ▸ by simp)
          cases evaluated.symm.trans failed

/-- What comes of a definition for an event, exactly. Nothing comes of it if the filter is there and
false, whatever the bindings are. Otherwise it fails with a filter that is no truth value or has no
value, and then with the first binding that has none. If nothing fails there is a run, whose
specification is that of the definition with one parameter more for each binding. -/
theorem execute_outcome (definition : Definition) (context : Context) (generateName : String)
    (source : Source) (hookId : String) :
    (definition.execute context generateName source hookId = .ok none ↔
      definition.filter ≠ "" ∧ context.evaluate definition.filter = .ok (.bool false)) ∧
    (definition.execute context generateName source hookId = .ok none → ∀ bindings,
      { definition with bindings }.execute context generateName source hookId = .ok none) ∧
    (∀ filter kind,
      definition.execute context generateName source hookId =
          .error (.filterNotBool filter kind) ↔
        definition.filter ≠ "" ∧ filter = definition.filter ∧
          ∃ value, context.evaluate definition.filter = .ok value ∧ value.kind = kind ∧
            kind ≠ .bool) ∧
    (∀ error,
      definition.execute context generateName source hookId = .error (.expression error) ↔
        (definition.filter ≠ "" ∧ context.evaluate definition.filter = .error error) ∨
          (definition.filter = "" ∨ context.evaluate definition.filter = .ok (.bool true)) ∧
            ∃ before binding after, definition.bindings = before ++ binding :: after ∧
              (∀ earlier ∈ before, ∃ value,
                context.evaluateText earlier.expression = .ok value) ∧
              context.evaluateText binding.expression = .error error) ∧
    ((∃ run, definition.execute context generateName source hookId = .ok (some run)) ↔
      (definition.filter = "" ∨ context.evaluate definition.filter = .ok (.bool true)) ∧
        ∀ binding ∈ definition.bindings, ∃ value,
          context.evaluateText binding.expression = .ok value) ∧
    ∀ run, definition.execute context generateName source hookId = .ok (some run) →
      (∃ bound, run.spec = { definition.spec with params := definition.spec.params ++ bound } ∧
        List.Forall₂ (fun binding param => param.name = binding.name ∧
          context.evaluateText binding.expression = .ok param.value) definition.bindings bound) ∧
      run.annotation? "tekton.dev/ci-source-url" = some source.repoUrl ∧
      run.annotation? "tekton.dev/ci-source-ref" = some source.gitRef ∧
      run.annotation? "tekton.dev/ci-hook-id" = some hookId ∧
      run.metadata.labels.get? "app.kubernetes.io/part-of" = some "Tekton-CI" := by
  refine ⟨execute_none.trans passes_eq_false, ?_, ?_, fun _ => execute_expression, exists_run_iff,
    ?_⟩
  · intro nothing bindings
    have refuses := execute_none.mp nothing
    exact execute_none.mpr refuses
  · intro filter kind
    rw [execute_error, passes_eq_filterNotBool, or_iff_left]
    rintro ⟨-, failed⟩
    obtain ⟨_, binding, _, -, -, failed⟩ := Result.mapM_eq_error.mp failed
    obtain ⟨error, same, -⟩ := param_eq_error.mp failed
    cases same
  · intro run executed
    obtain ⟨-, bound, evaluated, rfl⟩ := execute_some.mp executed
    refine ⟨⟨bound, rfl, ?_⟩, Run.correlate_sourceUrl _, Run.correlate_sourceRef _,
      Run.correlate_hookId _, Run.correlate_partOf⟩
    exact (Result.mapM_eq_ok.mp evaluated).imp fun _ _ => param_eq_ok.mp

def unbound : Definition :=
  { Definition.empty with
    filter := "true"
    bindings := [⟨"commit", "'6113728'"⟩, ⟨"title", "absent"⟩, ⟨"owner", "hook."⟩] }

/-- The first binding without a value decides how the definition fails. A filter that is false keeps
both from being evaluated. -/
theorem unbound_outcome :
    (∃ error, (Webhook.Context.ofDocument .null).evaluateText "absent" = .error error ∧
      unbound.execute (.ofDocument .null) "run-" default "delivery" =
        .error (.expression error)) ∧
    { unbound with filter := "false" }.execute (.ofDocument .null) "run-" default "delivery" =
      .ok none := by
  have admits : unbound.Admits (.ofDocument .null) := .inr rfl
  have failing : (Result.fault?
      ((Webhook.Context.ofDocument .null).evaluateText "absent")).isSome := by
    decide +kernel
  have valued : ((Webhook.Context.ofDocument .null).evaluateText "'6113728'").toOption =
      some "6113728" := by
    decide +kernel
  obtain ⟨error, failed⟩ := Result.fault?_isSome.mp failing
  constructor
  · refine ⟨error, failed, ?_⟩
    obtain ⟨-, -, -, fails, -⟩ :=
      execute_outcome unbound (.ofDocument .null) "run-" default "delivery"
    refine (fails error).mpr (.inr ⟨admits, [⟨"commit", "'6113728'"⟩], ⟨"title", "absent"⟩, _, rfl, ?_,
      failed⟩)
    rw [List.forall_mem_singleton]
    exact ⟨_, Result.ok_of_toOption valued⟩
  · exact (execute_outcome { unbound with filter := "false" } _ _ _ _).1.mpr ⟨by decide, rfl⟩

end StagedRuns.Definition
