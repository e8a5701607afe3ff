import StagedRuns.Client.Engine
import StagedRuns.Client.SourceHost
import StagedRuns.Proofs.Client.Exchange
import StagedRuns.Proofs.Counters
import StagedRuns.Proofs.Result

/-!
How calls are counted, whatever comes back. Every call is counted once under the name of its operation,
and a second time if it fails. That a file does not exist is no failure, and the host of the
repositories is not taken to fail either when it knows nothing of a commit.
-/

namespace StagedRuns

open StagedRuns.Http (Request Response Transport)

abbrev Http.Exchange : Type :=
  Request × Option Response

/-- A way to other services that keeps what was sent and what came back. An answer may depend on all
that came before. -/
def Http.Transport.recorded (answers : List Http.Exchange → Request → Option Response) :
    Transport (StateM (List Http.Exchange)) where
  exchange := fun request => do
    let log ← get
    let answer := answers log request
    set (log ++ [(request, answer)])
    return answer

namespace Client

inductive Operation where
  | createRun (engine : EngineClient) (run : Run)
  | listRuns (engine : EngineClient) (selector : String)
  | updateRun (engine : EngineClient) (run : Run)
  | createVolume (engine : EngineClient) (size : String)
  | fileContents (host : SourceHostClient) (repository path ref : String)
  | createStatus (host : SourceHostClient) (repository commit : String) (report : Run.Report)

namespace Operation

/-- The name that an operation is counted under. A run without a name cannot be updated, and trying
to is no call. -/
def label? : Operation → Option String
  | .createRun _ _ => some "create_pipelinerun"
  | .listRuns _ _ => some "list_pipelineruns"
  | .updateRun _ run => run.metadata.name.map fun _ => "update_pipelinerun"
  | .createVolume _ _ => some "create_volume"
  | .fileContents _ _ _ _ => some "file_contents"
  | .createStatus _ _ _ _ => some "create_status"

def fetches : Operation → Bool
  | .fileContents _ _ _ _ => true
  | _ => false

def reports : Operation → Bool
  | .createStatus _ _ _ _ => true
  | _ => false

def asksHost (operation : Operation) : Bool :=
  operation.fetches || operation.reports

def perform (transport : Transport (StateM (List Http.Exchange))) :
    Operation → Calling (StateM (List Http.Exchange)) (Option ClientError)
  | .createRun engine run => Result.fault? <$> engine.createRun transport run
  | .listRuns engine selector => Result.fault? <$> engine.listRuns transport selector
  | .updateRun engine run => Result.fault? <$> engine.updateRun transport run
  | .createVolume engine size => Result.fault? <$> engine.createVolume transport size
  | .fileContents host repository path ref =>
      Result.fault? <$> host.fileContents transport repository path ref
  | .createStatus host repository commit report =>
      Result.fault? <$> host.createStatus transport repository commit report

end Operation

structure Performed where
  operation : Operation
  exchanges : List Http.Exchange
  error : Option ClientError

namespace Performed

def notFound (performed : Performed) : Bool :=
  performed.exchanges.any fun exchange => exchange.2.any (·.status = 404)

/-- Whether an operation fails under a label. A file that does not exist is no failure. -/
def failsAs (performed : Performed) (label : String) : Bool :=
  performed.operation.label? = some label && performed.error.isSome &&
    !(performed.operation.fetches && performed.notFound)

/-- Whether an operation is a report on a commit that the host knows nothing of. -/
def passedOver (performed : Performed) : Bool :=
  performed.operation.reports && performed.notFound

theorem failsAs_and_not_passedOver (performed : Performed) (label : String) :
    (performed.failsAs label && !performed.passedOver) =
      (performed.operation.label? = some label && performed.error.isSome &&
        !(performed.operation.asksHost && performed.notFound)) := by
  unfold failsAs passedOver Operation.asksHost
  cases performed.operation.fetches <;> cases performed.operation.reports <;>
    cases performed.notFound <;> simp

theorem failsAs_of_passedOver (performed : Performed) {label : String}
    (stray : performed.passedOver) (failed : performed.error.isSome) :
    performed.failsAs label = decide (performed.operation.label? = some label) := by
  have fetchesNot : performed.operation.fetches = false := by
    cases operation : performed.operation <;> simp_all [passedOver, Operation.reports,
      Operation.fetches]
  simp [failsAs, failed, fetchesNot]

/-- What an operation changes in the counters. -/
structure Accounted (performed : Performed) (before after : Counters) : Prop where
  calls : ∀ label, after.get .calls label =
    before.get .calls label + if performed.operation.label? = some label then 1 else 0
  failedCalls : ∀ label, after.get .failedCalls label =
    before.get .failedCalls label +
      if performed.failsAs label && !performed.passedOver then 1 else 0
  refused : performed.operation.label? = none →
    performed.exchanges = [] ∧ performed.error.isSome ∧ after = before
  missing : performed.operation.asksHost → performed.notFound → performed.error.isSome

end Performed

/-! ### One operation -/

section Counted

variable {α : Type} (label : String) (outcome : Outcome α) (fails : ClientError → Bool)
  (counters : Counters) (other : String)

theorem get_calls_count :
    (count label outcome fails counters).get .calls other =
      counters.get .calls other + if other = label then 1 else 0 := by
  unfold count
  cases outcome with
  | ok value => simp [Counters.countCall, Counters.get_increment]
  | error error =>
      cases failed : fails error <;>
        simp [Counters.countCall, Counters.countFailedCall, Counters.get_increment, failed]

theorem get_failedCalls_count :
    (count label outcome fails counters).get .failedCalls other =
      counters.get .failedCalls other +
        if other = label ∧ (Result.fault? outcome).any fails then 1 else 0 := by
  unfold count
  cases outcome with
  | ok value => simp [Counters.countCall, Counters.get_increment, Result.fault?]
  | error error =>
      cases failed : fails error <;>
        simp [Counters.countCall, Counters.countFailedCall, Counters.get_increment, Result.fault?,
          failed]

end Counted

section Performing

variable {α : Type} {operation : Operation} {label : String} {fails : ClientError → Bool}
  {outcome : Outcome α} {exchanges : List Http.Exchange} {counters : Counters}

/-- What a call counts fits to what was answered, if the answers that say that something does not
exist are read as such where they are no failures. -/
theorem accounted_count (labelled : operation.label? = some label)
    (judged : ∀ error, fails error = !(operation.asksHost && error.isNotFound))
    (told : operation.asksHost → (Result.fault? outcome).any ClientError.isNotFound =
      Performed.notFound ⟨operation, exchanges, Result.fault? outcome⟩) :
    Performed.Accounted ⟨operation, exchanges, Result.fault? outcome⟩ counters
      (count label outcome fails counters) := by
  refine { calls := ?_, failedCalls := ?_, refused := ?_, missing := ?_ }
  · intro other
    rw [get_calls_count]
    simp only [labelled, Option.some_inj, @eq_comm _ label]
  · intro other
    rw [get_failedCalls_count, Performed.failsAs_and_not_passedOver]
    have fits : (Result.fault? outcome).any fails =
        ((Result.fault? outcome).isSome && !(operation.asksHost &&
          Performed.notFound ⟨operation, exchanges, Result.fault? outcome⟩)) := by
      cases asks : operation.asksHost with
      | false => cases Result.fault? outcome <;> simp [judged, asks]
      | true =>
          rw [← told asks]
          cases Result.fault? outcome <;> simp [judged, asks]
    rw [fits, labelled]
    simp only [Bool.and_eq_true, decide_eq_true_eq, Option.some_inj, and_assoc, @eq_comm _ label]
  · intro unlabelled
    cases labelled.symm.trans unlabelled
  · intro asks notFound
    rw [← told asks] at notFound
    cases found : Result.fault? outcome with
    | none =>
        rw [found] at notFound
        cases notFound
    | some error => rfl

variable (answers : List Http.Exchange → Request → Option Response) (log : List Http.Exchange)

theorem recorded_exchange (request : Request) :
    ((Transport.recorded answers).exchange request).run log =
      (answers log request, log ++ [(request, answers log request)]) :=
  rfl

/-- Whether an answer is read as one that says that something does not exist exactly if it does. -/
def ReadsMissing {α : Type} (read : Response → Outcome α) : Prop :=
  ∀ response, (Result.fault? (read response)).any ClientError.isNotFound =
    decide (response.status = 404)

theorem settled_missing {read : Response → Outcome α} (reads : ReadsMissing read)
    (answer : Option Response) :
    (Result.fault? (settled read answer)).any ClientError.isNotFound =
      answer.any (·.status = 404) := by
  cases answer with
  | none => rfl
  | some response =>
      unfold settled
      dsimp only
      split
      · exact reads response
      · rename_i notFinal
        have other : response.status ≠ 404 := by
          intro same
          exact notFinal (by simp [Response.isFinal, same])
        simp [Result.fault?, ClientError.isNotFound, other]

theorem exchange_accounted {request? : Option Request} {read : Response → Outcome α}
    (labelled : operation.label? = some label)
    (judged : ∀ error, fails error = !(operation.asksHost && error.isNotFound))
    (exchanged : (exchange (.recorded answers) request? read).run log =
      (outcome, log ++ exchanges))
    (told : operation.asksHost → (Result.fault? outcome).any ClientError.isNotFound =
      Performed.notFound ⟨operation, exchanges, Result.fault? outcome⟩) :
    ∃ error exchanges after,
      ((Result.fault? <$> call (.recorded answers) label fails request? read).run counters).run
          log = ((error, after), log ++ exchanges) ∧
        Performed.Accounted ⟨operation, exchanges, error⟩ counters after :=
  ⟨_, _, _, run_map (call_run exchanged), accounted_count labelled judged told⟩

theorem call_accounted {request? : Option Request} {read : Response → Outcome α}
    (labelled : operation.label? = some label)
    (judged : ∀ error, fails error = !(operation.asksHost && error.isNotFound))
    (missing : operation.asksHost → ReadsMissing read) :
    ∃ error exchanges after,
      ((Result.fault? <$> call (.recorded answers) label fails request? read).run counters).run
          log = ((error, after), log ++ exchanges) ∧
        Performed.Accounted ⟨operation, exchanges, error⟩ counters after := by
  cases request? with
  | none =>
      have unsent := congrArg (Prod.mk (.error (.requestFailed
        "no request can be sent to this address") : Outcome α)) (List.append_nil log).symm
      exact exchange_accounted answers log labelled judged (exchange_none.trans unsent)
        fun _ => rfl
  | some request =>
      refine exchange_accounted answers log labelled judged
        (exchange_some (recorded_exchange answers log request)) ?_
      intro asks
      rw [settled_missing (missing asks)]
      simp [Performed.notFound]

theorem readContents_missing (repository path ref : String) :
    ReadsMissing (SourceHostClient.readContents repository path ref) := by
  intro response
  unfold SourceHostClient.readContents successful
  by_cases absent : response.status = 404
  · simp [absent, Result.fault?, ClientError.isNotFound]
  · cases response.succeeded <;>
      simp [absent, Result.fault?, ClientError.isNotFound, Bind.bind, Except.bind]

theorem readReported_missing :
    ReadsMissing (fun response => do
      let _ ← successful response
      .ok () : Response → Outcome Unit) := by
  intro response
  unfold successful
  cases succeeded : response.succeeded with
  | false => simp [succeeded, Result.fault?, ClientError.isNotFound, Bind.bind, Except.bind]
  | true =>
      have other : response.status ≠ 404 := by
        intro same
        simp [Response.succeeded, same] at succeeded
      simp [succeeded, other, Result.fault?, Bind.bind, Except.bind]

theorem perform_accounted (operation : Operation) :
    ∃ error exchanges after,
      ((operation.perform (.recorded answers)).run counters).run log =
        ((error, after), log ++ exchanges) ∧
      Performed.Accounted ⟨operation, exchanges, error⟩ counters after := by
  cases operation with
  | createRun engine run | listRuns engine selector | createVolume engine size =>
      refine call_accounted answers log rfl (fun _ => rfl) ?_
      exact nofun
  | updateRun engine run =>
      cases named : run.metadata.name with
      | none =>
          have unlabelled : (Operation.updateRun engine run).label? = none := by
            simp [Operation.label?, named]
          simp only [Operation.perform, EngineClient.updateRun, named]
          refine ⟨some (.invalidRequest "cannot update a run without a name"), [], counters, ?_, ?_⟩
          · rw [List.append_nil]
            rfl
          · constructor <;> simp [Performed.failsAs, Performed.notFound, unlabelled]
      | some name =>
          have labelled :
              (Operation.updateRun engine run).label? = some "update_pipelinerun" := by
            simp [Operation.label?, named]
          simp only [Operation.perform, EngineClient.updateRun, named]
          refine call_accounted answers log labelled (fun _ => rfl) ?_
          exact nofun
  | fileContents host repository path ref =>
      refine call_accounted answers log rfl (fun _ => rfl) fun _ => ?_
      exact readContents_missing repository path ref
  | createStatus host repository commit report =>
      refine call_accounted answers log rfl (fun _ => rfl) fun _ => ?_
      exact readReported_missing

end Performing

/-! ### One operation after the other -/

section Sequence

variable (answers : List Http.Exchange → Request → Option Response)

def Operation.performed (operation : Operation) :
    Calling (StateM (List Http.Exchange)) Performed := do
  let before ← StateT.lift get
  let error ← operation.perform (.recorded answers)
  let after ← StateT.lift get
  return { operation, exchanges := after.drop before.length, error }

def performAll (operations : List Operation) :
    Calling (StateM (List Http.Exchange)) (List Performed) :=
  operations.mapM (Operation.performed answers)

variable (counters : Counters) (log : List Http.Exchange)

theorem performed_run (operation : Operation) :
    ∃ performed after,
      ((operation.performed answers).run counters).run log =
        ((performed, after), log ++ performed.exchanges) ∧
      performed.operation = operation ∧ performed.Accounted counters after := by
  obtain ⟨error, exchanges, after, run, accounted⟩ :=
    @perform_accounted counters answers log operation
  refine ⟨⟨operation, exchanges, error⟩, after, ?_, rfl, accounted⟩
  have looked (counters : Counters) (log : List Http.Exchange) :
      ((StateT.lift get : Calling (StateM (List Http.Exchange)) _).run counters).run log =
        ((log, counters), log) := rfl
  rw [Operation.performed, run_bind (looked counters log), run_bind run, run_bind (looked _ _),
    List.drop_left]
  rfl

theorem performAll_cons {operation : Operation} {operations : List Operation}
    {performed : Performed} {rest : List Performed} {between after : Counters}
    {middle later : List Http.Exchange}
    (head : ((operation.performed answers).run counters).run log = ((performed, between), middle))
    (tail : ((performAll answers operations).run between).run middle = ((rest, after), later)) :
    ((performAll answers (operation :: operations)).run counters).run log =
      ((performed :: rest, after), later) := by
  unfold performAll at tail ⊢
  rw [List.mapM_cons, run_bind head, run_bind tail]
  rfl

structure Tallied (performed : List Performed) (before after : Counters) : Prop where
  calls : ∀ label, after.get .calls label =
    before.get .calls label + performed.countP (·.operation.label? = some label)
  failedCalls : ∀ label, after.get .failedCalls label = before.get .failedCalls label +
    performed.countP fun each => each.failsAs label && !each.passedOver
  refused : ∀ each ∈ performed, each.operation.label? = none →
    each.exchanges = [] ∧ each.error.isSome
  missing : ∀ each ∈ performed, each.passedOver → each.error.isSome

theorem tallied_nil : Tallied [] counters counters where
  calls := fun _ => rfl
  failedCalls := fun _ => rfl
  refused := List.forall_mem_nil _
  missing := List.forall_mem_nil _

theorem tallied_cons {performed : Performed} {rest : List Performed}
    {before between after : Counters} (head : performed.Accounted before between)
    (tail : Tallied rest between after) : Tallied (performed :: rest) before after where
  calls := by
    intro label
    rw [tail.calls, head.calls, List.countP_cons]
    simp only [decide_eq_true_eq]
    omega
  failedCalls := by
    intro label
    rw [tail.failedCalls, head.failedCalls, List.countP_cons]
    omega
  refused := List.forall_mem_cons.mpr
    ⟨fun unlabelled => ⟨(head.refused unlabelled).1, (head.refused unlabelled).2.1⟩, tail.refused⟩
  missing := by
    refine List.forall_mem_cons.mpr ⟨fun stray => ?_, tail.missing⟩
    simp only [Performed.passedOver, Bool.and_eq_true] at stray
    exact head.missing (by simp [Operation.asksHost, stray.1]) stray.2

/-- Operations are carried out one after the other, and those that are refused could as well be left
out. -/
theorem performAll_run (operations : List Operation) :
    ∃ performed after,
      ((performAll answers operations).run counters).run log =
        ((performed, after), log ++ performed.flatMap (·.exchanges)) ∧
      ((performAll answers (operations.filter (·.label?.isSome))).run counters).run log =
        ((performed.filter (·.operation.label?.isSome), after),
          log ++ performed.flatMap (·.exchanges)) ∧
      performed.map (·.operation) = operations ∧ Tallied performed counters after := by
  induction operations generalizing counters log with
  | nil =>
      refine ⟨[], counters, ?_, ?_, rfl, tallied_nil counters⟩ <;>
      · rw [List.flatMap_nil, List.append_nil]
        rfl
  | cons operation operations ih =>
      obtain ⟨performed, between, head, same, accounted⟩ :=
        performed_run answers counters log operation
      obtain ⟨rest, after, tail, labelledTail, sameRest, tallied⟩ :=
        ih between (log ++ performed.exchanges)
      refine ⟨performed :: rest, after, ?_, ?_, by rw [List.map_cons, same, sameRest],
        tallied_cons accounted tallied⟩
      · rw [List.flatMap_cons, ← List.append_assoc]
        exact performAll_cons answers counters log head tail
      · rw [List.flatMap_cons, ← List.append_assoc]
        cases labelled : operation.label? with
        | none =>
            -- What is refused leaves the log and the counters as they are.
            rw [← same] at labelled
            obtain ⟨unsent, -, unchanged⟩ := accounted.refused labelled
            rw [unsent, unchanged, List.append_nil] at labelledTail
            simpa [unsent, ← same, labelled] using labelledTail
        | some label =>
            simpa [same, labelled] using performAll_cons answers counters log head labelledTail

/-- Every failed operation is counted as one, apart from the reports that are passed over. -/
theorem countP_failsAs {performed : List Performed}
    (missing : ∀ each ∈ performed, each.passedOver → each.error.isSome) (label : String) :
    performed.countP (·.failsAs label) =
      performed.countP (fun each => each.failsAs label && !each.passedOver) +
        performed.countP fun each =>
          each.operation.label? = some label && each.passedOver := by
  rw [List.countP_eq_countP_filter_add performed _ fun each => !each.passedOver,
    List.countP_filter, List.countP_filter]
  congr 1
  refine List.countP_congr fun each isPerformed => ?_
  simp only [Bool.not_not, Bool.and_eq_true, decide_eq_true_eq]
  refine and_congr_left fun stray => ?_
  rw [each.failsAs_of_passedOver stray (missing each isPerformed stray), decide_eq_true_eq]

/-- Every call that is made is counted under its name. Every call that fails is counted as failed
exactly if no report was on a commit that the host knows nothing of, and it is these reports that are
missing otherwise. Updates of runs without a name send nothing and count nothing. -/
theorem performAll_counted (operations : List Operation) :
    ∃ performed counters,
      ((performAll answers operations).run .zero).run [] =
        ((performed, counters), performed.flatMap (·.exchanges)) ∧
      performed.map (·.operation) = operations ∧
      (∀ label, counters.get .calls label = operations.countP (·.label? = some label)) ∧
      ((∀ label, counters.get .failedCalls label = performed.countP (·.failsAs label)) ↔
        ∀ each ∈ performed, each.passedOver = false) ∧
      (∀ label, performed.countP (·.failsAs label) = counters.get .failedCalls label +
        performed.countP fun each =>
          each.operation.label? = some label && each.passedOver) ∧
      (∀ each ∈ performed, each.operation.label? = none →
        each.exchanges = [] ∧ each.error.isSome) ∧
      ((performAll answers (operations.filter (·.label?.isSome))).run .zero).run [] =
        ((performed.filter (·.operation.label?.isSome), counters),
          performed.flatMap (·.exchanges)) := by
  obtain ⟨performed, counters, run, labelledRun, same, tallied⟩ :=
    performAll_run answers .zero [] operations
  have failed (label : String) : performed.countP (·.failsAs label) =
      counters.get .failedCalls label +
        performed.countP fun each => each.operation.label? = some label && each.passedOver := by
    rw [countP_failsAs tallied.missing, tallied.failedCalls, Counters.get_zero, Nat.zero_add]
  refine ⟨performed, counters, run, same, ?_, ⟨?_, ?_⟩, failed, tallied.refused, labelledRun⟩
  · intro label
    rw [tallied.calls, Counters.get_zero, Nat.zero_add, ← same, List.countP_map]
    rfl
  · intro counted each isPerformed
    by_contra stray
    rw [Bool.not_eq_false] at stray
    have none := failed "create_status"
    rw [← counted, Nat.left_eq_add, List.countP_eq_zero] at none
    have labelled : each.operation.label? = some "create_status" := by
      cases operation : each.operation <;> simp_all [Performed.passedOver, Operation.reports,
        Operation.label?]
    exact none each isPerformed (by simp [labelled, stray])
  · intro counted label
    rw [failed, Nat.left_eq_add, List.countP_eq_zero]
    intro each isPerformed
    simp [counted each isPerformed]

def strayReport : Operation :=
  .createStatus ⟨"http://[::1]:8002", none⟩ "owner/name" "6113728" Run.State.pending.report

/-- A report fails, and is not counted as failed. -/
theorem strayReport_passedOver :
    let done := ((performAll (fun _ _ => some ⟨404, []⟩) [strayReport]).run .zero).run []
    done.1.1.countP (·.failsAs "create_status") = 1 ∧
      done.1.2.get .failedCalls "create_status" = 0 := by
  decide +kernel

end Sequence

end Client

end StagedRuns
