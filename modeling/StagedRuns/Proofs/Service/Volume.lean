import StagedRuns.Proofs.Plan.Failure
import StagedRuns.Proofs.Service.Origin

/-!
What becomes of a volume. It is claimed before the pipeline is planned, so a delivery that claimed
one ends without a run for it if, and only if, an expression of the pipeline fails.
-/

namespace StagedRuns

open StagedRuns.Webhook (Context Event)

namespace Pipeline

variable {pipeline : Pipeline} {settings : Settings} {source : Source} {claim hookId : String}

/-- The error of the first evaluation that fails, in the order in which planning evaluates. -/
def firstFault? (pipeline : Pipeline) (context : Context) : Option Expr.Error :=
  (pipeline.evaluations context).findSome? (Evaluation.fault? context)

theorem fault?_plan_first {context : Context} :
    Result.fault? (pipeline.plan settings source claim (some context) hookId) =
      (pipeline.firstFault? context).map .expression := by
  rw [fault?_plan_event, firstFault?, List.map_findSome?]
  rfl

theorem firstFault?_of_plan {context : Context} {problem : PlanError}
    (failed : pipeline.plan settings source claim (some context) hookId = .error problem) :
    ∃ fault, pipeline.firstFault? context = some fault ∧ problem = .expression fault := by
  have first := fault?_plan_first.symm.trans (Result.fault?_eq_some.mpr failed)
  obtain ⟨fault, found, same⟩ := Option.map_eq_some_iff.mp first
  exact ⟨fault, found, same.symm⟩

theorem firstFault?_of_planned {context : Context} {run : Run}
    (planned : pipeline.plan settings source claim (some context) hookId = .ok run) :
    pipeline.firstFault? context = none := by
  have first : Result.fault? (pipeline.plan settings source claim (some context) hookId) =
      (pipeline.firstFault? context).map .expression := fault?_plan_first
  rw [planned] at first
  exact Option.map_eq_none_iff.mp first.symm

theorem plan_workspaces {context : Option Context} {run : Run}
    (planned : pipeline.plan settings source claim context hookId = .ok run) :
    run.spec.workspaces = [⟨Plan.workspace, claim⟩] := by
  obtain ⟨nodes, _, same⟩ := Result.bind_eq_ok.mp planned
  cases same
  rfl

end Pipeline

namespace Delivery

variable {settings : ServiceSettings} {answers : Answers} {counters : Counters}
  {delivery : Delivery} {size claim : String}

/-- A volume is claimed only for a pipeline that could be read, and it is then either planned for or
the last thing that was asked for. -/
theorem course_of_claimed {event : Event} {content : List UInt8} {before calls : List Call}
    {made : Except DeliveryError Run}
    (course : PipelineCourse settings answers delivery event content before made calls)
    (claimed : .createVolume size (.ok claim) ∈ calls) :
    size = settings.plan.volumeSize ∧ ∃ pipeline, readPipeline content = .ok pipeline ∧
      ((∃ problem, pipeline.plan settings.plan (source event) claim (some (.ofEvent event))
            delivery.id = .error problem ∧ made = .error (.plan problem) ∧
          calls = [.createVolume size (.ok claim)]) ∨
        ∃ run answer, pipeline.plan settings.plan (source event) claim (some (.ofEvent event))
            delivery.id = .ok run ∧
          calls = [.createVolume size (.ok claim), .createRun run answer]) := by
  cases course with
  | unreadable => cases claimed
  | unclaimed => cases List.mem_singleton.mp claimed
  | unplanned read granted failed =>
      cases List.mem_singleton.mp claimed
      exact ⟨rfl, _, read, Or.inl ⟨_, failed, rfl, rfl⟩⟩
  | planned read granted planned =>
      rcases List.mem_cons.mp claimed with same | atEnd
      · cases same
        exact ⟨rfl, _, read, Or.inr ⟨_, _, planned, rfl⟩⟩
      · cases List.mem_singleton.mp atEnd

/-- A delivery that claimed a volume goes on to create a run that is bound to it, unless an
expression of the pipeline fails. Then the first one that does is the error of the delivery, which
asks for nothing more, and nothing uses the volume. -/
theorem claimed_bound_unless_fault
    (claimed : .createVolume size (.ok claim) ∈
      (handled .pipeline settings answers counters delivery).calls) :
    ∃ event content pipeline, Event.parse delivery.kind delivery.payload = .ok event ∧
      readPipeline content = .ok pipeline ∧
      (pipeline.firstFault? (.ofEvent event) = none →
        ∃ run answer, run.spec.workspaces = [⟨Plan.workspace, claim⟩] ∧
          (handled .pipeline settings answers counters delivery).calls =
            [ fetching .pipeline settings event (.ok content), .createVolume size (.ok claim)
            , .createRun run answer ]) ∧
      ∀ fault, pipeline.firstFault? (.ofEvent event) = some fault →
        (handled .pipeline settings answers counters delivery).result =
            .error (.plan (.expression fault)) ∧
          (handled .pipeline settings answers counters delivery).calls =
            [fetching .pipeline settings event (.ok content), .createVolume size (.ok claim)] := by
  have course := handled_course .pipeline settings answers counters delivery
  generalize handled .pipeline settings answers counters delivery = outcome at course claimed ⊢
  cases course with
  | refused | ignored => cases claimed
  | unfetched | declined => cases List.mem_singleton.mp claimed
  | @made event content result calls received wanted fetched accepted making =>
      obtain ⟨made, rfl, course⟩ := making
      have inCalls : .createVolume size (.ok claim) ∈ calls := by
        rcases List.mem_cons.mp claimed with impossible | inCalls
        · cases impossible
        · exact inCalls
      obtain ⟨_, pipeline, read, ⟨problem, failed, rfl, rfl⟩ | ⟨run, answer, planned, rfl⟩⟩ :=
        course_of_claimed course inCalls
      · obtain ⟨fault, found, rfl⟩ := Pipeline.firstFault?_of_plan failed
        refine ⟨event, content, pipeline, received, read, ?_, ?_⟩
        · intro none
          cases found.symm.trans none
        · intro other again
          cases found.symm.trans again
          exact ⟨rfl, rfl⟩
      · have none := Pipeline.firstFault?_of_planned planned
        refine ⟨event, content, pipeline, received, read, ?_, ?_⟩
        · exact fun _ => ⟨run, answer, Pipeline.plan_workspaces planned, rfl⟩
        · intro fault found
          cases none.symm.trans found

def Call.claims : Call → Bool
  | .createVolume _ (.ok _) => true
  | _ => false

theorem exists_claim_of_any {calls : List Call} (claims : calls.any Call.claims = true) :
    ∃ size claim, .createVolume size (.ok claim) ∈ calls := by
  obtain ⟨call, present, isClaim⟩ := List.any_eq_true.mp claims
  cases call with
  | fileContents | createRun => cases isClaim
  | createVolume size answer =>
      cases answer with
      | error problem => cases isClaim
      | ok claim => exact ⟨size, claim, present⟩

theorem samplePush_bound :
    ∃ size claim run answer, .createVolume size (.ok claim) ∈ sampleHandled.calls ∧
      .createRun run answer ∈ sampleHandled.calls ∧
      run.spec.workspaces = [⟨Plan.workspace, claim⟩] := by
  have claims : sampleHandled.calls.any Call.claims = true := by
    decide +kernel
  have creates : sampleHandled.calls.length = 3 := by
    decide +kernel
  obtain ⟨size, claim, claimed⟩ := exists_claim_of_any claims
  obtain ⟨event, content, pipeline, _, _, bound, fails⟩ := claimed_bound_unless_fault claimed
  cases fault : pipeline.firstFault? (.ofEvent event) with
  | some found =>
      have short := congrArg List.length (fails found fault).2
      rw [show (handled _ _ _ _ _).calls.length = 3 from creates] at short
      cases short
  | none =>
      obtain ⟨run, answer, workspaces, calls⟩ := bound fault
      refine ⟨size, claim, run, answer, claimed, ?_, workspaces⟩
      rw [show sampleHandled.calls = _ from calls]
      exact List.mem_of_getLast? rfl

def unguardedAnswers : Answers :=
  { sampleAnswers with
    fileContents := fun _ _ _ _ => .ok (Text.Utf8.encode
      "lint:\n  script:\n    - make lint\n  rules:\n    - if: missing\n      when: never\n") }

def unguardedHandled : Handled :=
  handled .pipeline default unguardedAnswers .zero samplePush

/-- A volume can be claimed for a run that is never created. -/
theorem unguarded_unbound :
    ∃ size claim, .createVolume size (.ok claim) ∈ unguardedHandled.calls ∧
      ∀ run answer, .createRun run answer ∉ unguardedHandled.calls := by
  have claims : unguardedHandled.calls.any Call.claims = true := by
    decide +kernel
  have creates : unguardedHandled.calls.any Call.creates = false := by
    decide +kernel
  obtain ⟨size, claim, claimed⟩ := exists_claim_of_any claims
  refine ⟨size, claim, claimed, ?_⟩
  intro run answer created
  exact List.any_eq_false.mp creates _ created rfl

end Delivery

end StagedRuns
