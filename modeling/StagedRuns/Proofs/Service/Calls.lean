import StagedRuns.Proofs.Result
import StagedRuns.Service.Delivery

/-!
The calls that a delivery makes. Whatever is answered, the file is asked for at most once and before
all else, and a run is created at most once and after all else.
-/

namespace StagedRuns

open StagedRuns.Webhook (Event)

namespace Delivery

inductive Call where
  | fileContents (repository path ref : String) (answer : Except ClientError (List UInt8))
  | createVolume (size : String) (answer : Except ClientError String)
  | createRun (run : Run) (answer : Except ClientError Run)

structure World where
  counters : Counters
  calls : List Call

instance : MonadStateOf Counters (StateM World) where
  get := return (← getThe World).counters
  set counters := modifyThe World fun world => { world with counters }
  modifyGet change := modifyGetThe World fun world =>
    let (result, counters) := change world.counters
    (result, { world with counters })

/-- The answers to the calls of a service, which may depend on the calls before. -/
structure Answers where
  fileContents : List Call → (repository path ref : String) → Except ClientError (List UInt8)
  createVolume : List Call → (size : String) → Except ClientError String
  createRun : List Call → Run → Except ClientError Run

def Answers.backend (answers : Answers) : Backend (StateM World) where
  fileContents := fun repository path ref => do
    let answer := answers.fileContents (← getThe World).calls repository path ref
    modifyThe World fun world =>
      { world with calls := world.calls ++ [.fileContents repository path ref answer] }
    return answer
  createVolume := fun size => do
    let answer := answers.createVolume (← getThe World).calls size
    modifyThe World fun world =>
      { world with calls := world.calls ++ [.createVolume size answer] }
    return answer
  createRun := fun run => do
    let answer := answers.createRun (← getThe World).calls run
    modifyThe World fun world =>
      { world with calls := world.calls ++ [.createRun run answer] }
    return answer

structure Handled where
  result : Except DeliveryError (Option Run)
  counters : Counters
  calls : List Call

def handler (file : DeliveryFile) (settings : ServiceSettings) (answers : Answers)
    (delivery : Delivery) : ExceptT DeliveryError (StateM World) (Option Run) :=
  match file with
  | .pipeline => handlePipeline settings answers.backend delivery
  | .definition => handleDefinition settings answers.backend delivery

def handled (file : DeliveryFile) (settings : ServiceSettings) (answers : Answers)
    (counters : Counters) (delivery : Delivery) : Handled :=
  let (result, world) := (handler file settings answers delivery).run { counters, calls := [] }
  { result, counters := world.counters, calls := world.calls }

def readPipeline (content : List UInt8) : Except DeliveryError Pipeline := do
  let text ← decode .pipeline content
  (Pipeline.read text).mapError .pipeline

def readDefinition (content : List UInt8) : Except DeliveryError Definition := do
  let text ← decode .definition content
  (Definition.read text).mapError .unreadableDefinition

section Making

variable (settings : ServiceSettings) (answers : Answers) (delivery : Delivery) (event : Event)
  (content : List UInt8) (before : List Call)

/-- What making a run of a pipeline can come to after some calls, and the calls that it makes. -/
inductive PipelineCourse : Except DeliveryError Run → List Call → Prop
  | unreadable {problem : DeliveryError} (failed : readPipeline content = .error problem) :
      PipelineCourse (.error problem) []
  | unclaimed {pipeline : Pipeline} {problem : ClientError}
      (read : readPipeline content = .ok pipeline)
      (refused : answers.createVolume before settings.plan.volumeSize = .error problem) :
      PipelineCourse (.error (.volume problem))
        [.createVolume settings.plan.volumeSize (.error problem)]
  | unplanned {pipeline : Pipeline} {claim : String} {problem : PlanError}
      (read : readPipeline content = .ok pipeline)
      (claimed : answers.createVolume before settings.plan.volumeSize = .ok claim)
      (failed : pipeline.plan settings.plan (source event) claim (some (.ofEvent event))
        delivery.id = .error problem) :
      PipelineCourse (.error (.plan problem))
        [.createVolume settings.plan.volumeSize (.ok claim)]
  | planned {pipeline : Pipeline} {claim : String} {run : Run} {answer : Except ClientError Run}
      (read : readPipeline content = .ok pipeline)
      (claimed : answers.createVolume before settings.plan.volumeSize = .ok claim)
      (planned : pipeline.plan settings.plan (source event) claim (some (.ofEvent event))
        delivery.id = .ok run)
      (answered : answers.createRun
        (before ++ [.createVolume settings.plan.volumeSize (.ok claim)]) run = answer) :
      PipelineCourse (answer.mapError .createRun)
        [.createVolume settings.plan.volumeSize (.ok claim), .createRun run answer]

inductive DefinitionCourse : Except DeliveryError (Option Run) → List Call → Prop
  | unreadable {problem : DeliveryError} (failed : readDefinition content = .error problem) :
      DefinitionCourse (.error problem) []
  | undecided {definition : Definition} {problem : DefinitionError}
      (read : readDefinition content = .ok definition)
      (failed : definition.execute (.ofEvent event) settings.plan.runPrefix (source event)
        delivery.id = .error problem) :
      DefinitionCourse (.error (.definition problem)) []
  | filtered {definition : Definition} (read : readDefinition content = .ok definition)
      (executed : definition.execute (.ofEvent event) settings.plan.runPrefix (source event)
        delivery.id = .ok none) :
      DefinitionCourse (.ok none) []
  | executed {definition : Definition} {run : Run} {answer : Except ClientError Run}
      (read : readDefinition content = .ok definition)
      (executed : definition.execute (.ofEvent event) settings.plan.runPrefix (source event)
        delivery.id = .ok (some run))
      (answered : answers.createRun before run = answer) :
      DefinitionCourse ((answer.mapError .createRun).map some) [.createRun run answer]

/-- What making a run from a file can come to. -/
def MakingCourse (file : DeliveryFile) (result : Except DeliveryError (Option Run))
    (calls : List Call) : Prop :=
  match file with
  | .pipeline => ∃ made, result = made.map some ∧
      PipelineCourse settings answers delivery event content before made calls
  | .definition => DefinitionCourse settings answers delivery event content before result calls

end Making

def pathOf (settings : ServiceSettings) : DeliveryFile → String
  | .pipeline => settings.pipelineFile
  | .definition => settings.definitionFile

def ignores : DeliveryFile → Event → Bool
  | .pipeline, .pullRequest _ => true
  | _, _ => false

def declines : DeliveryFile → Event → Bool
  | .pipeline, .push push => skips push
  | _, _ => false

def fetching (file : DeliveryFile) (settings : ServiceSettings) (event : Event)
    (answer : Except ClientError (List UInt8)) : Call :=
  .fileContents event.repository.fullName (pathOf settings file) event.commitSha answer

inductive Course (file : DeliveryFile) (settings : ServiceSettings) (answers : Answers)
    (counters : Counters) (delivery : Delivery) : Handled → Prop
  | refused {problem : Webhook.PayloadError}
      (wrong : Event.parse delivery.kind delivery.payload = .error problem) :
      Course file settings answers counters delivery
        { result := .error (.payload problem), counters := counters.countInvalidHook, calls := [] }
  | ignored {event : Event} (received : Event.parse delivery.kind delivery.payload = .ok event)
      (ignored : ignores file event) :
      Course file settings answers counters delivery
        { result := .ok none, counters := counters.countHook event.kind, calls := [] }
  | unfetched {event : Event} {problem : ClientError}
      (received : Event.parse delivery.kind delivery.payload = .ok event)
      (wanted : ignores file event = false)
      (failed : answers.fileContents [] event.repository.fullName (pathOf settings file)
        event.commitSha = .error problem) :
      Course file settings answers counters delivery
        { result := if problem.isNotFound then .ok none else .error (.fetch problem)
          counters := counters.countHook event.kind
          calls := [fetching file settings event (.error problem)] }
  | declined {event : Event} {content : List UInt8}
      (received : Event.parse delivery.kind delivery.payload = .ok event)
      (wanted : ignores file event = false)
      (fetched : answers.fileContents [] event.repository.fullName (pathOf settings file)
        event.commitSha = .ok content)
      (declined : declines file event) :
      Course file settings answers counters delivery
        { result := .ok none, counters := counters.countHook event.kind
          calls := [fetching file settings event (.ok content)] }
  | made {event : Event} {content : List UInt8} {result : Except DeliveryError (Option Run)}
      {calls : List Call} (received : Event.parse delivery.kind delivery.payload = .ok event)
      (wanted : ignores file event = false)
      (fetched : answers.fileContents [] event.repository.fullName (pathOf settings file)
        event.commitSha = .ok content)
      (accepted : declines file event = false)
      (making : MakingCourse settings answers delivery event content
        [fetching file settings event (.ok content)] file result calls) :
      Course file settings answers counters delivery
        { result, counters := counters.countHook event.kind
          calls := fetching file settings event (.ok content) :: calls }

section Running

variable {α β : Type} {settings : ServiceSettings} {answers : Answers} {delivery : Delivery}
  {event : Event} {content : List UInt8} {world : World}

theorem run_ok_bind {first : ExceptT DeliveryError (StateM World) α}
    {next : α → ExceptT DeliveryError (StateM World) β} {value : α} {after : World}
    (done : first.run world = (.ok value, after)) :
    (first >>= next).run world = (next value).run after := by
  change (first.run >>= ExceptT.bindCont next).run world = _
  rw [StateT.run_bind]
  change (first.run world >>= _) = _
  rw [done]
  rfl

theorem run_error_bind {first : ExceptT DeliveryError (StateM World) α}
    {next : α → ExceptT DeliveryError (StateM World) β} {problem : DeliveryError} {after : World}
    (failed : first.run world = (.error problem, after)) :
    (first >>= next).run world = (.error problem, after) := by
  change (first.run >>= ExceptT.bindCont next).run world = _
  rw [StateT.run_bind]
  change (first.run world >>= _) = _
  rw [failed]
  rfl

theorem run_settled {result outcome : Except DeliveryError α} (same : result = outcome) :
    (settled result : ExceptT DeliveryError (StateM World) α).run world = (outcome, world) :=
  same ▸ rfl

theorem run_some {making : ExceptT DeliveryError (StateM World) α}
    {made : Except DeliveryError α} {after : World} (done : making.run world = (made, after)) :
    (do return some (← making) : ExceptT DeliveryError (StateM World) (Option α)).run world =
      (made.map some, after) := by
  cases made with
  | error problem => exact run_error_bind done
  | ok value => exact run_ok_bind done

theorem run_receive_error {problem : Webhook.PayloadError}
    (wrong : Event.parse delivery.kind delivery.payload = .error problem) :
    (receive delivery : ExceptT DeliveryError (StateM World) Event).run world =
      (.error (.payload problem), { world with counters := world.counters.countInvalidHook }) := by
  unfold receive
  rw [wrong]
  rfl

theorem run_receive_ok (received : Event.parse delivery.kind delivery.payload = .ok event) :
    (receive delivery : ExceptT DeliveryError (StateM World) Event).run world =
      (.ok event, { world with counters := world.counters.countHook event.kind }) := by
  unfold receive
  rw [received]
  rfl

/-- What a service takes an answer about a file for. -/
def contentOf (answer : Except ClientError (List UInt8)) :
    Except DeliveryError (Option (List UInt8)) :=
  match answer with
  | .ok content => .ok (some content)
  | .error problem => if problem.isNotFound then .ok none else .error (.fetch problem)

theorem run_fetch (file : DeliveryFile) {answer : Except ClientError (List UInt8)}
    {outcome : Except DeliveryError (Option (List UInt8))}
    (answered : answers.fileContents world.calls event.repository.fullName (pathOf settings file)
      event.commitSha = answer) (taken : contentOf answer = outcome) :
    (fetch answers.backend event (pathOf settings file)).run world =
      (outcome, { world with calls := world.calls ++ [fetching file settings event answer] }) := by
  subst taken
  have called : (answers.backend.fileContents event.repository.fullName (pathOf settings file)
      event.commitSha).run world = pure (answer,
        { world with calls := world.calls ++ [fetching file settings event answer] }) :=
    answered ▸ rfl
  unfold fetch
  rw [ExceptT.run_mk]
  change StateT.run _ _ = _
  rw [StateT.run_bind, called, pure_bind]
  cases answer with
  | ok content => rfl
  | error problem =>
      unfold contentOf
      cases problem.isNotFound <;> rfl

theorem run_createVolume {size : String} {answer : Except ClientError String}
    (answered : answers.createVolume world.calls size = answer) :
    (attempt .volume (answers.backend.createVolume size)).run world =
      (answer.mapError .volume,
        { world with calls := world.calls ++ [.createVolume size answer] }) :=
  answered ▸ rfl

theorem run_createRun {run : Run} {answer : Except ClientError Run}
    (answered : answers.createRun world.calls run = answer) :
    (attempt .createRun (answers.backend.createRun run)).run world =
      (answer.mapError .createRun,
        { world with calls := world.calls ++ [.createRun run answer] }) :=
  answered ▸ rfl

theorem run_readPipeline {next : Pipeline → ExceptT DeliveryError (StateM World) α} :
    (do
      let text ← settled (decode .pipeline content)
      let pipeline ← settled ((Pipeline.read text).mapError .pipeline)
      next pipeline).run world =
      (settled (readPipeline content) >>= next).run world := by
  unfold readPipeline
  cases decode .pipeline content <;> rfl

theorem run_readDefinition {next : Definition → ExceptT DeliveryError (StateM World) α} :
    (do
      let text ← settled (decode .definition content)
      let definition ← settled ((Definition.read text).mapError .unreadableDefinition)
      next definition).run world =
      (settled (readDefinition content) >>= next).run world := by
  unfold readDefinition
  cases decode .definition content <;> rfl

theorem runPipeline_course (settings : ServiceSettings) (answers : Answers) (delivery : Delivery)
    (event : Event) (content : List UInt8) (world : World) :
    ∃ result calls,
      PipelineCourse settings answers delivery event content world.calls result calls ∧
      (runPipeline settings answers.backend delivery event content).run world =
        (result, { world with calls := world.calls ++ calls }) := by
  unfold runPipeline
  rw [run_readPipeline]
  cases read : readPipeline content with
  | error problem =>
      refine ⟨_, [], .unreadable read, ?_⟩
      rw [List.append_nil]
      exact run_error_bind (run_settled rfl)
  | ok pipeline =>
      rw [run_ok_bind (run_settled rfl)]
      cases claimed : answers.createVolume world.calls settings.plan.volumeSize with
      | error problem =>
          refine ⟨_, _, .unclaimed read claimed, ?_⟩
          exact run_error_bind (run_createVolume claimed)
      | ok claim =>
          rw [run_ok_bind (run_createVolume claimed)]
          cases planned : pipeline.plan settings.plan (source event) claim (some (.ofEvent event))
              delivery.id with
          | error problem =>
              refine ⟨_, _, .unplanned read claimed planned, ?_⟩
              exact run_error_bind (run_settled rfl)
          | ok run =>
              refine ⟨_, _, .planned read claimed planned rfl, ?_⟩
              refine (run_ok_bind (run_settled rfl)).trans ?_
              rw [run_createRun rfl, List.append_assoc]
              rfl

theorem runDefinition_course (settings : ServiceSettings) (answers : Answers)
    (delivery : Delivery) (event : Event) (content : List UInt8) (world : World) :
    ∃ result calls,
      DefinitionCourse settings answers delivery event content world.calls result calls ∧
      (runDefinition settings answers.backend delivery event content).run world =
        (result, { world with calls := world.calls ++ calls }) := by
  unfold runDefinition
  rw [run_readDefinition]
  cases read : readDefinition content with
  | error problem =>
      refine ⟨_, [], .unreadable read, ?_⟩
      rw [List.append_nil]
      exact run_error_bind (run_settled rfl)
  | ok definition =>
      rw [run_ok_bind (run_settled rfl)]
      cases executed : definition.execute (.ofEvent event) settings.plan.runPrefix (source event)
          delivery.id with
      | error problem =>
          refine ⟨_, [], .undecided read executed, ?_⟩
          rw [List.append_nil]
          exact run_error_bind (run_settled rfl)
      | ok run? =>
          cases run? with
          | none =>
              refine ⟨_, [], .filtered read executed, ?_⟩
              rw [List.append_nil]
              exact run_ok_bind (run_settled rfl)
          | some run =>
              refine ⟨_, _, .executed read executed rfl, ?_⟩
              exact (run_ok_bind (run_settled rfl)).trans (run_some (run_createRun rfl))

end Running

def making (file : DeliveryFile) (settings : ServiceSettings) (answers : Answers)
    (delivery : Delivery) (event : Event) (content : List UInt8) :
    ExceptT DeliveryError (StateM World) (Option Run) :=
  match file with
  | .pipeline => do return some (← runPipeline settings answers.backend delivery event content)
  | .definition => runDefinition settings answers.backend delivery event content

theorem making_course (file : DeliveryFile) (settings : ServiceSettings) (answers : Answers)
    (delivery : Delivery) (event : Event) (content : List UInt8) (world : World) :
    ∃ result calls,
      MakingCourse settings answers delivery event content world.calls file result calls ∧
      (making file settings answers delivery event content).run world =
        (result, { world with calls := world.calls ++ calls }) := by
  cases file with
  | pipeline =>
      obtain ⟨made, calls, course, run⟩ :=
        runPipeline_course settings answers delivery event content world
      exact ⟨made.map some, calls, ⟨made, rfl, course⟩, run_some run⟩
  | definition => exact runDefinition_course settings answers delivery event content world

def following (file : DeliveryFile) (settings : ServiceSettings) (answers : Answers)
    (delivery : Delivery) (event : Event) :
    Option (List UInt8) → ExceptT DeliveryError (StateM World) (Option Run)
  | none => return none
  | some content =>
      if declines file event then return none
      else making file settings answers delivery event content

theorem handler_eq (file : DeliveryFile) (settings : ServiceSettings) (answers : Answers)
    (delivery : Delivery) :
    handler file settings answers delivery = (do
      let event ← receive delivery
      if ignores file event then return none
      else
        let content? ← fetch answers.backend event (pathOf settings file)
        following file settings answers delivery event content?) := by
  cases file with
  | pipeline =>
      unfold handler handlePipeline
      refine congrArg (receive delivery >>= ·) (funext fun event => ?_)
      cases event with
      | pullRequest action => rfl
      | push push =>
          refine congrArg (fetch answers.backend (.push push) settings.pipelineFile >>= ·)
            (funext fun content? => ?_)
          cases content? <;> rfl
  | definition =>
      unfold handler handleDefinition
      refine congrArg (receive delivery >>= ·) (funext fun event => ?_)
      cases event with
      | pullRequest action =>
          refine congrArg (fetch answers.backend _ settings.definitionFile >>= ·)
            (funext fun content? => ?_)
          cases content? <;> rfl
      | push push =>
          refine congrArg (fetch answers.backend _ settings.definitionFile >>= ·)
            (funext fun content? => ?_)
          cases content? <;> rfl

theorem handler_course (file : DeliveryFile) (settings : ServiceSettings) (answers : Answers)
    (counters : Counters) (delivery : Delivery) :
    ∃ outcome, Course file settings answers counters delivery outcome ∧
      (handler file settings answers delivery).run { counters, calls := [] } =
        (outcome.result, { counters := outcome.counters, calls := outcome.calls }) := by
  rw [handler_eq]
  cases received : Event.parse delivery.kind delivery.payload with
  | error problem => exact ⟨_, .refused received, run_error_bind (run_receive_error received)⟩
  | ok event =>
      rw [run_ok_bind (run_receive_ok received)]
      by_cases ignored : ignores file event
      · rw [if_pos ignored]
        exact ⟨_, .ignored received ignored, rfl⟩
      · rw [if_neg ignored]
        have wanted := Bool.eq_false_iff.mpr ignored
        cases fetched : answers.fileContents [] event.repository.fullName (pathOf settings file)
            event.commitSha with
        | error problem =>
            refine ⟨_, .unfetched received wanted fetched, ?_⟩
            cases gone : problem.isNotFound with
            | true =>
                have content : contentOf (.error problem) = .ok none := by
                  rw [contentOf, gone, if_pos rfl]
                exact run_ok_bind (run_fetch file fetched content)
            | false =>
                have content : contentOf (.error problem) = .error (.fetch problem) := by
                  rw [contentOf, gone, if_neg Bool.false_ne_true]
                exact run_error_bind (run_fetch file fetched content)
        | ok content =>
            rw [run_ok_bind (run_fetch file fetched rfl), following]
            by_cases declined : declines file event
            · rw [if_pos declined]
              exact ⟨_, .declined received wanted fetched declined, rfl⟩
            · rw [if_neg declined]
              obtain ⟨result, calls, course, run⟩ :=
                making_course file settings answers delivery event content
                  ⟨counters.countHook event.kind, [fetching file settings event (.ok content)]⟩
              exact ⟨_, .made received wanted fetched (Bool.eq_false_iff.mpr declined) course, run⟩

theorem handled_course (file : DeliveryFile) (settings : ServiceSettings) (answers : Answers)
    (counters : Counters) (delivery : Delivery) :
    Course file settings answers counters delivery
      (handled file settings answers counters delivery) := by
  obtain ⟨outcome, course, run⟩ := handler_course file settings answers counters delivery
  unfold handled
  rw [run]
  exact course

end Delivery

end StagedRuns
