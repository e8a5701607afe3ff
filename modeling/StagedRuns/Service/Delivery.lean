import StagedRuns.Definition.Read
import StagedRuns.Pipeline.Read
import StagedRuns.Plan.Stages
import StagedRuns.Service.Backend

/-!
Handling deliveries of events. A push makes a run of the pipeline in the repository, in a volume of
its own; a push or a pull request makes a run of the definition in the repository. There is no run
if there is no such file, if the push asks for none, or if the definition's filter is false.
-/

namespace StagedRuns

structure Delivery where
  kind : String
  id : String
  payload : List UInt8

inductive DeliveryFile where
  | pipeline
  | definition
deriving DecidableEq, Repr

structure ServiceSettings where
  plan : Settings
  pipelineFile : String
  definitionFile : String
deriving DecidableEq, Repr, Inhabited

inductive DeliveryError where
  | payload (error : Webhook.PayloadError)
  | fetch (error : ClientError)
  | encoding (file : DeliveryFile) (fault : Text.Utf8.Fault)
  | pipeline (error : PipelineError)
  | volume (error : ClientError)
  | plan (error : PlanError)
  | unreadableDefinition (problem : Yaml.Problem)
  | definition (error : DefinitionError)
  | createRun (error : ClientError)

def DeliveryFile.text : DeliveryFile → String
  | .pipeline => "pipeline file"
  | .definition => "pipeline definition"

def DeliveryError.message : DeliveryError → String
  | .payload error => error.message
  | .fetch error => "error fetching pipeline file: " ++ error.message
  | .encoding file fault => file.text ++ " is not valid UTF-8: " ++ fault.message
  | .pipeline error => "error parsing pipeline definition: " ++ error.message
  | .volume error => "error creating volume: " ++ error.message
  | .plan error => "error converting pipeline to pipelinerun: " ++ error.message
  | .unreadableDefinition problem =>
      "error executing pipeline definition: " ++ Definition.readingMessage problem
  | .definition error => "error executing pipeline definition: " ++ error.message
  | .createRun error => "error creating pipelinerun: " ++ error.message

def occursIn (part : List Char) : List Char → Bool
  | [] => part.isEmpty
  | c :: rest => part.isPrefixOf (c :: rest) || occursIn part rest

namespace Delivery

def skipMarkers : List String := ["[ci skip]", "[skip ci]"]

def skips (push : Webhook.Push) : Bool :=
  skipMarkers.any fun marker => occursIn marker.toList push.commitMessage.toList

def source (event : Webhook.Event) : Source :=
  { repoUrl := event.repository.cloneUrl, gitRef := event.commitSha }

variable {m : Type → Type} [Monad m] [MonadStateOf Counters m]

def attempt {α : Type} (cause : ClientError → DeliveryError)
    (action : m (Except ClientError α)) : ExceptT DeliveryError m α :=
  ExceptT.mk do return (← action).mapError cause

def settled {α : Type} (result : Except DeliveryError α) : ExceptT DeliveryError m α :=
  ExceptT.mk (pure result)

def receive (delivery : Delivery) : ExceptT DeliveryError m Webhook.Event := do
  match Webhook.Event.parse delivery.kind delivery.payload with
  | .ok event => do
      modifyThe Counters (·.countHook event.kind)
      return event
  | .error error => do
      modifyThe Counters (·.countInvalidHook)
      throw (.payload error)

def fetch (backend : Backend m) (event : Webhook.Event) (path : String) :
    ExceptT DeliveryError m (Option (List UInt8)) :=
  ExceptT.mk do
    match ← backend.fileContents event.repository.fullName path event.commitSha with
    | .ok content => return .ok (some content)
    | .error error => return if error.isNotFound then .ok none else .error (.fetch error)

def decode (file : DeliveryFile) (content : List UInt8) : Except DeliveryError String :=
  (Text.Utf8.decode content).mapError (.encoding file)

/-- Makes a run of the pipeline in a file. The volume comes first. -/
def runPipeline (settings : ServiceSettings) (backend : Backend m) (delivery : Delivery)
    (event : Webhook.Event) (content : List UInt8) : ExceptT DeliveryError m Run := do
  let text ← settled (decode .pipeline content)
  let pipeline ← settled ((Pipeline.read text).mapError .pipeline)
  let claim ← attempt .volume (backend.createVolume settings.plan.volumeSize)
  let run ← settled ((pipeline.plan settings.plan (source event) claim
    (some (.ofEvent event)) delivery.id).mapError .plan)
  attempt .createRun (backend.createRun run)

def handlePipeline (settings : ServiceSettings) (backend : Backend m) (delivery : Delivery) :
    ExceptT DeliveryError m (Option Run) := do
  match ← receive delivery with
  | .pullRequest _ => return none
  | .push push =>
      let event := .push push
      match ← fetch backend event settings.pipelineFile with
      | none => return none
      | some content =>
          if skips push then return none
          else return some (← runPipeline settings backend delivery event content)

def runDefinition (settings : ServiceSettings) (backend : Backend m) (delivery : Delivery)
    (event : Webhook.Event) (content : List UInt8) : ExceptT DeliveryError m (Option Run) := do
  let text ← settled (decode .definition content)
  let definition ← settled ((Definition.read text).mapError .unreadableDefinition)
  match ← settled ((definition.execute (.ofEvent event) settings.plan.runPrefix (source event)
      delivery.id).mapError .definition) with
  | none => return none
  | some run => return some (← attempt .createRun (backend.createRun run))

def handleDefinition (settings : ServiceSettings) (backend : Backend m) (delivery : Delivery) :
    ExceptT DeliveryError m (Option Run) := do
  let event ← receive delivery
  match ← fetch backend event settings.definitionFile with
  | none => return none
  | some content => runDefinition settings backend delivery event content

end Delivery

end StagedRuns
