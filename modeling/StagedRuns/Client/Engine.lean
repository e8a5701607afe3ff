import StagedRuns.Client.Call
import StagedRuns.Run.Read
import StagedRuns.Run.Write

/-!
Calls to the engine: creating, listing and updating runs, and creating volumes.
-/

namespace StagedRuns

open StagedRuns.Client (Calling Outcome)
open StagedRuns.Http (Method Request Transport)

structure EngineClient where
  baseUrl : String
  space : String
  token : Option String

namespace EngineClient

def new (address space : String) (token : Option String) : EngineClient :=
  { baseUrl := Client.trimSlashes address, space, token := Client.usableToken token }

def runsUrl (client : EngineClient) : String :=
  client.baseUrl ++ "/apis/tekton.dev/v1/namespaces/" ++ client.space ++ "/pipelineruns"

def volumesUrl (client : EngineClient) : String :=
  client.baseUrl ++ "/api/v1/namespaces/" ++ client.space ++ "/persistentvolumeclaims"

def runUrl (client : EngineClient) (name : String) : String :=
  client.runsUrl ++ "/" ++ name

def request? (client : EngineClient) (method : Method) (address : String)
    (query : List (String × String)) (body : Option Json) : Option Request :=
  Request.make? method address query "*/*" none client.token body

def volumeJson (client : EngineClient) (size : String) : Json :=
  .object
    [ ("apiVersion", .string "v1")
    , ("kind", .string "PersistentVolumeClaim")
    , ("metadata", .object
        [("generateName", .string "simple-volume-"), ("namespace", .string client.space)])
    , ("spec", .object
        [ ("accessModes", .array [.string "ReadWriteMany"])
        , ("resources", .object [("requests", .object [("storage", .string size)])])
        , ("volumeMode", .string "Filesystem") ]) ]

def listedRuns? (value : Json) : Option (List Run) := do
  let record ← Json.record? ["items"] value
  record.withDefault "items" [] (Json.listOf Run.ofJson?)

def createdName? (value : Json) : Option String := do
  let record ← Json.record? ["metadata"] value
  record.required "metadata" fun metadata => do
    let record ← Json.record? ["name"] metadata
    record.required "name" Json.asString?

variable {m : Type → Type} [Monad m]

def call {α : Type} (transport : Transport m) (operation : String) (request : Option Request)
    (decode : Json → Option α) : Calling m (Outcome α) :=
  Client.call transport operation (fun _ => true) request (Client.readJson decode)

def createRun (client : EngineClient) (transport : Transport m) (run : Run) :
    Calling m (Outcome Run) :=
  call transport "create_pipelinerun"
    (client.request? .post client.runsUrl [] (some run.toJson)) Run.ofJson?

def listRuns (client : EngineClient) (transport : Transport m) (selector : String) :
    Calling m (Outcome (List Run)) :=
  call transport "list_pipelineruns"
    (client.request? .get client.runsUrl [("labelSelector", selector)] none) listedRuns?

/-- Replaces the run of the same name. A run without a name is refused, and nothing is sent. -/
def updateRun (client : EngineClient) (transport : Transport m) (run : Run) :
    Calling m (Outcome Run) :=
  match run.metadata.name with
  | none => return .error (.invalidRequest "cannot update a run without a name")
  | some name =>
      call transport "update_pipelinerun"
        (client.request? .put (client.runUrl name) [] (some run.toJson)) Run.ofJson?

def createVolume (client : EngineClient) (transport : Transport m) (size : String) :
    Calling m (Outcome String) :=
  call transport "create_volume"
    (client.request? .post client.volumesUrl [] (some (client.volumeJson size))) createdName?

end EngineClient

end StagedRuns
