import StagedRuns.Client.Call
import StagedRuns.Run.State

/-!
Calls to the host of the repositories: the contents of files, and the states of commits.
-/

namespace StagedRuns

open StagedRuns.Client (Calling Outcome)
open StagedRuns.Http (Method Request Response Transport)

structure SourceHostClient where
  baseUrl : String
  token : Option String

namespace SourceHostClient

def new (address : String) (token : Option String) : SourceHostClient :=
  { baseUrl := Client.trimSlashes address, token := Client.usableToken token }

def repositoryUrl (client : SourceHostClient) (repository part : String) : String :=
  client.baseUrl ++ "/repos/" ++ repository ++ "/" ++ part

def request? (client : SourceHostClient) (method : Method) (address : String)
    (query : List (String × String)) (accept : String) (body : Option Json) : Option Request :=
  Request.make? method address query accept (some "stagecoach") client.token body

def readContents (repository path ref : String) (response : Response) :
    Outcome (List UInt8) := do
  if response.status = 404 then
    .error (.notFound (repository ++ "/" ++ path ++ "@" ++ ref))
  else
    let response ← Client.successful response
    .ok response.body

variable {m : Type → Type} [Monad m]

/-- Fetches a file as it is at a ref. That it does not exist is no failure. -/
def fileContents (client : SourceHostClient) (transport : Transport m)
    (repository path ref : String) : Calling m (Outcome (List UInt8)) :=
  Client.call transport "file_contents" (fun error => !error.isNotFound)
    (client.request? .get (client.repositoryUrl repository ("contents/" ++ path))
      [("ref", ref)] "application/vnd.github.raw" none)
    (readContents repository path ref)

def createStatus (client : SourceHostClient) (transport : Transport m)
    (repository commit : String) (report : Run.Report) : Calling m (Outcome Unit) :=
  Client.call transport "create_status" (fun error => !error.isNotFound)
    (client.request? .post (client.repositoryUrl repository ("statuses/" ++ commit)) []
      "application/vnd.github+json" (some report.toJson))
    (fun response => do
      let _ ← Client.successful response
      .ok ())

end SourceHostClient

end StagedRuns
