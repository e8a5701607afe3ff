import StagedRuns.Json.Reader
import StagedRuns.Json.Record
import StagedRuns.Webhook.Event

/-!
Events as JSON payloads. The names of the members are those of the source host. A payload may
hold more than is read here; an event written again holds just what was read.
-/

namespace StagedRuns.Webhook

def readNumber (value : Json) : Option UInt64 :=
  value.asNatural?.map UInt64.ofNat

def writeNumber (number : UInt64) : Json :=
  Json.natural number.toNat

def writeOptional {α : Type} (write : α → Json) : Option α → Json
  | some value => write value
  | none => .null

def User.read (value : Json) : Option User := do
  let record ← Json.record? ["login"] value
  let login ← record.required "login" Json.asString?
  return { login }

def User.write (user : User) : Json :=
  .object [("login", .string user.login)]

def Commit.read (value : Json) : Option Commit := do
  let record ← Json.record? ["id", "message"] value
  let id ← record.required "id" Json.asString?
  let message ← record.withDefault "message" "" Json.asString?
  return { id, message }

def Commit.write (commit : Commit) : Json :=
  .object [("id", .string commit.id), ("message", .string commit.message)]

def Repository.read (value : Json) : Option Repository := do
  let record ← Json.record? ["name", "full_name", "clone_url", "html_url", "default_branch"] value
  let name ← record.required "name" Json.asString?
  let fullName ← record.required "full_name" Json.asString?
  let cloneUrl ← record.required "clone_url" Json.asString?
  let htmlUrl ← record.withDefault "html_url" "" Json.asString?
  let defaultBranch ← record.withDefault "default_branch" "" Json.asString?
  return { name, fullName, cloneUrl, htmlUrl, defaultBranch }

def Repository.write (repository : Repository) : Json :=
  .object
    [ ("name", .string repository.name)
    , ("full_name", .string repository.fullName)
    , ("clone_url", .string repository.cloneUrl)
    , ("html_url", .string repository.htmlUrl)
    , ("default_branch", .string repository.defaultBranch) ]

def GitRef.read (value : Json) : Option GitRef := do
  let record ← Json.record? ["ref", "sha"] value
  let ref ← record.required "ref" Json.asString?
  let sha ← record.required "sha" Json.asString?
  return { ref, sha }

def GitRef.write (ref : GitRef) : Json :=
  .object [("ref", .string ref.ref), ("sha", .string ref.sha)]

def PullRequest.read (value : Json) : Option PullRequest := do
  let record ← Json.record? ["number", "title", "head", "base"] value
  let number ← record.required "number" readNumber
  let title ← record.withDefault "title" "" Json.asString?
  let head ← record.required "head" GitRef.read
  let base ← record.required "base" GitRef.read
  return { number, title, head, base }

def PullRequest.write (request : PullRequest) : Json :=
  .object
    [ ("number", writeNumber request.number)
    , ("title", .string request.title)
    , ("head", request.head.write)
    , ("base", request.base.write) ]

def Push.read (value : Json) : Option Push := do
  let record ←
    Json.record? ["ref", "before", "after", "repository", "head_commit", "sender"] value
  let ref ← record.required "ref" Json.asString?
  let before ← record.withDefault "before" "" Json.asString?
  let after ← record.withDefault "after" "" Json.asString?
  let repository ← record.required "repository" Repository.read
  let headCommit ← record.optionalWithDefault "head_commit" Commit.read
  let sender ← record.optionalWithDefault "sender" User.read
  return { ref, before, after, repository, headCommit, sender }

def Push.write (push : Push) : Json :=
  .object
    [ ("ref", .string push.ref)
    , ("before", .string push.before)
    , ("after", .string push.after)
    , ("repository", push.repository.write)
    , ("head_commit", writeOptional Commit.write push.headCommit)
    , ("sender", writeOptional User.write push.sender) ]

def PullRequestAction.read (value : Json) : Option PullRequestAction := do
  let record ← Json.record? ["action", "number", "pull_request", "repository", "sender"] value
  let action ← record.required "action" Json.asString?
  let number ← record.required "number" readNumber
  let pullRequest ← record.required "pull_request" PullRequest.read
  let repository ← record.required "repository" Repository.read
  let sender ← record.optionalWithDefault "sender" User.read
  return { action, number, pullRequest, repository, sender }

def PullRequestAction.write (action : PullRequestAction) : Json :=
  .object
    [ ("action", .string action.action)
    , ("number", writeNumber action.number)
    , ("pull_request", action.pullRequest.write)
    , ("repository", action.repository.write)
    , ("sender", writeOptional User.write action.sender) ]

inductive PayloadError where
  | unsupportedEvent (kind : String)
  | invalidPayload (kind : String)
deriving DecidableEq, Repr

def PayloadError.message : PayloadError → String
  | .unsupportedEvent kind => s!"unsupported event kind: {kind}"
  | .invalidPayload kind => s!"invalid {kind} payload: "

namespace Event

def parse (kind : String) (body : List UInt8) : Except PayloadError Event :=
  let decoded {α : Type} (read : Json → Option α) (wrap : α → Event) :
      Except PayloadError Event :=
    match Json.read body >>= read with
    | some found => .ok (wrap found)
    | none => .error (.invalidPayload kind)
  if kind = "push" then decoded Push.read .push
  else if kind = "pull_request" then decoded PullRequestAction.read .pullRequest
  else .error (.unsupportedEvent kind)

def document : Event → Json
  | .push pushed => pushed.write
  | .pullRequest action => action.write

end Event

end StagedRuns.Webhook
