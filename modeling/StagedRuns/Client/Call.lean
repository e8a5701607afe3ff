import StagedRuns.Client.Error
import StagedRuns.Counters
import StagedRuns.Http.Request
import StagedRuns.Json.Reader
import StagedRuns.Json.Record

/-!
Calls to other services. Each call is counted under the name of its operation, and a failed one a
second time.
-/

namespace StagedRuns.Client

open StagedRuns.Http (Request Response Transport)

variable {m : Type → Type} [Monad m] {α : Type}

abbrev Calling (m : Type → Type) : Type → Type :=
  StateT Counters m

abbrev Outcome (α : Type) : Type := Except ClientError α

def trimSlashes (address : String) : String :=
  String.ofList (address.toList.reverse.dropWhile (· = '/')).reverse

/-- The token to send; an empty one is none. -/
def usableToken (token : Option String) : Option String :=
  token.filter (· ≠ "")

def exchange (transport : Transport m) (request : Option Request)
    (read : Response → Outcome α) : m (Outcome α) :=
  match request with
  | none => pure (.error (.requestFailed "no request can be sent to this address"))
  | some request => do
      match ← transport.exchange request with
      | none => return .error (.requestFailed "no answer came")
      | some response =>
          if response.isFinal then return read response
          else return .error (.requestFailed "no final answer came")

def count (operation : String) (outcome : Outcome α) (fails : ClientError → Bool)
    (counters : Counters) : Counters :=
  let counters := counters.countCall operation
  match outcome with
  | .error error => if fails error then counters.countFailedCall operation else counters
  | .ok _ => counters

/-- Makes a call. `fails` tells which errors count as failures. -/
def call (transport : Transport m) (operation : String) (fails : ClientError → Bool)
    (request : Option Request) (read : Response → Outcome α) : Calling m (Outcome α) := do
  let outcome ← StateT.lift (exchange transport request read)
  modify (count operation outcome fails)
  return outcome

def successful (response : Response) : Outcome Response :=
  if response.succeeded then .ok response
  else .error (.api response.status response.text)

def readJson (decode : Json → Option α) (response : Response) : Outcome α := do
  let response ← successful response
  match Json.read response.body >>= decode with
  | some value => .ok value
  | none =>
      .error (.malformed "Failed to parse JSON response: the content is of another form")

end StagedRuns.Client
