import StagedRuns.Service.Delivery

/-!
The service over HTTP: two addresses for deliveries, one for the counters, and one that tells that
the service is there.
-/

namespace StagedRuns.Router

structure Request where
  method : String
  /-- Path and query. -/
  target : String
  headers : List (String × String)
  body : List UInt8

inductive Content where
  | empty
  | json (value : Json)
  | text (content : String)

structure Reply where
  status : Nat
  contentType : Option String
  content : Content

namespace Reply

def bare (status : Nat) : Reply :=
  ⟨status, none, .empty⟩

def json (status : Nat) (value : Json) : Reply :=
  ⟨status, some "application/json", .json value⟩

/-- The reply to a delivery: the run that was created, nothing if there is none, or the text of
the error. -/
def ofOutcome : Except DeliveryError (Option Run) → Reply
  | .ok (some run) => json 200 run.toJson
  | .ok none => bare 200
  | .error error => json 500 (.object [("error", .string error.message)])

def withoutContent (reply : Reply) : Reply :=
  { reply with content := .empty }

end Reply

inductive Route where
  | health
  | metrics
  | pipeline
  | definition
deriving DecidableEq, Repr

def Route.path : Route → String
  | .health => "/health"
  | .metrics => "/metrics"
  | .pipeline => "/pipeline"
  | .definition => "/pipelinerun"

def isOfScheme (c : Char) : Bool :=
  c.isAlphanum || c = '+' || c = '-' || c = '.'

def endsAuthority (c : Char) : Bool :=
  c = '/' || c = '?' || c = '#'

/-- The target from its path on, which begins behind the authority if there is a scheme. -/
def fromPath (target : List Char) : List Char :=
  if target.head? = some '/' then target
  else
    match target.dropWhile isOfScheme with
    | ':' :: '/' :: '/' :: c :: rest =>
        if endsAuthority c then target else rest.dropWhile (!endsAuthority ·)
    | _ => target

/-- The address that a request is for. Its query does not matter. -/
def route? (target : String) : Option Route :=
  let path := (fromPath target.toList).takeWhile fun c => c ≠ '?' && c ≠ '#'
  [Route.health, .metrics, .pipeline, .definition].find? (·.path = String.ofList path)

def isVisible (text : String) : Bool :=
  text.toList.all fun c => (0x20 ≤ c.toNat && c.toNat < 0x7F) || c = '\t'

/-- The first value of a header, empty if it is missing or cannot be used. -/
def header (request : Request) (name : String) : String :=
  match request.headers.find? fun header => header.1.toLower = name with
  | some (_, value) => if isVisible value then value else ""
  | none => ""

def delivery (request : Request) : Delivery :=
  { kind := header request "x-github-event", id := header request "x-github-delivery"
    payload := request.body }

def health : Reply :=
  .json 200 (.object [("status", .string "ok")])

def metrics (counters : Counters) : Reply :=
  ⟨200, some "text/plain; version=0.0.4", .text counters.render⟩

def maxBodyLength : Nat := 2 * 1024 * 1024

def tooLong : Reply :=
  ⟨413, some "text/plain; charset=utf-8",
    .text "Failed to buffer the request body: length limit exceeded"⟩

variable {m : Type → Type} [Monad m] [MonadStateOf Counters m]

def reading (method : String) (reply : m Reply) : m Reply := do
  if method = "GET" then reply
  else if method = "HEAD" then return (← reply).withoutContent
  else return .bare 405

def delivering (request : Request)
    (handle : Delivery → ExceptT DeliveryError m (Option Run)) : m Reply := do
  if request.method ≠ "POST" then return .bare 405
  else if maxBodyLength < request.body.length then return tooLong
  else return .ofOutcome (← (handle (delivery request)).run)

def reply (settings : ServiceSettings) (backend : Backend m) (request : Request) : m Reply :=
  match route? request.target with
  | some .health => reading request.method (return health)
  | some .metrics => reading request.method (return metrics (← getThe Counters))
  | some .pipeline => delivering request (Delivery.handlePipeline settings backend)
  | some .definition => delivering request (Delivery.handleDefinition settings backend)
  | none => return .bare 404

end StagedRuns.Router
