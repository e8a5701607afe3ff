import StagedRuns.Json.Writer
import StagedRuns.Text.Base64
import StagedRuns.Text.Marked
import StagedRuns.Url.Parse

/-!
Requests to other services over HTTP, and their answers.
-/

namespace StagedRuns.Http

inductive Method where
  | get
  | post
  | put
deriving DecidableEq, Repr

def Method.name : Method → String
  | .get => "GET"
  | .post => "POST"
  | .put => "PUT"

structure Request where
  method : Method
  url : Url
  accept : String
  userAgent : Option String
  token : Option String
  body : Option Json

structure Response where
  status : Nat
  content : List UInt8

/-- The way to other services. There may be no answer. -/
structure Transport (m : Type → Type) where
  exchange : Request → m (Option Response)

namespace Request

def fitsHeader (text : String) : Bool :=
  text.toList.all fun c => (0x20 ≤ c.toNat && c.toNat ≠ 0x7F) || c = '\t'

def fitsRequest : Url.Host → Bool
  | .domain name => name.toList.all fun c => !"\"\x60\x7b\x7d".toList.contains c
  | _ => true

/-- The greatest length of the text of a URL to send to, in octets. -/
def maxUrlLength : Nat := 65534

def canReach (url : Url) : Bool :=
  (url.scheme = "http" || url.scheme = "https") && url.host.all fitsRequest &&
    url.withoutCredentials.text.utf8ByteSize ≤ maxUrlLength

/-- A request to an address, with pairs added to its query. There is none if the address is not
one that requests can be sent to, or if the token cannot be sent. -/
def make? (method : Method) (address : String) (query : List (String × String))
    (accept : String) (userAgent token : Option String) (body : Option Json) : Option Request :=
  match Url.parse? address with
  | none => none
  | some url =>
      let url := query.foldl (fun url pair => url.withPair pair.1 pair.2) url
      if canReach url && token.all fitsHeader then
        some { method, url, accept, userAgent, token, body }
      else none

def decoded? (encoded : String) : Option String :=
  (Text.Utf8.decode (Url.Escape.decode (Text.Utf8.encode encoded))).toOption

/-- What the user in an address proves to be one with, if there is a user. -/
def basicToken? (url : Url) : Option String := do
  let user ← decoded? url.user
  let password := url.password.bind decoded?
  if user = "" ∧ password = none then none
  else
    let credentials := user ++ ":" ++ password.getD ""
    some (String.ofList (Text.Base64.encode (Text.Utf8.encode credentials)))

def headers (request : Request) : List (String × String) :=
  [("accept", request.accept)] ++
    (basicToken? request.url).toList.map (fun token => ("authorization", "Basic " ++ token)) ++
    request.token.toList.map (fun token => ("authorization", "Bearer " ++ token)) ++
    request.body.toList.map (fun _ => ("content-type", "application/json")) ++
    [("host", request.url.authority)] ++
    request.userAgent.toList.map fun agent => ("user-agent", agent)

end Request

namespace Response

def succeeded (response : Response) : Bool :=
  200 ≤ response.status && response.status < 300

/-- Whether this is the answer to a request. The status has three digits, and it does not announce
another answer. -/
def isFinal (response : Response) : Bool :=
  response.status = 101 || (200 ≤ response.status && response.status < 1000)

def body (response : Response) : List UInt8 :=
  if [101, 204, 304].contains response.status then [] else response.content

/-- The content as a text, in the encoding that its first octets may tell. -/
def text (response : Response) : String :=
  Text.decodeMarked response.body

end Response

end StagedRuns.Http
