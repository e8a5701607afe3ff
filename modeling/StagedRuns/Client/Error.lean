/-!
Why a call to another service fails, and the words for it.
-/

namespace StagedRuns

inductive ClientError where
  /-- No request could be sent, or no answer came. -/
  | requestFailed (reason : String)
  | api (status : Nat) (message : String)
  | malformed (reason : String)
  | notFound (resource : String)
  | invalidRequest (reason : String)
deriving DecidableEq, Repr

namespace ClientError

def message : ClientError → String
  | .requestFailed reason => "HTTP request failed: " ++ reason
  | .api status message => s!"API error (status {status}): {message}"
  | .malformed reason => "Failed to parse response: " ++ reason
  | .notFound resource => "Resource not found: " ++ resource
  | .invalidRequest reason => "Invalid request: " ++ reason

def isNotFound : ClientError → Bool
  | .notFound _ => true
  | .api status _ => status = 404
  | _ => false

end ClientError

end StagedRuns
