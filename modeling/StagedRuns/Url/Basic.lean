import StagedRuns.Url.Host

/-!
URLs: a scheme, perhaps a user, a host and a port, a path, and perhaps a query and a fragment.
-/

namespace StagedRuns

namespace Url

inductive Path where
  | unstructured (text : String)
  | segments (segments : List String)
deriving DecidableEq, Repr

end Url

structure Url where
  scheme : String
  user : String
  password : Option String
  host : Option Url.Host
  port : Option Nat
  path : Url.Path
  query : Option String
  fragment : Option String
deriving DecidableEq, Repr

namespace Url

/-- The ports that belong to the special schemes; files have none. -/
def defaultPorts : List (String × Option Nat) :=
  [ ("http", some 80), ("https", some 443), ("ws", some 80), ("wss", some 443), ("ftp", some 21)
  , ("file", none) ]

def isSpecial (scheme : String) : Bool :=
  (defaultPorts.lookup scheme).isSome

def defaultPort? (scheme : String) : Option Nat :=
  (defaultPorts.lookup scheme).bind id

def segments? (url : Url) : Option (List String) :=
  match url.path with
  | .segments [] => none
  | .segments segments => some segments
  | .unstructured _ => none

def pathText (url : Url) : String :=
  match url.path with
  | .unstructured text => text
  | .segments segments => String.join (segments.map ("/" ++ ·))

def target (url : Url) : String :=
  url.pathText ++ url.query.elim "" ("?" ++ ·)

def authority (url : Url) : String :=
  url.host.elim "" Host.text ++ url.port.elim "" fun port => ":" ++ toString port

def credentials (url : Url) : String :=
  if url.user = "" ∧ url.password = none then ""
  else url.user ++ url.password.elim "" (":" ++ ·) ++ "@"

/-- What stands before the path. Where no host does, two slashes that a path begins with are kept
from being taken for the mark of one. -/
def location (url : Url) : String :=
  if url.host.isSome || url.scheme = "file" then "//" ++ url.credentials ++ url.authority
  else if url.pathText.startsWith "//" then "/."
  else ""

def text (url : Url) : String :=
  url.scheme ++ ":" ++ url.location ++ url.target ++ url.fragment.elim "" ("#" ++ ·)

def withoutCredentials (url : Url) : Url :=
  { url with user := "", password := none }

def withPair (url : Url) (name value : String) : Url :=
  let pair := Escape.form name ++ "=" ++ Escape.form value
  let query :=
    match url.query with
    | some "" => pair
    | some query => query ++ "&" ++ pair
    | none => pair
  { url with query := some query }

end Url

end StagedRuns
