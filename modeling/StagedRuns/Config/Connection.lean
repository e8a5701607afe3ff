import StagedRuns.Text.Quoted

/-!
Settings from the environment that all programs share: where the engine and the host of the
repositories are.
-/

namespace StagedRuns.Config

abbrev Environment : Type := List (String × String)

inductive ConfigError where
  | unset (name : String)
  | notSeconds (name value : String)
  | empty (field : String)
  | notHttp (field : String)
  | notPositive (field : String)
deriving DecidableEq, Repr

def ConfigError.message : ConfigError → String
  | .unset name => name ++ " environment variable not set"
  | .notSeconds name value =>
      name ++ " must be a number of seconds, got " ++ Text.quoted value
  | .empty field => field ++ " cannot be empty"
  | .notHttp field => field ++ " must start with http:// or https://"
  | .notPositive field => field ++ " must be greater than 0"

/-- The value of a variable that is needed. It may be empty. -/
def needed (environment : Environment) (name : String) : Except ConfigError String :=
  match environment.lookup name with
  | some value => .ok value
  | none => .error (.unset name)

/-- The value of a variable. An empty one is as good as none. -/
def value? (environment : Environment) (name : String) : Option String :=
  (environment.lookup name).filter (· ≠ "")

def valueOr (environment : Environment) (name default : String) : String :=
  (value? environment name).getD default

def checkPresent (field value : String) : Except ConfigError Unit :=
  if value = "" then .error (.empty field) else .ok ()

def checkAddress (field value : String) : Except ConfigError Unit := do
  checkPresent field value
  if "http://".isPrefixOf value || "https://".isPrefixOf value then .ok ()
  else .error (.notHttp field)

structure Connection where
  engineUrl : String
  engineToken : Option String
  /-- The namespace of runs and volumes. -/
  space : String
  hostUrl : String
  hostToken : Option String
deriving DecidableEq, Repr

namespace Connection

def ofEnvironment (environment : Environment) : Connection :=
  { engineUrl := valueOr environment "ENGINE_API_URL" "https://kubernetes.default.svc"
    engineToken := value? environment "ENGINE_TOKEN"
    space := valueOr environment "ENGINE_NAMESPACE" "default"
    hostUrl := valueOr environment "SCM_API_URL" "https://api.github.com"
    hostToken := value? environment "SCM_TOKEN" }

def checkEngine (connection : Connection) : Except ConfigError Unit :=
  checkAddress "engine_api_url" connection.engineUrl

def checkHost (connection : Connection) : Except ConfigError Unit :=
  checkAddress "scm_api_url" connection.hostUrl

def checkSpace (connection : Connection) : Except ConfigError Unit :=
  checkPresent "namespace" connection.space

end Connection

end StagedRuns.Config
