import StagedRuns.Config.Connection

/-!
The settings of the watcher. Times are in seconds.
-/

namespace StagedRuns.Config

structure Watcher where
  connection : Connection
  pollInterval : Nat
  notifyTimeout : Nat
deriving DecidableEq, Repr

namespace Watcher

def secondsBound : Nat := Nat.pow 2 64

/-- The number of seconds that a text spells. A plus sign may come first. -/
def seconds? (text : String) : Option Nat :=
  let digits :=
    match text.toList with
    | '+' :: rest => rest
    | all => all
  if digits.isEmpty || !digits.all Char.isDigit then none
  else
    let value := digits.foldl (fun value c => value * 10 + (c.toNat - '0'.toNat)) 0
    if value < secondsBound then some value else none

def secondsOr (environment : Environment) (name : String) (default : Nat) :
    Except ConfigError Nat :=
  match value? environment name with
  | none => .ok default
  | some text =>
      match seconds? text with
      | some value => .ok value
      | none => .error (.notSeconds name text)

def ofEnvironment (environment : Environment) : Except ConfigError Watcher := do
  let pollInterval ← secondsOr environment "WATCH_POLL_INTERVAL" 5
  let notifyTimeout ← secondsOr environment "NOTIFY_TIMEOUT" 30
  return { connection := Connection.ofEnvironment environment, pollInterval, notifyTimeout }

def checkPositive (field : String) (value : Nat) : Except ConfigError Unit :=
  if value = 0 then .error (.notPositive field) else .ok ()

def check (config : Watcher) : Except ConfigError Unit := do
  config.connection.checkEngine
  config.connection.checkHost
  config.connection.checkSpace
  checkPositive "poll_interval" config.pollInterval
  checkPositive "notify_timeout" config.notifyTimeout

end Watcher

end StagedRuns.Config
