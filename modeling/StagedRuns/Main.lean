import StagedRuns.Cli.Program

/-!
The command line program.
-/

namespace StagedRuns.Cli

/-- The number of an error of the operating system, which may be given with its sign turned. -/
def errorNumber (code : UInt32) : UInt32 :=
  min code (0 - code)

def readFile (path : String) : IO (Except FileFault (List UInt8)) := do
  try
    let content ← IO.FS.readBinFile path
    return .ok content.toList
  catch error =>
    match error with
    | .noFileOrDirectory _ _ _ => return .error .missing
    | .inappropriateType _ code _ =>
        return .error (if errorNumber code = 20 then .notDirectory else .directory)
    | .invalidArgument _ code _ =>
        return .error (if errorNumber code = 36 then .nameTooLong else .other (toString error))
    | error => return .error (.other (toString error))

def environment : IO Config.Environment := do
  let bindings ← Command.variableNames.mapM fun name =>
    return (← IO.getEnv name).map fun value => (name, value)
  return bindings.filterMap id

end StagedRuns.Cli

def main (arguments : List String) : IO UInt32 := do
  let outcome ← StagedRuns.Cli.execute StagedRuns.Cli.readFile (← StagedRuns.Cli.environment)
    arguments
  IO.print outcome.output
  IO.eprint outcome.errorOutput
  return outcome.exitCode.toUInt32
