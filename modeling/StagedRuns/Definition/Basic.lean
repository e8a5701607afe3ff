import StagedRuns.Run.Basic
import StagedRuns.Webhook.Context

/-!
Definitions of runs: a specification that is submitted as it stands, an expression that decides
whether there is a run for an event, and parameters whose values are expressions.
-/

namespace StagedRuns

structure Binding where
  name : String
  expression : String
deriving DecidableEq, Repr, Inhabited

structure Definition where
  /-- Decides whether there is a run; always, if it is empty. -/
  filter : String
  bindings : List Binding
  spec : Run.Spec
deriving DecidableEq, Repr, Inhabited

inductive DefinitionError where
  | expression (error : Expr.Error)
  | filterNotBool (expression : String) (kind : Expr.Kind)

def DefinitionError.message : DefinitionError → String
  | .expression cause => cause.message
  | .filterNotBool filter kind =>
      "expression '" ++ filter ++ "' must return a bool, got " ++ kind.name

namespace Definition

def empty : Definition :=
  { filter := "", bindings := [], spec := .empty }

def managedBy : String := "pipelineRun"

def passes (definition : Definition) (context : Webhook.Context) :
    Except DefinitionError Bool :=
  if definition.filter = "" then .ok true
  else
    match context.evaluate definition.filter with
    | .error error => .error (.expression error)
    | .ok (.bool value) => .ok value
    | .ok other => .error (.filterNotBool definition.filter other.kind)

def param (context : Webhook.Context) (binding : Binding) : Except DefinitionError Run.Param :=
  match context.evaluateText binding.expression with
  | .error error => .error (.expression error)
  | .ok value => .ok { name := binding.name, value }

/-- The run for an event, if there is one. Bound parameters come after those of the
specification. -/
def execute (definition : Definition) (context : Webhook.Context) (generateName : String)
    (source : Source) (hookId : String) : Except DefinitionError (Option Run) := do
  if ← definition.passes context then
    let params ← definition.bindings.mapM (param context)
    let spec := { definition.spec with params := definition.spec.params ++ params }
    return some ((Run.new managedBy generateName spec).correlate source hookId)
  else return none

end Definition

end StagedRuns
