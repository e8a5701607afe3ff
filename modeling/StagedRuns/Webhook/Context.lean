import StagedRuns.Expr.Evaluation
import StagedRuns.Webhook.Payload

/-!
What the expressions of a pipeline can see: the document of the event as `hook`, and a few values
derived from it as `vars`.
-/

namespace StagedRuns.Webhook

open StagedRuns.Expr (Bindings Value)

structure Context where
  bindings : Bindings

namespace Context

def shortLength : Nat := 7

/-- The part of a ref behind its last slash, the whole ref if it has none. -/
def branchOf (ref : String) : String :=
  String.ofList (ref.toList.reverse.takeWhile (· ≠ '/')).reverse

def variablesOf (event : Event) : Dictionary String :=
  let (sha, ref) :=
    match event with
    | .push pushed => (pushed.commitSha, pushed.ref)
    | .pullRequest action => (action.pullRequest.head.sha, action.pullRequest.head.ref)
  Dictionary.ofList
    [ ("CI_COMMIT_SHA", sha)
    , ("CI_COMMIT_SHORT_SHA", String.ofList (sha.toList.take shortLength))
    , ("CI_COMMIT_BRANCH", branchOf ref) ]

def ofDocument (document : Json) : Context :=
  ⟨[("hook", Value.ofJson document), ("vars", .null)]⟩

def ofEvent (event : Event) : Context :=
  ⟨[("hook", Value.ofJson event.document), ("vars", Value.ofTexts (variablesOf event))]⟩

def evaluate (context : Context) (expression : String) : Except Expr.Error Value :=
  Expr.value context.bindings expression

/-- The text of an expression: a text as it is, a number in general notation. -/
def evaluateText (context : Context) (expression : String) : Except Expr.Error String := do
  match ← context.evaluate expression with
  | .text content => .ok content
  | .number value => .ok (Number.general value)
  | other => .error ⟨expression, .notText other.kind⟩

end Context

end StagedRuns.Webhook
