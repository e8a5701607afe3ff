import StagedRuns.Expr.Token
import StagedRuns.Expr.Tree
import StagedRuns.Expr.Value

/-!
Why an expression has no value, and the words for it.
-/

namespace StagedRuns.Expr

/-- How deep evaluation may nest. Chains of operators in parentheses make trees that are deeper
than the nesting that reading them allows. -/
def maxEvaluationDepth : Nat := 2 * maxDepth

inductive Mismatch where
  | unary (op : UnaryOp) (operand : Kind)
  | logical (op : BinaryOp) (operand : Kind)
  | binary (op : BinaryOp) (left right : Kind)
  /-- Something other than a text looked for in a map. -/
  | keyOfMap (key : Kind)
  | membership (container : Kind)
  | selection (field : String) (object : Kind)
  | indexing (object index : Kind)
  | condition (kind : Kind)
  | size (kind : Kind)
  /-- The kinds of the target, if there is one, and of the arguments. -/
  | call (function : String) (signature : List Kind)
deriving DecidableEq, Repr

def Mismatch.message : Mismatch → String
  | .unary op operand => s!"{op.sign} applied to {operand.name}"
  | .logical op operand => s!"{op.sign} applied to {operand.name}"
  | .binary op left right =>
      s!"found no matching overload for '{op.sign}' applied to ({left.name}, {right.name})"
  | .keyOfMap key => s!"{key.name} in map"
  | .membership container => s!"in applied to {container.name}"
  | .selection field object => s!"cannot select field '{field}' from {object.name}"
  | .indexing object index => s!"cannot index {object.name} with {index.name}"
  | .condition kind => s!"ternary condition must be bool, got {kind.name}"
  | .size kind => s!"size applied to {kind.name}"
  | .call function signature =>
      let kinds := ", ".intercalate (signature.map Kind.name)
      s!"found no matching overload for '{function}' applied to ({kinds})"

/-- An operation that is made for its operands but has no result. -/
inductive Failure where
  | tooDeep
  | divisionByZero
  | outOfRange (index : Float)

def Failure.message : Failure → String
  | .tooDeep => s!"expression nested deeper than {maxEvaluationDepth} levels"
  | .divisionByZero => "division by zero"
  | .outOfRange index => s!"index out of range: {Number.positional index}"

inductive Fault where
  | undeclared (word : String)
  | missingKey (key : String)
  | mismatch (cause : Mismatch)
  | failure (cause : Failure)

inductive Cause where
  | malformed (fault : SyntaxFault)
  | evaluation (fault : Fault)
  | notText (kind : Kind)

/-- An error has the text of the whole expression beside its cause, the same for every cause: it is
put in once, where an expression is read, evaluated or asked for a text. -/
structure Error where
  expression : String
  cause : Cause

def Error.message (error : Error) : String :=
  let expression := error.expression
  match error.cause with
  | .malformed fault => s!"syntax error in '{expression}': {fault.message}"
  | .evaluation (.undeclared word) => s!"undeclared reference to '{word}' in '{expression}'"
  | .evaluation (.missingKey key) => s!"no such key: {key} (in '{expression}')"
  | .evaluation (.mismatch cause) => s!"no such overload in '{expression}': {cause.message}"
  | .evaluation (.failure cause) => s!"failed to evaluate '{expression}': {cause.message}"
  | .notText kind => s!"expression must return a string, '{expression}' returned {kind.name}"

end StagedRuns.Expr
