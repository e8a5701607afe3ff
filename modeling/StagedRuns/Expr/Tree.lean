import StagedRuns.Number.Decimal

/-!
The trees of expressions.
-/

namespace StagedRuns.Expr

open StagedRuns.Number (Decimal)

inductive UnaryOp where
  | not
  | negate
deriving DecidableEq, Repr

inductive BinaryOp where
  | add
  | subtract
  | multiply
  | divide
  | modulo
  | equal
  | unequal
  | less
  | atMost
  | greater
  | atLeast
  | within
  | both
  | either
deriving DecidableEq, Repr

def UnaryOp.sign : UnaryOp → String
  | .not => "!"
  | .negate => "-"

def BinaryOp.sign : BinaryOp → String
  | .add => "+"
  | .subtract => "-"
  | .multiply => "*"
  | .divide => "/"
  | .modulo => "%"
  | .equal => "=="
  | .unequal => "!="
  | .less => "<"
  | .atMost => "<="
  | .greater => ">"
  | .atLeast => ">="
  | .within => "in"
  | .both => "&&"
  | .either => "||"

inductive Tree where
  | null
  | bool (value : Bool)
  | number (value : Decimal)
  | text (content : String)
  | name (word : String)
  /-- `object.field` -/
  | member (object : Tree) (field : String)
  /-- `object[index]` -/
  | index (object index : Tree)
  /-- `function(arguments)` -/
  | call (function : String) (arguments : List Tree)
  /-- `target.function(arguments)` -/
  | method (target : Tree) (function : String) (arguments : List Tree)
  | unary (op : UnaryOp) (operand : Tree)
  | binary (op : BinaryOp) (left right : Tree)
  /-- `condition ? yes : no` -/
  | choice (condition yes no : Tree)
  | list (items : List Tree)
deriving Inhabited, Repr

mutual

/-- The height of a tree, in which a leaf counts one. -/
def Tree.height : Tree → Nat
  | .null | .bool _ | .number _ | .text _ | .name _ => 1
  | .member object _ => object.height + 1
  | .index object place => max object.height place.height + 1
  | .call _ arguments => Tree.heights arguments + 1
  | .method target _ arguments => max target.height (Tree.heights arguments) + 1
  | .unary _ operand => operand.height + 1
  | .binary _ left right => max left.height right.height + 1
  | .choice condition yes no => max condition.height (max yes.height no.height) + 1
  | .list items => Tree.heights items + 1

def Tree.heights : List Tree → Nat
  | [] => 0
  | tree :: rest => max tree.height (Tree.heights rest)

end

end StagedRuns.Expr
