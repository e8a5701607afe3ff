import StagedRuns.Expr.Fault
import StagedRuns.Expr.Tree.Parse

/-!
The value of an expression under bindings for its names. Operands are evaluated from left to
right; `&&`, `||` and choices evaluate only what they need. A counter of the nesting reached goes
along, and nesting past the limit is a failure.
-/

namespace StagedRuns.Expr

abbrev Bindings := List (String × Value)

/-- A computation that may fail and that carries the counter of the nesting. -/
abbrev Metered := ExceptT Fault (StateM Nat)

/-- Runs a computation one level deeper. The counter comes back as it was. -/
def nested (body : Metered Value) : Metered Value := fun depth =>
  if maxEvaluationDepth < depth + 1 then (.error (.failure .tooDeep), depth)
  else ((body (depth + 1)).1, depth)

def mismatch {α : Type} (cause : Mismatch) : Metered α :=
  throw (.mismatch cause)

def Value.select (object : Value) (field : String) : Metered Value :=
  match object with
  | .map entries =>
      match entries.lookup field with
      | some value => pure value
      | none => throw (.missingKey field)
  | other => mismatch (.selection field other.kind)

def positionIn? (length : Nat) (index : Float) : Option Nat :=
  match Number.Binary64.ofFloat? index with
  | none => none
  | some parts =>
      let scale := Nat.pow 2 (-parts.exponent).toNat
      let whole := parts.significand * Nat.pow 2 parts.exponent.toNat / scale
      let isWhole := parts.significand % scale = 0
      if isWhole ∧ (parts.negative = false ∨ parts.significand = 0) ∧ whole < length then
        some whole
      else none

def Value.at (object index : Value) : Metered Value :=
  match object, index with
  | .map _, .text field => object.select field
  | .list items, .number position =>
      match positionIn? items.length position with
      | some place => pure (items[place]?.getD .null)
      | none => throw (.failure (.outOfRange position))
  | object, index => mismatch (.indexing object.kind index.kind)

def Value.asSide (op : BinaryOp) : Value → Metered Bool
  | .bool value => pure value
  | other => mismatch (.logical op other.kind)

/-- Whether two values are equal; only values of one kind compare, and null with anything. -/
def Value.compareEqual (op : BinaryOp) (left right : Value) : Metered Bool :=
  if left.kind = right.kind ∨ left.kind = .null ∨ right.kind = .null then
    pure (left.equals right)
  else mismatch (.binary op left.kind right.kind)

def Value.occursIn (item container : Value) : Metered Bool :=
  match container with
  | .map entries =>
      match item with
      | .text key => pure (entries.any (·.1 = key))
      | other => mismatch (.keyOfMap other.kind)
  | .list items => pure (items.any fun other => other.equals item)
  | other => mismatch (.membership other.kind)

def orderOfNumbers (left right : Float) : Option Ordering :=
  if left < right then some .lt
  else if left == right then some .eq
  else if right < left then some .gt
  else none

def orderOfTexts (left right : String) : Ordering :=
  if left < right then .lt else if left = right then .eq else .gt

def orderSatisfies (op : BinaryOp) : Ordering → Bool
  | .lt => op = .less || op = .atMost
  | .eq => op = .atMost || op = .atLeast
  | .gt => op = .greater || op = .atLeast

/-- The order of two values of one ordered kind. Numbers need not have one. -/
def Value.order (op : BinaryOp) (left right : Value) : Metered (Option Ordering) :=
  match left, right with
  | .number left, .number right => pure (orderOfNumbers left right)
  | .text left, .text right => pure (some (orderOfTexts left right))
  | .bool left, .bool right => pure (some (compare left right))
  | left, right => mismatch (.binary op left.kind right.kind)

def Value.add (left right : Value) : Metered Value :=
  match left, right with
  | .number left, .number right => pure (.number (left + right))
  | .text left, .text right => pure (.text (left ++ right))
  | .list left, .list right => pure (.list (left ++ right))
  | left, right => mismatch (.binary .add left.kind right.kind)

def Value.arithmetic (op : BinaryOp) (left right : Value)
    (compute : Float → Float → Metered Float) : Metered Value :=
  match left, right with
  | .number left, .number right => do
      let result ← compute left right
      pure (.number result)
  | left, right => mismatch (.binary op left.kind right.kind)

def unlessZero (compute : Float → Float → Float) (left right : Float) : Metered Float :=
  if right == 0.0 then throw (.failure .divisionByZero) else pure (compute left right)

def Value.combine (op : BinaryOp) (left right : Value) : Metered Value :=
  match op with
  | .equal => do
      let same ← left.compareEqual op right
      pure (.bool same)
  | .unequal => do
      let same ← left.compareEqual op right
      pure (.bool (!same))
  | .within => do
      let occurs ← left.occursIn right
      pure (.bool occurs)
  | .less | .atMost | .greater | .atLeast => do
      let order ← left.order op right
      pure (.bool (order.any (orderSatisfies op)))
  | .add => left.add right
  | .subtract => left.arithmetic op right fun x y => pure (x - y)
  | .multiply => left.arithmetic op right fun x y => pure (x * y)
  | .divide => left.arithmetic op right (unlessZero fun x y => x / y)
  | .modulo => left.arithmetic op right (unlessZero Number.remainder)
  | .both | .either => mismatch (.binary op left.kind right.kind)

def Value.size : Value → Metered Value
  | .text content => pure (.number (Float.ofNat content.length))
  | .list items => pure (.number (Float.ofNat items.length))
  | .map entries => pure (.number (Float.ofNat entries.length))
  | other => mismatch (.size other.kind)

def beginsWith (part text : List Char) : Bool :=
  part.isPrefixOf text

def holds (part : List Char) : List Char → Bool
  | [] => part.isEmpty
  | c :: rest => beginsWith part (c :: rest) || holds part rest

def applyFunction (function : String) (arguments : List Value) : Metered Value :=
  match arguments with
  | [argument] =>
      if function = "size" then argument.size
      else mismatch (.call function [argument.kind])
  | arguments => mismatch (.call function (arguments.map Value.kind))

def applyMethod (target : Value) (function : String) (arguments : List Value) : Metered Value :=
  let unknown : Metered Value :=
    mismatch (.call function (target.kind :: arguments.map Value.kind))
  match target, arguments with
  | target, [] => if function = "size" then target.size else unknown
  | .text text, [.text part] =>
      if function = "startsWith" then
        pure (.bool (beginsWith part.toList text.toList))
      else if function = "endsWith" then
        pure (.bool (beginsWith part.toList.reverse text.toList.reverse))
      else if function = "contains" then
        pure (.bool (holds part.toList text.toList))
      else unknown
  | _, _ => unknown

mutual

def evaluate (bindings : Bindings) : Tree → Metered Value
  | .null => nested (pure .null)
  | .bool value => nested (pure (.bool value))
  | .number value => nested (pure (.number value.toFloat))
  | .text content => nested (pure (.text content))
  | .name word => nested <|
      match bindings.lookup word with
      | some value => pure value
      | none => throw (.undeclared word)
  | .member object field => nested do
      let object ← evaluate bindings object
      object.select field
  | .index object index => nested do
      let object ← evaluate bindings object
      let index ← evaluate bindings index
      object.at index
  | .call function arguments => nested do
      let arguments ← evaluateAll bindings arguments
      applyFunction function arguments
  | .method target function arguments => nested do
      let target ← evaluate bindings target
      let arguments ← evaluateAll bindings arguments
      applyMethod target function arguments
  | .unary op operand => nested do
      let operand ← evaluate bindings operand
      match op, operand with
      | .not, .bool value => pure (.bool (!value))
      | .negate, .number value => pure (.number (-value))
      | op, operand => mismatch (.unary op operand.kind)
  | .binary .both left right => nested do
      let left ← evaluate bindings left
      if ← left.asSide .both then do
        let right ← evaluate bindings right
        let right ← right.asSide .both
        pure (.bool right)
      else pure (.bool false)
  | .binary .either left right => nested do
      let left ← evaluate bindings left
      if ← left.asSide .either then pure (.bool true)
      else do
        let right ← evaluate bindings right
        let right ← right.asSide .either
        pure (.bool right)
  | .binary op left right => nested do
      let left ← evaluate bindings left
      let right ← evaluate bindings right
      left.combine op right
  | .choice condition yes no => nested do
      match ← evaluate bindings condition with
      | .bool true => evaluate bindings yes
      | .bool false => evaluate bindings no
      | other => mismatch (.condition other.kind)
  | .list items => nested do
      let items ← evaluateAll bindings items
      pure (.list items)

def evaluateAll (bindings : Bindings) : List Tree → Metered (List Value)
  | [] => pure []
  | tree :: rest => do
      let value ← evaluate bindings tree
      let values ← evaluateAll bindings rest
      pure (value :: values)

end

def value (bindings : Bindings) (expression : String) : Except Error Value :=
  match parse expression with
  | .error fault => .error ⟨expression, .malformed fault⟩
  | .ok tree =>
      match ((evaluate bindings tree).run 0).1 with
      | .ok value => .ok value
      | .error fault => .error ⟨expression, .evaluation fault⟩

end StagedRuns.Expr
