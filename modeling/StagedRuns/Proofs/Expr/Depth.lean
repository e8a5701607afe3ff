import StagedRuns.Expr.Evaluation

/-!
The limit of the nesting does nothing but fail. Evaluation without the limit is defined as a
function of the tree and the bindings alone; evaluation with the limit gives what this one gives or
fails for being too deep, gives it wherever the height of the tree is within the limit, and leaves
the counter as it was.
-/

namespace StagedRuns.Expr

/-- What a computation gives that does not look at the counter. -/
def outcome {α : Type} (computation : Metered α) : Except Fault α :=
  (computation 0).1

mutual

/-- The value of a tree with no limit to its nesting. -/
def unlimited (bindings : Bindings) : Tree → Except Fault Value
  | .null => pure .null
  | .bool value => pure (.bool value)
  | .number value => pure (.number value.toFloat)
  | .text content => pure (.text content)
  | .name word =>
      match bindings.lookup word with
      | some value => pure value
      | none => throw (.undeclared word)
  | .member object field => do
      let object ← unlimited bindings object
      outcome (object.select field)
  | .index object index => do
      let object ← unlimited bindings object
      let index ← unlimited bindings index
      outcome (object.at index)
  | .call function arguments => do
      let arguments ← unlimitedAll bindings arguments
      outcome (applyFunction function arguments)
  | .method target function arguments => do
      let target ← unlimited bindings target
      let arguments ← unlimitedAll bindings arguments
      outcome (applyMethod target function arguments)
  | .unary op operand => do
      let operand ← unlimited bindings operand
      match op, operand with
      | .not, .bool value => pure (.bool (!value))
      | .negate, .number value => pure (.number (-value))
      | op, operand => throw (.mismatch (.unary op operand.kind))
  | .binary .both left right => do
      let left ← unlimited bindings left
      if ← outcome (left.asSide .both) then do
        let right ← unlimited bindings right
        let right ← outcome (right.asSide .both)
        pure (.bool right)
      else pure (.bool false)
  | .binary .either left right => do
      let left ← unlimited bindings left
      if ← outcome (left.asSide .either) then pure (.bool true)
      else do
        let right ← unlimited bindings right
        let right ← outcome (right.asSide .either)
        pure (.bool right)
  | .binary op left right => do
      let left ← unlimited bindings left
      let right ← unlimited bindings right
      outcome (left.combine op right)
  | .choice condition yes no => do
      match ← unlimited bindings condition with
      | .bool true => unlimited bindings yes
      | .bool false => unlimited bindings no
      | other => throw (.mismatch (.condition other.kind))
  | .list items => do
      let items ← unlimitedAll bindings items
      pure (.list items)

def unlimitedAll (bindings : Bindings) : List Tree → Except Fault (List Value)
  | [] => pure []
  | tree :: rest => do
      let value ← unlimited bindings tree
      let values ← unlimitedAll bindings rest
      pure (value :: values)

end

def Uncounted {α : Type} (computation : Metered α) : Prop :=
  ∀ depth, computation depth = (outcome computation, depth)

section

variable {α β : Type} {first : Metered α} {next : α → Metered β} {depth after : Nat}

theorem metered_bind {value : α} (done : first depth = (.ok value, after)) :
    (first >>= next) depth = next value after := by
  change ExceptT.bindCont next (first depth).1 (first depth).2 = _
  rw [done]
  rfl

theorem metered_bind_error {fault : Fault} (failed : first depth = (.error fault, after)) :
    (first >>= next) depth = (.error fault, after) := by
  change ExceptT.bindCont next (first depth).1 (first depth).2 = _
  rw [failed]
  rfl

theorem uncounted_pure (value : α) : Uncounted (pure value) :=
  fun _ => rfl

theorem uncounted_throw (fault : Fault) : Uncounted (throw fault : Metered α) :=
  fun _ => rfl

theorem uncounted_mismatch (cause : Mismatch) : Uncounted (mismatch cause : Metered α) :=
  fun _ => rfl

theorem Uncounted.bind (uncounted : Uncounted first) (rest : ∀ value, Uncounted (next value)) :
    Uncounted (first >>= next) := by
  intro depth
  unfold outcome
  cases result : outcome first with
  | ok value =>
      rw [metered_bind ((uncounted depth).trans (by rw [result])),
        metered_bind ((uncounted 0).trans (by rw [result]))]
      exact rest value depth
  | error fault =>
      rw [metered_bind_error ((uncounted depth).trans (by rw [result])),
        metered_bind_error ((uncounted 0).trans (by rw [result]))]

end

theorem uncounted_select (object : Value) (field : String) :
    Uncounted (object.select field) := by
  unfold Value.select
  split
  · split
    · exact uncounted_pure _
    · exact uncounted_throw _
  · exact uncounted_mismatch _

theorem uncounted_at (object index : Value) : Uncounted (object.at index) := by
  unfold Value.at
  split
  · exact uncounted_select _ _
  · split
    · exact uncounted_pure _
    · exact uncounted_throw _
  · exact uncounted_mismatch _

theorem uncounted_asSide (op : BinaryOp) (side : Value) : Uncounted (side.asSide op) := by
  unfold Value.asSide
  split
  · exact uncounted_pure _
  · exact uncounted_mismatch _

theorem uncounted_compareEqual (op : BinaryOp) (left right : Value) :
    Uncounted (left.compareEqual op right) := by
  unfold Value.compareEqual
  split
  · exact uncounted_pure _
  · exact uncounted_mismatch _

theorem uncounted_occursIn (item container : Value) : Uncounted (item.occursIn container) := by
  unfold Value.occursIn
  split
  · split
    · exact uncounted_pure _
    · exact uncounted_mismatch _
  · exact uncounted_pure _
  · exact uncounted_mismatch _

theorem uncounted_order (op : BinaryOp) (left right : Value) :
    Uncounted (left.order op right) := by
  unfold Value.order
  split
  · exact uncounted_pure _
  · exact uncounted_pure _
  · exact uncounted_pure _
  · exact uncounted_mismatch _

theorem uncounted_add (left right : Value) : Uncounted (left.add right) := by
  unfold Value.add
  split
  · exact uncounted_pure _
  · exact uncounted_pure _
  · exact uncounted_pure _
  · exact uncounted_mismatch _

theorem uncounted_arithmetic (op : BinaryOp) (left right : Value)
    {compute : Float → Float → Metered Float} (each : ∀ x y, Uncounted (compute x y)) :
    Uncounted (left.arithmetic op right compute) := by
  unfold Value.arithmetic
  split
  · exact (each _ _).bind fun _ => uncounted_pure _
  · exact uncounted_mismatch _

theorem uncounted_unlessZero (compute : Float → Float → Float) (left right : Float) :
    Uncounted (unlessZero compute left right) := by
  unfold unlessZero
  split
  · exact uncounted_throw _
  · exact uncounted_pure _

theorem uncounted_combine (op : BinaryOp) (left right : Value) :
    Uncounted (left.combine op right) := by
  unfold Value.combine
  cases op with
  | equal | unequal => exact (uncounted_compareEqual _ _ _).bind fun _ => uncounted_pure _
  | within => exact (uncounted_occursIn _ _).bind fun _ => uncounted_pure _
  | less | atMost | greater | atLeast =>
      exact (uncounted_order _ _ _).bind fun _ => uncounted_pure _
  | add => exact uncounted_add _ _
  | subtract | multiply => exact uncounted_arithmetic _ _ _ fun _ _ => uncounted_pure _
  | divide | modulo => exact uncounted_arithmetic _ _ _ (uncounted_unlessZero _)
  | both | either => exact uncounted_mismatch _

theorem uncounted_size (container : Value) : Uncounted container.size := by
  unfold Value.size
  split
  · exact uncounted_pure _
  · exact uncounted_pure _
  · exact uncounted_pure _
  · exact uncounted_mismatch _

theorem uncounted_applyFunction (function : String) (arguments : List Value) :
    Uncounted (applyFunction function arguments) := by
  unfold applyFunction
  split
  · split
    · exact uncounted_size _
    · exact uncounted_mismatch _
  · exact uncounted_mismatch _

theorem uncounted_applyMethod (target : Value) (function : String) (arguments : List Value) :
    Uncounted (applyMethod target function arguments) := by
  unfold applyMethod
  dsimp only
  split
  · split
    · exact uncounted_size _
    · exact uncounted_mismatch _
  · split
    · exact uncounted_pure _
    · split
      · exact uncounted_pure _
      · split
        · exact uncounted_pure _
        · exact uncounted_mismatch _
  · exact uncounted_mismatch _

/-- A computation leaves the counter as it was, gives what another one gives or fails for being too
deep, and does not do so where `height` more levels are within the limit. -/
structure Refines {α : Type} (limited : Metered α) (free : Except Fault α) (height : Nat) :
    Prop where
  restores : ∀ depth, (limited depth).2 = depth
  agrees : ∀ depth, (limited depth).1 = free ∨ (limited depth).1 = .error (.failure .tooDeep)
  exact : ∀ depth, depth + height ≤ maxEvaluationDepth → (limited depth).1 = free

namespace Refines

section

variable {α β : Type} {limited : Metered α} {free : Except Fault α} {next : α → Metered β}
  {freeNext : α → Except Fault β} {height : Nat}

theorem of_uncounted (uncounted : Uncounted limited) : Refines limited (outcome limited) height where
  restores := fun depth => by rw [uncounted depth]
  agrees := fun depth => .inl (by rw [uncounted depth])
  exact := fun depth _ => by rw [uncounted depth]

theorem of_pure (value : α) : Refines (pure value) (pure value) height :=
  of_uncounted (uncounted_pure value)

theorem of_throw (fault : Fault) : Refines (throw fault : Metered α) (throw fault) height :=
  of_uncounted (uncounted_throw fault)

theorem of_lower {lower : Nat} (refines : Refines limited free lower) (within : lower ≤ height) :
    Refines limited free height where
  restores := refines.restores
  agrees := refines.agrees
  exact := fun depth shallow => refines.exact depth (by omega)

theorem bind (first : Refines limited free height)
    (rest : ∀ value, Refines (next value) (freeNext value) height) :
    Refines (limited >>= next) (free >>= freeNext) height := by
  have step (depth : Nat) :
      (∃ value, limited depth = (.ok value, depth) ∧ free = .ok value) ∨
        ∃ fault, limited depth = (.error fault, depth) ∧
          (free = .error fault ∨ fault = .failure .tooDeep) := by
    have restored := first.restores depth
    have agreed := first.agrees depth
    generalize limited depth = result at restored agreed
    obtain ⟨result, after⟩ := result
    cases restored
    cases result with
    | ok value =>
        rcases agreed with same | tooDeep
        · exact .inl ⟨value, rfl, same.symm⟩
        · cases tooDeep
    | error fault =>
        refine .inr ⟨fault, rfl, ?_⟩
        rcases agreed with same | tooDeep
        · exact .inl same.symm
        · exact .inr (Except.error.inj tooDeep)
  refine ⟨?_, ?_, ?_⟩
  · intro depth
    rcases step depth with ⟨value, done, _⟩ | ⟨fault, failed, _⟩
    · rw [metered_bind done, (rest value).restores]
    · rw [metered_bind_error failed]
  · intro depth
    rcases step depth with ⟨value, done, same⟩ | ⟨fault, failed, same | tooDeep⟩
    · rw [metered_bind done, same]
      exact (rest value).agrees depth
    · rw [metered_bind_error failed, same]
      exact .inl rfl
    · rw [metered_bind_error failed, tooDeep]
      exact .inr rfl
  · intro depth shallow
    have same := first.exact depth shallow
    rcases step depth with ⟨value, done, _⟩ | ⟨fault, failed, _⟩
    · rw [done] at same
      rw [metered_bind done, ← same]
      exact (rest value).exact depth shallow
    · rw [failed] at same
      rw [metered_bind_error failed, ← same]
      rfl

end

theorem nested {body : Metered Value} {free : Except Fault Value} {height : Nat}
    (refines : Refines body free height) : Refines (nested body) free (height + 1) := by
  have beyond (depth : Nat) (tooDeep : maxEvaluationDepth < depth + 1) :
      Expr.nested body depth = (.error (.failure .tooDeep), depth) := if_pos tooDeep
  have within (depth : Nat) (shallow : ¬ maxEvaluationDepth < depth + 1) :
      Expr.nested body depth = ((body (depth + 1)).1, depth) := if_neg shallow
  refine ⟨?_, ?_, ?_⟩
  · intro depth
    by_cases tooDeep : maxEvaluationDepth < depth + 1
    · rw [beyond depth tooDeep]
    · rw [within depth tooDeep]
  · intro depth
    by_cases tooDeep : maxEvaluationDepth < depth + 1
    · rw [beyond depth tooDeep]
      exact .inr rfl
    · rw [within depth tooDeep]
      exact refines.agrees (depth + 1)
  · intro depth shallow
    rw [within depth (by omega)]
    exact refines.exact (depth + 1) (by omega)

end Refines

mutual

/-- Along the recursion of the evaluator: the body of a node nests no deeper than its highest operand,
and the node one level more. -/
theorem evaluate_refines (bindings : Bindings) : (tree : Tree) →
    Refines (evaluate bindings tree) (unlimited bindings tree) tree.height
  | .null | .bool _ | .number _ | .text _ => .nested (.of_pure _)
  | .name word => by
      rw [evaluate, unlimited]
      refine .nested ?_
      cases bindings.lookup word with
      | some value => exact .of_pure value
      | none => exact .of_throw _
  | .member object field =>
      .nested ((evaluate_refines bindings object).bind fun object =>
        .of_uncounted (uncounted_select object field))
  | .index object index => by
      have first := evaluate_refines bindings object
      have second := evaluate_refines bindings index
      rw [evaluate, unlimited, Tree.height]
      refine .nested ((first.of_lower (Nat.le_max_left _ _)).bind fun object => ?_)
      refine (second.of_lower (Nat.le_max_right _ _)).bind fun index => ?_
      exact .of_uncounted (uncounted_at object index)
  | .call function arguments =>
      .nested ((evaluateAll_refines bindings arguments).bind fun arguments =>
        .of_uncounted (uncounted_applyFunction function arguments))
  | .method target function arguments => by
      have first := evaluate_refines bindings target
      have second := evaluateAll_refines bindings arguments
      rw [evaluate, unlimited, Tree.height]
      refine .nested ((first.of_lower (Nat.le_max_left _ _)).bind fun target => ?_)
      refine (second.of_lower (Nat.le_max_right _ _)).bind fun arguments => ?_
      exact .of_uncounted (uncounted_applyMethod target function arguments)
  | .unary op operand => by
      have first := evaluate_refines bindings operand
      rw [evaluate, unlimited, Tree.height]
      refine .nested (first.bind fun operand => ?_)
      cases op with
      | not =>
          cases operand with
          | bool value => exact .of_pure _
          | null | number | text | list | map => exact .of_throw _
      | negate =>
          cases operand with
          | number value => exact .of_pure _
          | null | bool | text | list | map => exact .of_throw _
  | .binary op left right => by
      have first := (evaluate_refines bindings left).of_lower
        (Nat.le_max_left left.height right.height)
      have second := (evaluate_refines bindings right).of_lower
        (Nat.le_max_right left.height right.height)
      rw [Tree.height]
      cases op with
      | both =>
          rw [evaluate, unlimited]
          refine .nested (first.bind fun left => ?_)
          refine (Refines.of_uncounted (uncounted_asSide .both left)).bind fun holds => ?_
          cases holds with
          | false => exact .of_pure _
          | true =>
              exact second.bind fun right =>
                (Refines.of_uncounted (uncounted_asSide .both right)).bind fun _ => .of_pure _
      | either =>
          rw [evaluate, unlimited]
          refine .nested (first.bind fun left => ?_)
          refine (Refines.of_uncounted (uncounted_asSide .either left)).bind fun holds => ?_
          cases holds with
          | true => exact .of_pure _
          | false =>
              exact second.bind fun right =>
                (Refines.of_uncounted (uncounted_asSide .either right)).bind fun _ => .of_pure _
      | add | subtract | multiply | divide | modulo | equal | unequal | less | atMost | greater
      | atLeast | within =>
          exact .nested (first.bind fun left => second.bind fun right =>
            .of_uncounted (uncounted_combine _ left right))
  | .choice condition yes no => by
      have first := evaluate_refines bindings condition
      have second := evaluate_refines bindings yes
      have third := evaluate_refines bindings no
      rw [evaluate, unlimited, Tree.height]
      refine .nested ((first.of_lower (Nat.le_max_left _ _)).bind fun condition => ?_)
      cases condition with
      | bool holds =>
          cases holds with
          | true => exact second.of_lower (by omega)
          | false => exact third.of_lower (by omega)
      | null | number | text | list | map => exact .of_throw _
  | .list items =>
      .nested ((evaluateAll_refines bindings items).bind fun items =>
        .of_pure (Value.list items))

theorem evaluateAll_refines (bindings : Bindings) : (trees : List Tree) →
    Refines (evaluateAll bindings trees) (unlimitedAll bindings trees) (Tree.heights trees)
  | [] => .of_pure []
  | tree :: rest => by
      have first := evaluate_refines bindings tree
      have second := evaluateAll_refines bindings rest
      rw [evaluateAll, unlimitedAll, Tree.heights]
      refine (first.of_lower (Nat.le_max_left _ _)).bind fun value => ?_
      refine (second.of_lower (Nat.le_max_right _ _)).bind fun values => ?_
      exact .of_pure (value :: values)

end

/-- Whatever nesting evaluation has reached, a tree gives what it gives without a limit or fails for
being too deep, gives it if its height is within the rest of the limit, and leaves the nesting as it
was. -/
theorem evaluation_limited (bindings : Bindings) (tree : Tree) (depth : Nat) :
    (((evaluate bindings tree).run depth).1 = unlimited bindings tree ∨
      ∃ failure : Failure,
        ((evaluate bindings tree).run depth).1 = .error (.failure failure) ∧
          failure.message = "expression nested deeper than 200 levels") ∧
      (depth + tree.height ≤ 200 →
        ((evaluate bindings tree).run depth).1 = unlimited bindings tree) ∧
      ((evaluate bindings tree).run depth).2 = depth := by
  have refines := evaluate_refines bindings tree
  refine ⟨?_, ?_, refines.restores depth⟩
  · rcases refines.agrees depth with same | tooDeep
    · exact .inl same
    · exact .inr ⟨.tooDeep, tooDeep, by decide⟩
  · intro shallow
    exact refines.exact depth shallow

theorem negation_limited :
    (((evaluate [] (.unary .not (.bool true))).run 198).1 =
        unlimited [] (.unary .not (.bool true)) ∧
      unlimited [] (.unary .not (.bool true)) = .ok (.bool false)) ∧
      ((evaluate [] (.unary .not (.bool true))).run 199).1 = .error (.failure .tooDeep) :=
  ⟨⟨(evaluation_limited [] (.unary .not (.bool true)) 198).2.1 (by decide), rfl⟩, rfl⟩

end StagedRuns.Expr
