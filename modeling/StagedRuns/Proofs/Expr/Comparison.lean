import Mathlib.Order.Basic
import StagedRuns.Proofs.Dictionary
import StagedRuns.Proofs.Expr.Depth

/-!
The comparisons of values and membership agree with each other. Equality is symmetric, and holds
between values of one kind only. Membership in a list is equality with one of its items, membership
in a map is that the item can be looked up, and the order of two texts or two truth values is total.
-/

namespace StagedRuns.Expr

/-! ### Equality -/

section Numbers

open Float.Model.UnpackedFloat (Sign)

/-- Along the cases of the order: of what is no number, the infinite numbers, the zeros and the
finite numbers, of either sign. -/
theorem unpacked_compare_swap (left right : Float.Model.UnpackedFloat) :
    (left.compare right).map Ordering.swap = right.compare left := by
  have bySize (m n : Nat) (e f : Int) : ((compare e f).then (compare m n)).swap =
      (compare f e).then (compare n m) := by
    rw [Ordering.swap_then, ← Std.OrientedOrd.eq_swap, ← Std.OrientedOrd.eq_swap]
  cases left with
  | notANumber => cases right <;> rfl
  | infinity sign =>
      cases right with
      | infinity other => cases sign <;> cases other <;> rfl
      | notANumber => rfl
      | zero | finite => cases sign <;> rfl
  | zero sign =>
      cases right with
      | infinity other => cases other <;> rfl
      | notANumber => rfl
      | zero other => rfl
      | finite other => cases other <;> rfl
  | finite sign m e positive =>
      cases right with
      | infinity other => cases other <;> cases sign <;> rfl
      | notANumber => rfl
      | zero other => cases sign <;> rfl
      | finite other n f positive =>
          cases sign <;> cases other
          · exact congrArg (some ·.swap) (bySize m n e f)
          · rfl
          · rfl
          · exact congrArg some (bySize m n e f)

theorem number_beq_comm (left right : Float) : (left == right) = (right == left) := by
  have swapped := unpacked_compare_swap left.toModel.unpack right.toModel.unpack
  change (left.toModel.unpack.compare right.toModel.unpack == some .eq) =
    (right.toModel.unpack.compare left.toModel.unpack == some .eq)
  rw [← swapped]
  cases left.toModel.unpack.compare right.toModel.unpack with
  | none => rfl
  | some order => cases order <;> rfl

end Numbers

namespace Value

mutual

theorem equals_comm : (left right : Value) → left.equals right = right.equals left
  | .null, right => by cases right <;> rfl
  | .bool left, right => by
      cases right with
      | bool right => exact BEq.comm
      | null | number | text | list | map => rfl
  | .number left, right => by
      cases right with
      | number right => exact number_beq_comm left right
      | null | bool | text | list | map => rfl
  | .text left, right => by
      cases right with
      | text right => exact BEq.comm
      | null | bool | number | list | map => rfl
  | .list left, right => by
      cases right with
      | list right => exact listEquals_comm left right
      | null | bool | number | text | map => rfl
  | .map left, right => by
      cases right with
      | map right => exact entriesEqual_comm left right
      | null | bool | number | text | list => rfl

theorem listEquals_comm : (lefts rights : List Value) →
    listEquals lefts rights = listEquals rights lefts
  | [], [] | [], _ :: _ | _ :: _, [] => rfl
  | left :: lefts, right :: rights => by
      rw [listEquals, listEquals, equals_comm left right, listEquals_comm lefts rights]

theorem entriesEqual_comm : (lefts rights : List (String × Value)) →
    entriesEqual lefts rights = entriesEqual rights lefts
  | [], [] | [], _ :: _ | _ :: _, [] => rfl
  | (leftKey, left) :: lefts, (rightKey, right) :: rights => by
      rw [entriesEqual, entriesEqual, equals_comm left right, entriesEqual_comm lefts rights,
        BEq.comm (a := leftKey)]

end

theorem kind_of_equals {left right : Value} (same : left.equals right = true) :
    left.kind = right.kind := by
  cases left <;> cases right <;> first | rfl | cases same

/-! ### Operators -/

def Comparable (left right : Value) : Prop :=
  left.kind = right.kind ∨ left.kind = .null ∨ right.kind = .null

section

variable {left right : Value}

theorem equality_of_comparable (comparable : Comparable left right) :
    outcome (left.combine .equal right) = .ok (.bool (left.equals right)) ∧
      outcome (left.combine .unequal right) = .ok (.bool !left.equals right) := by
  have compared : ∀ op, left.compareEqual op right = pure (left.equals right) :=
    fun _ => if_pos comparable
  simp only [combine, compared]
  exact ⟨rfl, rfl⟩

theorem equality_of_incomparable (incomparable : ¬ Comparable left right) {op : BinaryOp}
    (member : op ∈ [BinaryOp.equal, .unequal]) :
    outcome (left.combine op right) = .error (.mismatch (.binary op left.kind right.kind)) := by
  have refused : ∀ op, left.compareEqual op right = mismatch (.binary op left.kind right.kind) :=
    fun _ => if_neg incomparable
  simp only [List.mem_cons, List.not_mem_nil, or_false] at member
  rcases member with rfl | rfl <;> simp only [combine, refused] <;> rfl

theorem equal_iff_equals :
    outcome (left.combine .equal right) = .ok (.bool true) ↔ left.equals right = true := by
  by_cases comparable : Comparable left right
  · rw [(equality_of_comparable comparable).1]
    simp
  · rw [equality_of_incomparable comparable (List.mem_cons_self ..)]
    refine iff_of_false nofun fun same => comparable ?_
    exact .inl (kind_of_equals same)

theorem within_list (item : Value) (items : List Value) :
    outcome (item.combine .within (.list items)) =
      .ok (.bool (items.any fun other => other.equals item)) :=
  rfl

theorem within_map (key : String) (entries : List (String × Value)) :
    outcome ((Value.text key).combine .within (.map entries)) =
      .ok (.bool (entries.any (·.1 = key))) :=
  rfl

theorem select_map (key : String) (entries : List (String × Value)) :
    outcome ((Value.map entries).select key) =
      match entries.lookup key with
      | some value => .ok value
      | none => .error (.missingKey key) := by
  unfold select
  cases found : entries.lookup key with
  | some value =>
      simp only [found]
      rfl
  | none =>
      simp only [found]
      rfl

theorem at_map (key : String) (entries : List (String × Value)) :
    outcome ((Value.map entries).at (.text key)) = outcome ((Value.map entries).select key) :=
  rfl

end

end Value

def orderings : List BinaryOp :=
  [.less, .atMost, .greater, .atLeast]

theorem eager_of_ordering {op : BinaryOp} (member : op ∈ orderings) :
    op ≠ .both ∧ op ≠ .either := by
  cases op <;> revert member <;> decide

theorem combine_of_ordering {op : BinaryOp} (member : op ∈ orderings) (left right : Value) :
    left.combine op right =
      left.order op right >>= fun order => pure (.bool (order.any (orderSatisfies op))) := by
  cases op <;> first | rfl | exact absurd member (by decide)

theorem orderOfTexts_eq_iff (left right : String) :
    orderOfTexts left right = .eq ↔ left = right := by
  unfold orderOfTexts
  by_cases less : left < right
  · rw [if_pos less]
    refine iff_of_false nofun ?_
    rintro rfl
    exact String.lt_irrefl left less
  · rw [if_neg less]
    by_cases same : left = right
    · rw [if_pos same]
      exact iff_of_true rfl same
    · rw [if_neg same]
      exact iff_of_false nofun same

/-- The operator that holds in this order and in no other. -/
def strictFor : Ordering → BinaryOp
  | .lt => .less
  | .eq => .equal
  | .gt => .greater

/-- Two texts or two truth values have an order, and every comparison follows from it. -/
theorem exists_order {left right : Value}
    (ordered : (∃ first second, left = .text first ∧ right = .text second) ∨
      ∃ first second, left = .bool first ∧ right = .bool second) :
    ∃ order : Ordering,
      outcome (left.combine .equal right) = .ok (.bool (order = .eq)) ∧
        ∀ op ∈ orderings,
          outcome (left.combine op right) = .ok (.bool (orderSatisfies op order)) := by
  have each (op : BinaryOp) (member : op ∈ orderings) {order : Ordering}
      (has : left.order op right = pure (some order)) :
      outcome (left.combine op right) = .ok (.bool (orderSatisfies op order)) := by
    rw [combine_of_ordering member, has]
    rfl
  rcases ordered with ⟨first, second, rfl, rfl⟩ | ⟨first, second, rfl, rfl⟩
  · refine ⟨orderOfTexts first second, ?_, fun op member => each op member rfl⟩
    have comparable : Value.Comparable (.text first) (.text second) := .inl rfl
    rw [(Value.equality_of_comparable comparable).1, Value.equals]
    simp only [orderOfTexts_eq_iff]
    rfl
  · refine ⟨compare first second, ?_, fun op member => each op member rfl⟩
    cases first <;> cases second <;> rfl

theorem order_of_kinds {left right : Value} (apart : left.kind ≠ right.kind) {op : BinaryOp}
    (member : op ∈ orderings) :
    outcome (left.combine op right) = .error (.mismatch (.binary op left.kind right.kind)) := by
  have unordered : left.order op right = mismatch (.binary op left.kind right.kind) := by
    cases left <;> cases right <;> first | rfl | exact absurd rfl apart
  rw [combine_of_ordering member, unordered]
  rfl

/-- Of the operators that an order tells apart, one gives true. -/
theorem trichotomy {gives : BinaryOp → Except Fault Value} {order : Ordering}
    (equal : gives .equal = .ok (.bool (order = .eq)))
    (each : ∀ op ∈ orderings, gives op = .ok (.bool (orderSatisfies op order))) :
    ∃! op, op ∈ [BinaryOp.less, .equal, .greater] ∧ gives op = .ok (.bool true) := by
  have strict : ∀ op ∈ [BinaryOp.less, .equal, .greater],
      gives op = .ok (.bool true) ↔ op = strictFor order := by
    intro op member
    simp only [List.mem_cons, List.not_mem_nil, or_false] at member
    rcases member with rfl | rfl | rfl
    · rw [each .less (by decide)]
      cases order <;> simp [orderSatisfies, strictFor]
    · rw [equal]
      cases order <;> simp [strictFor]
    · rw [each .greater (by decide)]
      cases order <;> simp [orderSatisfies, strictFor]
  have member : strictFor order ∈ [BinaryOp.less, .equal, .greater] := by
    cases order <;> decide
  refine ⟨strictFor order, ⟨member, (strict _ member).mpr rfl⟩, ?_⟩
  rintro op ⟨member, holds⟩
  exact (strict op member).mp holds

/-! ### Coherence -/

/-- The results of the operators on two values, and of the look-up of the first in the second, agree
with each other. -/
structure Coheres (left right : Value) (gives : BinaryOp → Except Fault Value)
    (item : Except Fault Value) : Prop where
  combines : ∀ op, op ≠ .both → op ≠ .either → gives op = outcome (left.combine op right)
  incomparable : left.kind ≠ right.kind → left.kind ≠ .null → right.kind ≠ .null →
    ∀ op ∈ [BinaryOp.equal, .unequal],
      gives op = .error (.mismatch (.binary op left.kind right.kind))
  opposite : left.kind = right.kind ∨ left.kind = .null ∨ right.kind = .null →
    ∃ same, gives .equal = .ok (.bool same) ∧ gives .unequal = .ok (.bool !same)
  listed : ∀ items, right = .list items →
    ∃ occurs, gives .within = .ok (.bool occurs) ∧
      (occurs = true ↔
        ∃ other ∈ items, outcome (left.combine .equal other) = .ok (.bool true))
  keyed : ∀ key entries, left = .text key → right = .map entries →
    (gives .within = .ok (.bool true) ∧ ∃ value, item = .ok value) ∨
      gives .within = .ok (.bool false) ∧ item = .error (.missingKey key)
  ordered : (∃ first second, left = .text first ∧ right = .text second) ∨
      (∃ first second, left = .bool first ∧ right = .bool second) →
    (∃! op, op ∈ [BinaryOp.less, .equal, .greater] ∧ gives op = .ok (.bool true)) ∧
      (gives .atMost = .ok (.bool true) ↔ gives .greater = .ok (.bool false)) ∧
      (gives .atLeast = .ok (.bool true) ↔ gives .less = .ok (.bool false))
  unordered : left.kind ≠ right.kind →
    ∀ op ∈ orderings, gives op = .error (.mismatch (.binary op left.kind right.kind))

theorem Coheres.of_combines {left right : Value} {gives : BinaryOp → Except Fault Value}
    {item : Except Fault Value}
    (combines : ∀ op, op ≠ .both → op ≠ .either → gives op = outcome (left.combine op right))
    (isItem : item = outcome (right.at left)) : Coheres left right gives item := by
  have ordering (op : BinaryOp) (member : op ∈ orderings) :
      gives op = outcome (left.combine op right) :=
    combines op (eager_of_ordering member).1 (eager_of_ordering member).2
  refine ⟨combines, ?_, ?_, ?_, ?_, ?_, ?_⟩
  · intro apart notLeft notRight op member
    have incomparable : ¬ Value.Comparable left right := by
      rintro (same | isNull | isNull)
      exacts [apart same, notLeft isNull, notRight isNull]
    rw [combines op (by rintro rfl; simp at member) (by rintro rfl; simp at member)]
    exact Value.equality_of_incomparable incomparable member
  · intro comparable
    rw [combines .equal nofun nofun, combines .unequal nofun nofun]
    exact ⟨_, Value.equality_of_comparable comparable⟩
  · rintro items rfl
    rw [combines .within nofun nofun]
    refine ⟨_, Value.within_list left items, ?_⟩
    rw [List.any_eq_true]
    simp only [Value.equal_iff_equals, Value.equals_comm left]
  · rintro key entries rfl rfl
    rw [combines .within nofun nofun, isItem, Value.within_map, ← lookup_isSome, Value.at_map,
      Value.select_map]
    cases entries.lookup key with
    | some value => exact .inl ⟨rfl, value, rfl⟩
    | none => exact .inr ⟨rfl, rfl⟩
  · intro ordered
    obtain ⟨order, equal, each⟩ := exists_order ordered
    have ofOrder (op : BinaryOp) (member : op ∈ orderings) :
        gives op = .ok (.bool (orderSatisfies op order)) :=
      (ordering op member).trans (each op member)
    refine ⟨trichotomy ((combines .equal nofun nofun).trans equal) ofOrder, ?_, ?_⟩
    · rw [ofOrder .atMost (by decide), ofOrder .greater (by decide)]
      cases order <;> simp [orderSatisfies]
    · rw [ofOrder .atLeast (by decide), ofOrder .less (by decide)]
      cases order <;> simp [orderSatisfies]
  · intro apart op member
    exact (ordering op member).trans (order_of_kinds apart member)

theorem evaluate_nested (bindings : Bindings) (tree : Tree) :
    ∃ body, evaluate bindings tree = nested body := by
  cases tree with
  | binary op => cases op <;> exact ⟨_, rfl⟩
  | _ => exact ⟨_, rfl⟩

theorem shallow_of_evaluated {bindings : Bindings} {tree : Tree} {depth : Nat} {value : Value}
    (gives : ((evaluate bindings tree).run depth).1 = .ok value) : depth < maxEvaluationDepth := by
  obtain ⟨body, isNested⟩ := evaluate_nested bindings tree
  rw [isNested] at gives
  by_contra deep
  have tooDeep : nested body depth = (.error (.failure .tooDeep), depth) :=
    if_pos (by omega)
  change (nested body depth).1 = _ at gives
  rw [tooDeep] at gives
  cases gives

section

variable {bindings : Bindings} {first second : Tree} {depth : Nat} {left right : Value}

/-- An operation on the values of two operands, a level above them. -/
theorem nested_operands (operation : Value → Value → Metered Value)
    (uncounted : Uncounted (operation left right))
    (firstGives : ((evaluate bindings first).run (depth + 1)).1 = .ok left)
    (secondGives : ((evaluate bindings second).run (depth + 1)).1 = .ok right) :
    (nested (do
      let left ← evaluate bindings first
      let right ← evaluate bindings second
      operation left right) depth).1 = outcome (operation left right) := by
  have shallow := shallow_of_evaluated firstGives
  have firstDone : evaluate bindings first (depth + 1) = (.ok left, depth + 1) :=
    Prod.ext firstGives ((evaluate_refines bindings first).restores (depth + 1))
  have secondDone : evaluate bindings second (depth + 1) = (.ok right, depth + 1) :=
    Prod.ext secondGives ((evaluate_refines bindings second).restores (depth + 1))
  unfold nested
  rw [if_neg (by omega), metered_bind firstDone, metered_bind secondDone, uncounted]

theorem evaluate_binary
    (firstGives : ((evaluate bindings first).run (depth + 1)).1 = .ok left)
    (secondGives : ((evaluate bindings second).run (depth + 1)).1 = .ok right) {op : BinaryOp}
    (notBoth : op ≠ .both) (notEither : op ≠ .either) :
    ((evaluate bindings (.binary op first second)).run depth).1 =
      outcome (left.combine op right) := by
  rw [← nested_operands (Value.combine op) (uncounted_combine op left right) firstGives
    secondGives]
  cases op <;> first | rfl | contradiction

end

/-- Wherever two operands have values, the results of the operators on them cohere. -/
theorem operators_cohere {bindings : Bindings} {first second : Tree} {depth : Nat}
    {left right : Value} (firstGives : ((evaluate bindings first).run (depth + 1)).1 = .ok left)
    (secondGives : ((evaluate bindings second).run (depth + 1)).1 = .ok right) :
    Coheres left right
      (fun op => ((evaluate bindings (.binary op first second)).run depth).1)
      ((evaluate bindings (.index second first)).run depth).1 := by
  refine .of_combines ?_ ?_
  · intro op notBoth notEither
    exact evaluate_binary firstGives secondGives notBoth notEither
  · exact nested_operands Value.at (uncounted_at right left) secondGives firstGives

theorem text_cohere :
    (((evaluate [] (.text "k")).run 199).1 = .ok (.text "k") ∧
      ((evaluate [] (.list [.null, .text "k"])).run 198).1 = .ok (.list [.null, .text "k"])) ∧
    ((evaluate [] (.binary .within (.text "k") (.list [.null, .text "k"]))).run 197).1 =
        .ok (.bool true) ∧
      Coheres (.text "k") (.list [.null, .text "k"])
        (fun op => ((evaluate [] (.binary op (.text "k") (.list [.null, .text "k"]))).run 197).1)
        ((evaluate [] (.index (.list [.null, .text "k"]) (.text "k"))).run 197).1 :=
  ⟨⟨rfl, rfl⟩, rfl, operators_cohere rfl rfl⟩

end StagedRuns.Expr
