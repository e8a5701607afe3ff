import StagedRuns.Expr.Value
import StagedRuns.Proofs.Dictionary

/-!
The entries that the members of a JSON object become: in the order of their keys, and of the members
with one key the last.
-/

namespace StagedRuns

namespace Expr

theorem lookup_ofMembers (members : List (String × Json)) (key : String) :
    (Value.ofMembers members).lookup key = (members.reverse.lookup key).map Value.ofJson := by
  induction members with
  | nil => rfl
  | cons head rest ih =>
      obtain ⟨other, member⟩ := head
      rw [Value.ofMembers, List.reverse_cons, List.lookup_append, Option.map_or, ← ih,
        lookup_cons_eq, ← lookup_isSome]
      by_cases same : key = other
      · subst same
        rw [if_pos rfl]
        cases later : (Value.ofMembers rest).lookup key with
        | some value => simp [later]
        | none => simp [lookup_insertEntry]
      · rw [if_neg same]
        split
        · simp
        · rw [lookup_insertEntry, if_neg same]
          simp

theorem ofMembers_increases (members : List (String × Json)) :
    KeysIncrease (Value.ofMembers members) := by
  induction members with
  | nil => exact .nil
  | cons head rest ih =>
      rw [Value.ofMembers]
      split
      · exact ih
      · exact insertEntry_increases _ _ _ ih

/-- With the keys of an object given in their order, each has the value of its last member. -/
theorem ofMembers_eq {members : List (String × Json)} (keys names : List String)
    (increase : keys.Pairwise (· < ·)) (order : keys.Perm names)
    (named : members.map (·.1) = names) :
    Value.ofMembers members =
      keys.map fun key => (key, Value.ofJson ((members.reverse.lookup key).getD .null)) := by
  let listed : List (String × Value) :=
    keys.map fun key => (key, Value.ofJson ((members.reverse.lookup key).getD .null))
  have increases : KeysIncrease listed := List.pairwise_map.mpr increase
  have same : (⟨_, ofMembers_increases members⟩ : Dictionary Value) = ⟨listed, increases⟩ := by
    refine Dictionary.eq_of_get? fun key => ?_
    show (Value.ofMembers members).lookup key = listed.lookup key
    have present : key ∈ keys ↔ (members.reverse.lookup key).isSome := by
      rw [order.mem_iff, ← named, lookup_isSome, List.any_reverse, List.any_eq_true, List.mem_map]
      simp
    rw [lookup_ofMembers, lookup_map_key]
    simp only [present]
    cases members.reverse.lookup key <;> rfl
  exact congrArg Dictionary.entries same

end Expr

end StagedRuns
