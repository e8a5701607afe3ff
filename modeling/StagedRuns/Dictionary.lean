/-!
Dictionaries with texts as keys. The entries are kept in increasing order of their keys and no
key occurs twice, so two dictionaries with the same look-ups are equal.
-/

namespace StagedRuns

/-- Adds an entry to a list in key order, in place of an entry with the same key. -/
def insertEntry {α : Type} (key : String) (value : α) :
    List (String × α) → List (String × α)
  | [] => [(key, value)]
  | entry :: rest =>
      if key < entry.1 then (key, value) :: entry :: rest
      else if key = entry.1 then (key, value) :: rest
      else entry :: insertEntry key value rest

theorem insertEntry_keys {α : Type} (key : String) (value : α) (entries : List (String × α))
    {entry : String × α} (member : entry ∈ insertEntry key value entries) :
    entry.1 = key ∨ entry ∈ entries := by
  induction entries with
  | nil =>
      rw [insertEntry, List.mem_singleton] at member
      exact Or.inl (congrArg Prod.fst member)
  | cons head tail ih =>
      rw [insertEntry] at member
      split at member
      · rcases List.mem_cons.mp member with atHead | inRest
        · exact Or.inl (congrArg Prod.fst atHead)
        · exact Or.inr inRest
      · split at member
        · rcases List.mem_cons.mp member with atHead | inTail
          · exact Or.inl (congrArg Prod.fst atHead)
          · exact Or.inr (List.mem_cons_of_mem _ inTail)
        · rcases List.mem_cons.mp member with atHead | inRest
          · exact Or.inr (atHead ▸ List.mem_cons_self)
          · exact (ih inRest).imp_right (List.mem_cons_of_mem _)

def KeysIncrease {α : Type} (entries : List (String × α)) : Prop :=
  entries.Pairwise fun earlier later => earlier.1 < later.1

theorem insertEntry_increases {α : Type} (key : String) (value : α)
    (entries : List (String × α)) (increases : KeysIncrease entries) :
    KeysIncrease (insertEntry key value entries) := by
  induction entries with
  | nil => exact List.pairwise_singleton _ _
  | cons head tail ih =>
      have headTail := List.pairwise_cons.mp increases
      rw [insertEntry]
      split
      · rename_i before
        refine List.pairwise_cons.mpr ⟨?_, increases⟩
        intro entry member
        rcases List.mem_cons.mp member with atHead | inTail
        · exact atHead ▸ before
        · exact String.lt_trans before (headTail.1 entry inTail)
      · rename_i notBefore
        split
        · rename_i same
          refine List.pairwise_cons.mpr ⟨?_, headTail.2⟩
          intro entry member
          exact same ▸ headTail.1 entry member
        · rename_i different
          refine List.pairwise_cons.mpr ⟨?_, ih headTail.2⟩
          intro entry member
          rcases insertEntry_keys key value tail member with atKey | inTail
          · rw [atKey]
            exact Decidable.byContradiction fun notAfter =>
              different (String.le_antisymm (String.not_lt.mp notAfter)
                (String.not_lt.mp notBefore))
          · exact headTail.1 entry inTail

theorem lookup_cons_eq {α : Type} (head : String × α) (tail : List (String × α)) (key : String) :
    (head :: tail).lookup key = if key = head.1 then some head.2 else tail.lookup key := by
  rw [List.lookup_cons]
  by_cases same : key = head.1
  · rw [if_pos same, same, beq_self_eq_true]
  · rw [if_neg same, beq_false_of_ne same]

theorem lookup_insertEntry {α : Type} (key other : String) (value : α)
    (entries : List (String × α)) :
    (insertEntry key value entries).lookup other =
      if other = key then some value else entries.lookup other := by
  induction entries with
  | nil => exact lookup_cons_eq (key, value) [] other
  | cons head tail ih =>
      rw [insertEntry]
      split
      · rw [lookup_cons_eq]
      · split
        · rename_i atHead
          rw [lookup_cons_eq, lookup_cons_eq, atHead]
          split <;> rfl
        · rename_i different
          rw [lookup_cons_eq, lookup_cons_eq, ih]
          by_cases same : other = key
          · rw [if_pos same, if_pos same, if_neg (same ▸ different)]
          · rw [if_neg same, if_neg same]

structure Dictionary (α : Type) where
  entries : List (String × α)
  increases : KeysIncrease entries

namespace Dictionary

variable {α : Type}

theorem ext_entries {left right : Dictionary α} (same : left.entries = right.entries) :
    left = right := by
  cases left; cases right; cases same; rfl

instance [DecidableEq α] : DecidableEq (Dictionary α) := fun left right =>
  if same : left.entries = right.entries then isTrue (ext_entries same)
  else isFalse fun equal => same (congrArg entries equal)

def empty : Dictionary α := ⟨[], List.Pairwise.nil⟩

instance : Inhabited (Dictionary α) := ⟨empty⟩

def insert (dictionary : Dictionary α) (key : String) (value : α) : Dictionary α :=
  ⟨insertEntry key value dictionary.entries,
    insertEntry_increases key value dictionary.entries dictionary.increases⟩

def get? (dictionary : Dictionary α) (key : String) : Option α :=
  dictionary.entries.lookup key

theorem get?_insert (dictionary : Dictionary α) (key other : String) (value : α) :
    (dictionary.insert key value).get? other =
      if other = key then some value else dictionary.get? other :=
  lookup_insertEntry key other value dictionary.entries

/-- The dictionary of a list of bindings, of which the last one of a key counts. -/
def ofList (bindings : List (String × α)) : Dictionary α :=
  bindings.foldl (fun dictionary binding => dictionary.insert binding.1 binding.2) empty

def toList (dictionary : Dictionary α) : List (String × α) :=
  dictionary.entries

def isEmpty (dictionary : Dictionary α) : Bool :=
  dictionary.entries.isEmpty

end Dictionary

end StagedRuns
