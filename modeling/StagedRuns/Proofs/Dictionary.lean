import Mathlib.Algebra.GroupWithZero.Nat
import StagedRuns.Dictionary

/-!
Look-ups in dictionaries and in the lists that they are made from.
-/

namespace StagedRuns

variable {α : Type}

theorem lookup_eq_some_iff {entries : List (String × α)}
    (distinct : (entries.map (·.1)).Nodup) {key : String} {value : α} :
    entries.lookup key = some value ↔ (key, value) ∈ entries := by
  induction entries with
  | nil => simp
  | cons head tail ih =>
      rw [List.map_cons, List.nodup_cons] at distinct
      rw [lookup_cons_eq, List.mem_cons, ← ih distinct.2]
      split
      · rename_i atHead
        constructor
        · intro same
          exact .inl (Prod.ext atHead (Option.some.inj same).symm)
        · rintro (same | inTail)
          · rw [← same]
          · have present := (ih distinct.2).mp inTail
            exact absurd (atHead ▸ List.mem_map_of_mem present) distinct.1
      · rename_i different
        constructor
        · exact .inr
        · rintro (same | inTail)
          · exact absurd (congrArg Prod.fst same) different
          · exact inTail

theorem lookup_of_perm {entries others : List (String × α)}
    (distinct : (entries.map (·.1)).Nodup) (order : entries.Perm others) (key : String) :
    others.lookup key = entries.lookup key := by
  have othersDistinct := (order.map (·.1)).nodup_iff.mp distinct
  refine Option.ext fun value => ?_
  rw [lookup_eq_some_iff distinct, lookup_eq_some_iff othersDistinct, order.mem_iff]

theorem lookup_isSome (entries : List (String × α)) (key : String) :
    (entries.lookup key).isSome = entries.any (·.1 = key) := by
  induction entries with
  | nil => rfl
  | cons head tail ih =>
      rw [lookup_cons_eq, List.any_cons, ← ih]
      by_cases same : key = head.1
      · simp [same]
      · simp [same, Ne.symm same]

theorem lookup_map_snd {β : Type} (change : α → β) (entries : List (String × α)) (key : String) :
    (entries.map fun entry => (entry.1, change entry.2)).lookup key =
      (entries.lookup key).map change := by
  induction entries with
  | nil => rfl
  | cons head tail ih =>
      rw [List.map_cons, lookup_cons_eq, lookup_cons_eq, ih]
      by_cases same : key = head.1
      · rw [if_pos same, if_pos same]
        rfl
      · rw [if_neg same, if_neg same]

theorem lookup_map_key (value : String → α) (keys : List String) (key : String) :
    (keys.map fun key => (key, value key)).lookup key =
      if key ∈ keys then some (value key) else none := by
  induction keys with
  | nil => rfl
  | cons head tail ih =>
      rw [List.map_cons, lookup_cons_eq, ih]
      by_cases same : key = head
      · simp [same]
      · simp [same]

theorem lookup_eq_none_of_before {key : String} {entries : List (String × α)}
    (before : ∀ entry ∈ entries, key < entry.1) : entries.lookup key = none := by
  refine List.lookup_eq_none_iff.mpr ?_
  intro entry member
  simpa using String.ne_of_lt (before entry member)

theorem sum_insertEntry (key : String) (value : Nat) {entries : List (String × Nat)}
    (increases : KeysIncrease entries) :
    ((insertEntry key value entries).map Prod.snd).sum + (entries.lookup key).getD 0 =
      (entries.map Prod.snd).sum + value := by
  induction entries with
  | nil => simp [insertEntry]
  | cons head tail ih =>
      have headTail := List.pairwise_cons.mp increases
      rw [insertEntry]
      by_cases before : key < head.1
      · have absent : (head :: tail).lookup key = none := by
          refine lookup_eq_none_of_before ?_
          intro entry member
          rcases List.mem_cons.mp member with rfl | inTail
          · exact before
          · exact String.lt_trans before (headTail.1 entry inTail)
        rw [if_pos before, absent]
        simp only [List.map_cons, List.sum_cons, Option.getD_none]
        omega
      · rw [if_neg before, lookup_cons_eq]
        by_cases same : key = head.1
        · rw [if_pos same, if_pos same]
          simp only [List.map_cons, List.sum_cons, Option.getD_some]
          omega
        · have rest := ih headTail.2
          rw [if_neg same, if_neg same]
          simp only [List.map_cons, List.sum_cons]
          omega

theorem KeysIncrease.nodup {entries : List (String × α)} (increases : KeysIncrease entries) :
    (entries.map (·.1)).Nodup := by
  rw [List.Nodup, List.pairwise_map]
  exact increases.imp String.ne_of_lt

namespace Dictionary

theorem mem_toList {dictionary : Dictionary α} {key : String} {value : α} :
    (key, value) ∈ dictionary.toList ↔ dictionary.get? key = some value :=
  (lookup_eq_some_iff dictionary.increases.nodup).symm

theorem eq_of_get? {left right : Dictionary α} (same : ∀ key, left.get? key = right.get? key) :
    left = right := by
  have distinct (dictionary : Dictionary α) : dictionary.entries.Nodup :=
    dictionary.increases.imp fun before same => String.ne_of_lt before (congrArg Prod.fst same)
  have order : left.entries.Perm right.entries := by
    refine (List.perm_ext_iff_of_nodup (distinct left) (distinct right)).mpr ?_
    rintro ⟨key, value⟩
    exact mem_toList.trans ((same key ▸ mem_toList.symm))
  refine ext_entries (order.eq_of_pairwise ?_ left.increases right.increases)
  intro entry other _ _ before after
  exact absurd (String.lt_trans before after) (String.lt_irrefl _)

theorem get?_foldl_insert {bindings : List (String × α)} {dictionary : Dictionary α} {key : String} :
    (bindings.foldl (fun dictionary binding => dictionary.insert binding.1 binding.2)
      dictionary).get? key = (bindings.reverse.lookup key <|> dictionary.get? key) := by
  induction bindings generalizing dictionary with
  | nil => rfl
  | cons head tail ih =>
      rw [List.foldl_cons, ih, get?_insert, List.reverse_cons, List.lookup_append, lookup_cons_eq]
      by_cases same : key = head.1
      · simp [same]
      · simp [same]

theorem get?_ofList {bindings : List (String × α)} {key : String} :
    (ofList bindings).get? key = bindings.reverse.lookup key := by
  unfold ofList
  rw [get?_foldl_insert]
  simp [empty, get?]

theorem mem_of_get?_ofList {bindings : List (String × α)} {key : String} {value : α}
    (found : (ofList bindings).get? key = some value) : (key, value) ∈ bindings := by
  rw [get?_ofList] at found
  obtain ⟨before, after, parts, _⟩ := List.lookup_eq_some_iff.mp found
  exact List.mem_reverse.mp (parts ▸ List.mem_append_right before List.mem_cons_self)

theorem exists_get?_ofList {bindings : List (String × α)} {binding : String × α}
    (bound : binding ∈ bindings) : ∃ value, (ofList bindings).get? binding.1 = some value := by
  rw [get?_ofList, ← Option.isSome_iff_exists, Option.isSome_iff_ne_none]
  intro none
  have different := List.lookup_eq_none_iff.mp none binding (List.mem_reverse.mpr bound)
  simp at different

theorem ofList_of_perm {dictionary : Dictionary α} {bindings : List (String × α)}
    (order : dictionary.toList.Perm bindings) : ofList bindings = dictionary := by
  refine eq_of_get? fun key => ?_
  rw [get?_ofList]
  exact lookup_of_perm dictionary.increases.nodup (order.trans (List.reverse_perm _).symm) key

end Dictionary

end StagedRuns
