import Mathlib.Data.List.Perm.Basic

/-!
Computations that may fail, opened at their successes and at their failures.
-/

namespace StagedRuns.Result

variable {ε α β : Type}

theorem ok_bind {value : α} {next : α → Except ε β} : Except.ok value >>= next = next value :=
  rfl

theorem bind_eq_ok {first : Except ε α} {next : α → Except ε β} {result : β} :
    first >>= next = .ok result ↔ ∃ value, first = .ok value ∧ next value = .ok result := by
  cases first with
  | error problem =>
      constructor
      · intro failed
        cases failed
      · rintro ⟨value, impossible, _⟩
        cases impossible
  | ok value =>
      constructor
      · intro succeeded
        exact ⟨value, rfl, succeeded⟩
      · rintro ⟨other, same, succeeded⟩
        cases same
        exact succeeded

theorem pure_eq_ok {value result : α} :
    (pure value : Except ε α) = .ok result ↔ value = result :=
  ⟨Except.ok.inj, congrArg Except.ok⟩

theorem ok_of_toOption {result : Except ε α} {value : α} (found : result.toOption = some value) :
    result = .ok value := by
  cases result with
  | error problem => cases found
  | ok other =>
      cases found
      rfl

theorem mapM_eq_ok {each : α → Except ε β} {items : List α} {results : List β} :
    items.mapM each = .ok results ↔
      List.Forall₂ (fun item result => each item = .ok result) items results := by
  induction items generalizing results with
  | nil =>
      rw [List.mapM_nil, pure_eq_ok, List.forall₂_nil_left_iff]
      exact eq_comm
  | cons head tail ih =>
      rw [List.mapM_cons, bind_eq_ok]
      constructor
      · rintro ⟨first, headDone, succeeded⟩
        obtain ⟨rest, tailDone, same⟩ := bind_eq_ok.mp succeeded
        rw [← pure_eq_ok.mp same]
        exact .cons headDone (ih.mp tailDone)
      · intro done
        cases done with
        | cons headDone tailDone =>
            exact ⟨_, headDone, bind_eq_ok.mpr ⟨_, ih.mpr tailDone, rfl⟩⟩

theorem bind_some {first : Option α} {next : α → Option β} {value : α} {result : β}
    (done : first = some value) (rest : next value = some result) :
    first >>= next = some result := by
  rw [done]
  exact rest

theorem mapM_eq_some {each : α → Option β} {items : List α} {results : List β} :
    items.mapM each = some results ↔
      List.Forall₂ (fun item result => each item = some result) items results := by
  induction items generalizing results with
  | nil =>
      rw [List.mapM_nil, Option.pure_def, Option.some_inj, List.forall₂_nil_left_iff]
      exact eq_comm
  | cons head tail ih =>
      rw [List.mapM_cons]
      constructor
      · intro succeeded
        obtain ⟨first, headDone, succeeded⟩ := Option.bind_eq_some_iff.mp succeeded
        obtain ⟨rest, tailDone, same⟩ := Option.bind_eq_some_iff.mp succeeded
        cases same
        exact .cons headDone (ih.mp tailDone)
      · intro done
        cases done with
        | cons headDone tailDone =>
            exact Option.bind_eq_some_iff.mpr ⟨_, headDone,
              Option.bind_eq_some_iff.mpr ⟨_, ih.mpr tailDone, rfl⟩⟩

theorem exists_of_forall₂ {relation : α → β → Prop} {left : List α} {right : List β}
    (pairs : List.Forall₂ relation left right) {item : α} (member : item ∈ left) :
    ∃ other ∈ right, relation item other := by
  induction pairs with
  | nil => cases member
  | cons headRelated _ ih =>
      rcases List.mem_cons.mp member with rfl | inTail
      · exact ⟨_, List.mem_cons_self, headRelated⟩
      · obtain ⟨other, present, related⟩ := ih inTail
        exact ⟨other, List.mem_cons_of_mem _ present, related⟩

theorem exists_of_mem_mapM {each : α → Except ε β} {items : List α} {results : List β}
    (done : items.mapM each = .ok results) {result : β} (member : result ∈ results) :
    ∃ item ∈ items, each item = .ok result :=
  exists_of_forall₂ (mapM_eq_ok.mp done).flip member

theorem pairs_of_mapM {each : α → Except ε β} {items : List α} {results : List β}
    (done : items.mapM each = .ok results) :
    List.Forall₂ (fun item result => item ∈ items ∧ each item = .ok result) items results :=
  (List.forall₂_and_left _ _).mpr ⟨fun _ present => present, mapM_eq_ok.mp done⟩

theorem flatMap_filter {items : List α} {keeps : α → Bool} {parts : α → List β} :
    (items.filter keeps).flatMap parts =
      items.flatMap fun item => if keeps item then parts item else [] := by
  induction items with
  | nil => rfl
  | cons head tail ih =>
      rw [List.filter_cons, List.flatMap_cons, ← ih]
      cases keeps head <;> rfl

theorem flatMap_of_mapM {γ : Type} {each : α → Except ε β} {ofResult : β → List γ}
    {ofItem : α → List γ} {items : List α} {results : List β}
    (agrees : ∀ item ∈ items, ∀ result, each item = .ok result → ofResult result = ofItem item)
    (done : items.mapM each = .ok results) : results.flatMap ofResult = items.flatMap ofItem := by
  have pairs := mapM_eq_ok.mp done
  clear done
  induction pairs with
  | nil => rfl
  | cons headDone tailPairs ih =>
      obtain ⟨head, tail⟩ := List.forall_mem_cons.mp agrees
      rw [List.flatMap_cons, List.flatMap_cons, head _ headDone, ih tail]

theorem results_of_mapM {each : α → Except ε β} {instead : α → β} {items : List α}
    {results : List β} (done : items.mapM each = .ok results) :
    results = items.map fun item => (each item).toOption.getD (instead item) := by
  have pairs := mapM_eq_ok.mp done
  clear done
  induction pairs with
  | nil => rfl
  | cons headDone tailPairs ih =>
      rw [List.map_cons, headDone, ← ih]
      rfl

/-- Members of a list that give nothing can be left out of a pass over it, and the others changed
into what gives the same. -/
theorem mapM_filter_map {γ : Type} {each : α → Except ε (List β)}
    {other : γ → Except ε (List β)} {keeps : α → Bool} {change : α → γ} {items : List α}
    {groups : List (List β)}
    (agrees : ∀ item ∈ items, ∀ group, each item = .ok group →
      if keeps item then other (change item) = .ok group else group = [])
    (done : items.mapM each = .ok groups) :
    ∃ kept, ((items.filter keeps).map change).mapM other = .ok kept ∧
      kept.flatten = groups.flatten := by
  have pairs := mapM_eq_ok.mp done
  clear done
  induction pairs with
  | nil => exact ⟨[], rfl, rfl⟩
  | @cons head group tail groups headDone _ ih =>
      have inTail := fun item present => agrees item (List.mem_cons_of_mem head present)
      obtain ⟨kept, tailDone, same⟩ := ih inTail
      have agreed := agrees head List.mem_cons_self group headDone
      rw [List.filter_cons, List.flatten_cons]
      split at agreed
      · rename_i keeping
        rw [if_pos keeping, List.map_cons, List.mapM_cons]
        refine ⟨group :: kept, ?_, ?_⟩
        · exact bind_eq_ok.mpr ⟨group, agreed, bind_eq_ok.mpr ⟨kept, tailDone, rfl⟩⟩
        · rw [List.flatten_cons, same]
      · rename_i dropping
        rw [if_neg dropping, agreed, List.nil_append]
        exact ⟨kept, tailDone, same⟩

theorem mapM_filter {each : α → Except ε β} {keeps : α → Bool} {kept : β → Bool} {items : List α}
    {results : List β}
    (agrees : ∀ item result, each item = .ok result → keeps item = kept result)
    (done : items.mapM each = .ok results) :
    (items.filter keeps).mapM each = .ok (results.filter kept) := by
  rw [mapM_eq_ok] at done ⊢
  induction done with
  | nil => exact .nil
  | @cons item result _ _ headDone _ ih =>
      rw [List.filter_cons, List.filter_cons, agrees item result headDone]
      split
      · exact .cons headDone ih
      · exact ih

theorem mapM_perm {each : α → Except ε β} {items others : List α} {results : List β}
    (same : items.Perm others) (done : items.mapM each = .ok results) :
    ∃ arranged, others.mapM each = .ok arranged ∧ results.Perm arranged := by
  obtain ⟨arranged, pairs, permuted⟩ := List.perm_comp_forall₂ same.symm (mapM_eq_ok.mp done)
  exact ⟨arranged, mapM_eq_ok.mpr pairs, permuted.symm⟩

def fault? : Except ε α → Option ε
  | .error problem => some problem
  | .ok _ => none

theorem fault?_eq_some {result : Except ε α} {problem : ε} :
    fault? result = some problem ↔ result = .error problem := by
  cases result <;> constructor <;> intro same <;> cases same <;> rfl

theorem fault?_isSome {result : Except ε α} :
    (fault? result).isSome ↔ ∃ problem, result = .error problem := by
  rw [Option.isSome_iff_exists]
  exact exists_congr fun problem => fault?_eq_some

theorem fault?_bind {first : Except ε α} {next : α → Except ε β} {later : Option ε}
    (fails : ∀ value, first = .ok value → fault? (next value) = later) :
    fault? (first >>= next) = (fault? first).or later := by
  cases first with
  | error problem => rfl
  | ok value => exact fails value rfl

theorem fault?_bind_pure {first : Except ε α} {each : α → β} :
    fault? (first >>= fun value => pure (each value)) = fault? first := by
  cases first <;> rfl

/-- A pass over a list fails as its first member that does. -/
theorem fault?_mapM {each : α → Except ε β} {items : List α} :
    fault? (items.mapM each) = items.findSome? fun item => fault? (each item) := by
  induction items with
  | nil => rfl
  | cons head tail ih =>
      rw [List.mapM_cons, List.findSome?_cons]
      cases each head with
      | error problem => rfl
      | ok value =>
          rw [ok_bind, fault?_bind_pure, ih]
          rfl

theorem mapM_eq_error {each : α → Except ε β} {items : List α} {problem : ε} :
    items.mapM each = .error problem ↔
      ∃ before item after, items = before ++ item :: after ∧
        (∀ earlier ∈ before, ∃ value, each earlier = .ok value) ∧ each item = .error problem := by
  have succeeds : ∀ item, fault? (each item) = none ↔ ∃ value, each item = .ok value := by
    intro item
    cases each item <;> simp [fault?]
  rw [← fault?_eq_some, fault?_mapM, List.findSome?_eq_some_iff]
  constructor
  · rintro ⟨before, item, after, split, fails, earlier⟩
    exact ⟨before, item, after, split, fun other present => (succeeds other).mp (earlier other present),
      fault?_eq_some.mp fails⟩
  · rintro ⟨before, item, after, split, earlier, fails⟩
    exact ⟨before, item, after, split, fault?_eq_some.mpr fails,
      fun other present => (succeeds other).mpr (earlier other present)⟩

theorem findSome?_const {items : List α} (occupied : items ≠ []) (found : Option β) :
    items.findSome? (fun _ => found) = found := by
  cases found with
  | none => exact List.findSome?_eq_none_iff.mpr fun _ _ => rfl
  | some value =>
      obtain ⟨head, tail, rfl⟩ := List.exists_cons_of_ne_nil occupied
      rfl

theorem findSome?_flatMap {γ : Type} {parts : α → List β} {found : β → Option γ}
    {items : List α} :
    (items.flatMap parts).findSome? found =
      items.findSome? fun item => (parts item).findSome? found := by
  induction items with
  | nil => rfl
  | cons head tail ih =>
      rw [List.flatMap_cons, List.findSome?_append, List.findSome?_cons, ih]
      cases (parts head).findSome? found <;> rfl

end StagedRuns.Result
