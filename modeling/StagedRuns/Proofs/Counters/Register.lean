import StagedRuns.Counters.Register
import StagedRuns.Proofs.Counters.Published

/-!
The list that the counters are kept in says what the dictionaries of the metrics say, and is
published as the same text, until a number does not fit into 64 bits.
-/

namespace StagedRuns

namespace Register

open Counters (Occurrence)

/-! ### The order of the list -/

def entriesOf (metric : Metric) (counts : List (String × Nat)) : List Entry :=
  counts.map fun entry => ⟨metric.name, entry.1, UInt64.ofNat entry.2⟩

def entriesFor (counters : Counters) (metrics : List Metric) : List Entry :=
  metrics.flatMap fun metric => entriesOf metric (counters.counts metric).toList

def ofCounters (counters : Counters) : Register :=
  ⟨entriesFor counters Metric.all⟩

theorem bump_behind {name label : String} {front back : List Entry}
    (before : ∀ entry ∈ front, entry.name < name) :
    bump name label (front ++ back) = front ++ bump name label back := by
  induction front with
  | nil => rfl
  | cons entry rest ih =>
      obtain ⟨first, others⟩ := List.forall_mem_cons.mp before
      have notBefore : ¬name < entry.name := String.lt_asymm first
      have notSame : name ≠ entry.name := fun same => String.lt_irrefl _ (same ▸ first)
      rw [List.cons_append, bump, if_neg (by simp [notBefore, notSame]), if_neg (by simp [notSame]),
        ih others]
      rfl

theorem bump_entriesOf {metric : Metric} {label : String} {counts : List (String × Nat)}
    {back : List Entry} (increases : KeysIncrease counts)
    (behind : ∀ entry ∈ back, metric.name < entry.name) :
    bump metric.name label (entriesOf metric counts ++ back) =
      entriesOf metric (insertEntry label ((counts.lookup label).getD 0 + 1) counts) ++ back := by
  induction counts with
  | nil =>
      cases back with
      | nil => rfl
      | cons entry rest =>
          have first := behind entry List.mem_cons_self
          exact if_pos (Or.inl first)
  | cons entry rest ih =>
      have irrefl : ¬metric.name < metric.name := String.lt_irrefl _
      rw [entriesOf, List.map_cons, List.cons_append, bump, insertEntry]
      simp only [irrefl, true_and, false_or]
      by_cases before : label < entry.1
      · have none : (entry :: rest).lookup label = none := by
          refine lookup_eq_none_of_before fun other member => ?_
          rcases List.mem_cons.mp member with rfl | inRest
          · exact before
          · exact String.lt_trans before ((List.pairwise_cons.mp increases).1 other inRest)
        rw [if_pos before, if_pos before, none]
        rfl
      · rw [if_neg before, if_neg before, lookup_cons_eq]
        by_cases same : label = entry.1
        · rw [if_pos same, if_pos same, if_pos same, Option.getD_some, entriesOf, List.map_cons,
            UInt64.ofNat_add, same]
          rfl
        · rw [if_neg same, if_neg same, if_neg same, ← entriesOf, ih (List.pairwise_cons.mp increases).2]
          rfl

/-! ### Counting -/

theorem names_increase : Metric.all.Pairwise (·.name < ·.name) := by
  decide

theorem name_of_mem_entriesFor {counters : Counters} {metrics : List Metric} {entry : Entry}
    (member : entry ∈ entriesFor counters metrics) :
    ∃ metric ∈ metrics, entry.name = metric.name := by
  obtain ⟨metric, listed, inMetric⟩ := List.mem_flatMap.mp member
  obtain ⟨_, _, rfl⟩ := List.mem_map.mp inMetric
  exact ⟨metric, listed, rfl⟩

theorem entriesFor_increment {metric : Metric} {metrics : List Metric} (others : metric ∉ metrics)
    (counters : Counters) (label : String) :
    entriesFor (counters.increment metric label) metrics = entriesFor counters metrics := by
  refine List.flatMap_congr fun other listed => ?_
  have different : other ≠ metric := fun same => others (same ▸ listed)
  rw [Counters.increment]
  dsimp only
  rw [if_neg different]

theorem ofCounters_increment (counters : Counters) (metric : Metric) (label : String) :
    ofCounters (counters.increment metric label) =
      (ofCounters counters).increment metric.name label := by
  obtain ⟨front, back, all⟩ := List.append_of_mem (Counters.mem_all metric)
  have increases := names_increase
  rw [all, List.pairwise_append, List.pairwise_cons] at increases
  obtain ⟨_, ⟨behind, _⟩, before⟩ := increases
  have inFront : metric ∉ front := fun member =>
    String.lt_irrefl _ (before metric member metric List.mem_cons_self)
  have inBack : metric ∉ back := fun member => String.lt_irrefl _ (behind metric member)
  have smaller : ∀ entry ∈ entriesFor counters front, entry.name < metric.name := by
    intro entry member
    obtain ⟨other, listed, same⟩ := name_of_mem_entriesFor member
    exact same ▸ before other listed metric List.mem_cons_self
  have greater : ∀ entry ∈ entriesFor counters back, metric.name < entry.name := by
    intro entry member
    obtain ⟨other, listed, same⟩ := name_of_mem_entriesFor member
    exact same ▸ behind other listed
  have parts (counters : Counters) : entriesFor counters Metric.all =
      entriesFor counters front ++
        (entriesOf metric (counters.counts metric).toList ++ entriesFor counters back) := by
    rw [all, entriesFor, List.flatMap_append, List.flatMap_cons]
    rfl
  have bumped : bump metric.name label
      (entriesOf metric (counters.counts metric).toList ++ entriesFor counters back) = _ :=
    bump_entriesOf (counters.counts metric).increases greater
  unfold ofCounters increment
  rw [parts, parts, bump_behind smaller, bumped, entriesFor_increment inFront,
    entriesFor_increment inBack, Counters.increment]
  dsimp only
  rw [if_pos rfl]
  rfl

def count (register : Register) : Occurrence → Register
  | .hook kind => register.countHook kind
  | .invalidHook => register.countInvalidHook
  | .call operation => register.countCall operation
  | .failedCall operation => register.countFailedCall operation

def after (occurrences : List Occurrence) : Register :=
  occurrences.foldl count empty

theorem count_eq (register : Register) (occurrence : Occurrence) :
    register.count occurrence = register.increment occurrence.metric.name occurrence.label := by
  cases occurrence <;> rfl

theorem foldl_count (occurrences : List Occurrence) (counters : Counters) :
    occurrences.foldl count (ofCounters counters) =
      ofCounters (occurrences.foldl Counters.count counters) := by
  induction occurrences generalizing counters with
  | nil => rfl
  | cons occurrence rest ih =>
      rw [List.foldl_cons, List.foldl_cons, count_eq, ← ofCounters_increment, ← Counters.count_eq, ih]

theorem after_eq (occurrences : List Occurrence) :
    after occurrences = ofCounters (Counters.after occurrences) :=
  foldl_count occurrences .zero

/-! ### Reading -/

theorem find?_entriesOf (metric other : Metric) (label : String) (counts : List (String × Nat)) :
    (entriesOf other counts).find?
        (fun entry => entry.name = metric.name && entry.label = label) =
      if other = metric then
        (counts.lookup label).map fun count => ⟨metric.name, label, UInt64.ofNat count⟩
      else none := by
  induction counts with
  | nil => simp [entriesOf]
  | cons entry rest ih =>
      rw [entriesOf, List.map_cons, List.find?_cons, lookup_cons_eq, ← entriesOf, ih]
      by_cases same : other = metric
      · by_cases here : label = entry.1
        · simp [same, here]
        · simp [same, here, Ne.symm here]
      · have different : other.name ≠ metric.name := mt Counters.name_injective same
        simp [same, different]

theorem findSome?_only {α β : Type} [DecidableEq α] {items : List α} {item : α}
    (member : item ∈ items) (result : α → Option β) :
    items.findSome? (fun other => if other = item then result other else none) = result item := by
  induction items with
  | nil => cases member
  | cons first rest ih =>
      rw [List.findSome?_cons]
      by_cases same : first = item
      · subst same
        rw [if_pos rfl]
        cases none : result first with
        | some value => rfl
        | none =>
            refine List.findSome?_eq_none_iff.mpr fun other _ => ?_
            split
            · rename_i again
              exact again ▸ none
            · rfl
      · rw [if_neg same]
        exact ih ((List.mem_cons.mp member).resolve_left (Ne.symm same))

theorem get_ofCounters (counters : Counters) (metric : Metric) (label : String) :
    (ofCounters counters).get metric.name label = UInt64.ofNat (counters.get metric label) := by
  have found : (entriesFor counters Metric.all).find?
      (fun entry => entry.name = metric.name && entry.label = label) =
        ((counters.counts metric).get? label).map
          fun count => ⟨metric.name, label, UInt64.ofNat count⟩ := by
    simp only [entriesFor, List.find?_flatMap, find?_entriesOf]
    exact findSome?_only (Counters.mem_all metric) fun other =>
      ((counters.counts other).get? label).map fun count =>
        Entry.mk metric.name label (UInt64.ofNat count)
  unfold get ofCounters Counters.get
  dsimp only
  rw [found]
  cases (counters.counts metric).get? label <;> rfl

/-! ### Writing -/

theorem labelKey?_name (metric : Metric) : labelKey? metric.name = metric.labelName? := by
  cases metric <;> rfl

theorem line_eq {metric : Metric} {label : String} {count : Nat} (bounded : count < 2 ^ 64) :
    line ⟨metric.name, label, UInt64.ofNat count⟩ = Counters.sample metric label count := by
  have shown : toString (UInt64.ofNat count) = toString count :=
    congrArg Nat.repr (UInt64.toNat_ofNat_of_lt' bounded)
  unfold line Counters.sample
  dsimp only
  rw [labelKey?_name, shown]
  cases metric.labelName? with
  | none => simp only [String.append_empty]
  | some name => simp only [String.append_assoc]; rfl

theorem renderFrom_same {metric : Metric} {counts : List (String × Nat)}
    (bounded : ∀ entry ∈ counts, entry.2 < 2 ^ 64) (output : String) (back : List Entry) :
    renderFrom output (some metric.name) (entriesOf metric counts ++ back) =
      renderFrom (output ++ String.join (counts.map fun entry =>
        Counters.sample metric entry.1 entry.2)) (some metric.name) back := by
  induction counts generalizing output with
  | nil => rw [List.map_nil, String.join_nil, String.append_empty]; rfl
  | cons entry rest ih =>
      obtain ⟨first, others⟩ := List.forall_mem_cons.mp bounded
      rw [entriesOf, List.map_cons, List.cons_append, renderFrom]
      dsimp only
      rw [if_pos rfl, line_eq first, ← entriesOf, ih others, List.map_cons, String.join_cons,
        String.append_assoc]

theorem renderFrom_metric {metric : Metric} {counts : Dictionary Nat} {current : Option String}
    (other : current ≠ some metric.name) (bounded : ∀ entry ∈ counts.toList, entry.2 < 2 ^ 64)
    (output : String) (back : List Entry) :
    renderFrom output current (entriesOf metric counts.toList ++ back) =
      renderFrom (output ++ String.join (Counters.lines metric counts))
        (if counts.isEmpty then current else some metric.name) back := by
  unfold Counters.lines Dictionary.isEmpty
  unfold Dictionary.toList at *
  cases entries : counts.entries with
  | nil => rw [List.isEmpty_nil, if_pos rfl, if_pos rfl, String.join_nil, String.append_empty]; rfl
  | cons entry rest =>
      rw [entries] at bounded
      obtain ⟨first, others⟩ := List.forall_mem_cons.mp bounded
      rw [List.isEmpty_cons, if_neg Bool.false_ne_true, if_neg Bool.false_ne_true, entriesOf,
        List.map_cons, List.cons_append, renderFrom]
      dsimp only
      rw [if_neg other, line_eq first, ← entriesOf, renderFrom_same others]
      simp [String.append_assoc]

theorem renderFrom_metrics {counters : Counters} {metrics : List Metric} {current : Option String}
    (distinct : metrics.Nodup) (other : ∀ metric ∈ metrics, current ≠ some metric.name)
    (bounded : ∀ metric, ∀ entry ∈ (counters.counts metric).toList, entry.2 < 2 ^ 64)
    (output : String) :
    renderFrom output current (entriesFor counters metrics) =
      output ++ String.join
        (metrics.flatMap fun metric => Counters.lines metric (counters.counts metric)) := by
  induction metrics generalizing output current with
  | nil => rw [List.flatMap_nil, String.join_nil, String.append_empty]; rfl
  | cons metric rest ih =>
      obtain ⟨notLater, distinctRest⟩ := List.nodup_cons.mp distinct
      obtain ⟨notFirst, notRest⟩ := List.forall_mem_cons.mp other
      have next : ∀ later ∈ rest,
          (if (counters.counts metric).isEmpty then current else some metric.name) ≠
            some later.name := by
        intro later listed
        split
        · exact notRest later listed
        · intro same
          exact notLater (Counters.name_injective (Option.some.inj same) ▸ listed)
      rw [entriesFor, List.flatMap_cons, ← entriesFor, renderFrom_metric notFirst (bounded metric),
        ih distinctRest next, List.flatMap_cons, String.join_append, String.append_assoc]

theorem render_ofCounters {counters : Counters}
    (bounded : ∀ metric, ∀ entry ∈ (counters.counts metric).toList, entry.2 < 2 ^ 64) :
    (ofCounters counters).render = counters.render := by
  have distinct : Metric.all.Nodup := by decide
  have written := renderFrom_metrics distinct (fun _ _ => (Option.some_ne_none _).symm) bounded ""
  exact written.trans String.empty_append

/-- After less than `2 ^ 64` occurrences the list has the number of each, and is published as the
dictionaries of the metrics are. -/
theorem after_agrees {occurrences : List Occurrence} (short : occurrences.length < 2 ^ 64) :
    (after occurrences).render = (Counters.after occurrences).render ∧
      ∀ metric label, ((after occurrences).get (Metric.name metric) label).toNat =
        (Counters.after occurrences).get metric label := by
  have fewer (metric : Metric) (label : String) :
      (Counters.after occurrences).get metric label < 2 ^ 64 := by
    rw [Counters.get_after]
    refine Nat.lt_of_le_of_lt List.count_le_length ?_
    rwa [List.length_map]
  rw [after_eq]
  constructor
  · refine render_ofCounters fun metric entry member => ?_
    rw [(Counters.mem_counts_after.mp member).2]
    exact fewer metric entry.1
  · intro metric label
    rw [get_ofCounters, UInt64.toNat_ofNat_of_lt' (fewer metric label)]

end Register

end StagedRuns
