import StagedRuns.Counters
import StagedRuns.Proofs.Dictionary

/-!
What the counters say after counting: one more under one label of one metric, and so one more under
all labels of that metric together.
-/

namespace StagedRuns

namespace Counters

def total (counters : Counters) (metric : Metric) : Nat :=
  ((counters.counts metric).toList.map Prod.snd).sum

variable (counters : Counters) (metric other : Metric) (label key : String)

@[simp] theorem get_zero : zero.get metric label = 0 :=
  rfl

@[simp] theorem total_zero : zero.total metric = 0 :=
  rfl

theorem get_increment :
    (counters.increment metric label).get other key =
      counters.get other key + if other = metric ∧ key = label then 1 else 0 := by
  unfold increment get
  by_cases sameMetric : other = metric
  · subst sameMetric
    simp only [if_true, true_and]
    rw [Dictionary.get?_insert]
    by_cases sameLabel : key = label
    · subst sameLabel
      simp
    · simp [sameLabel]
  · simp [sameMetric]

theorem total_increment :
    (counters.increment metric label).total other =
      counters.total other + if other = metric then 1 else 0 := by
  unfold increment total
  by_cases same : other = metric
  · subst same
    simp only [if_true]
    have sum : (((counters.counts other).insert label (counters.get other label + 1)).toList.map
          Prod.snd).sum + counters.get other label =
        ((counters.counts other).toList.map Prod.snd).sum + (counters.get other label + 1) :=
      sum_insertEntry label _ (counters.counts other).increases
    omega
  · simp [same]

theorem counts_foldl_increment {counters : Counters} {metric other : Metric}
    (different : other ≠ metric) (labels : List String) :
    (labels.foldl (increment · metric ·) counters).counts other = counters.counts other := by
  induction labels generalizing counters with
  | nil => rfl
  | cons label labels ih =>
      rw [List.foldl_cons, ih]
      exact if_neg different

end Counters

end StagedRuns
