import StagedRuns.Proofs.Dictionary
import StagedRuns.Run.Basic

/-!
What a run is labelled with and annotated with when it is made: what it was made by, that it belongs
to this service, and the commit and the delivery that it is for.
-/

namespace StagedRuns.Run

variable {source : Source} {hookId : String}

theorem annotation?_annotate (run : Run) (key other value : String) :
    (run.annotate key value).annotation? other =
      if other = key then some value else run.annotation? other :=
  Dictionary.get?_insert run.metadata.annotations key other value

theorem correlate_sourceUrl (run : Run) :
    (run.correlate source hookId).annotation? sourceUrlAnnotation = some source.repoUrl := by
  unfold correlate
  rw [annotation?_annotate, if_neg (by decide), annotation?_annotate, if_neg (by decide),
    annotation?_annotate, if_pos rfl]

theorem correlate_sourceRef (run : Run) :
    (run.correlate source hookId).annotation? sourceRefAnnotation = some source.gitRef := by
  unfold correlate
  rw [annotation?_annotate, if_neg (by decide), annotation?_annotate, if_pos rfl]

theorem correlate_hookId (run : Run) :
    (run.correlate source hookId).annotation? hookIdAnnotation = some hookId := by
  unfold correlate
  rw [annotation?_annotate, if_pos rfl]

theorem correlate_partOf {component generateName : String} {spec : Spec} :
    ((new component generateName spec).correlate source hookId).metadata.labels.get? partOfLabel =
      some partOfValue := by
  change (Dictionary.ofList
    [(managedByLabel, component), (partOfLabel, partOfValue)]).get? partOfLabel = _
  simp only [Dictionary.ofList, List.foldl_cons, List.foldl_nil]
  rw [Dictionary.get?_insert, if_pos rfl]

end StagedRuns.Run
