import StagedRuns.Definition.Read
import StagedRuns.Proofs.Definition.Outcome
import StagedRuns.Proofs.Run.Kept
import StagedRuns.Proofs.Yaml.Written

/-!
What is submitted of a definition. The specification of a definition is read into the fields that
are known and written from them, so that it is submitted as it stands exactly if it has the form of
a specification.
-/

namespace StagedRuns

open StagedRuns.Yaml

namespace Run

variable (document : Document)

def Variable.fields : Fields :=
  [("name", document.IsText), ("value", document.IsText)]

def Step.fields : Fields :=
  [ ("name", document.IsFilledText), ("image", document.IsText)
  , ("command", document.IsFilledList document.IsText)
  , ("args", document.IsFilledList document.IsText)
  , ("env", document.IsFilledList (document.IsRecord (Variable.fields document)))
  , ("workingDir", document.IsFilledText), ("script", document.IsFilledText) ]

def declarationFields : Fields :=
  [("name", document.IsText)]

def TaskSpec.fields : Fields :=
  [ ("workspaces", document.IsList (document.IsRecord (declarationFields document)))
  , ("steps", document.IsList (document.IsRecord (Step.fields document))) ]

def TaskRef.fields : Fields :=
  [("name", document.IsText), ("kind", document.IsText)]

def Param.fields : Fields :=
  [("name", document.IsText), ("value", document.IsText)]

def NodeWorkspace.fields : Fields :=
  [("name", document.IsText), ("workspace", document.IsText)]

def Node.fields : Fields :=
  [ ("name", document.IsText), ("runAfter", document.IsFilledList document.IsText)
  , ("workspaces", document.IsFilledList (document.IsRecord (NodeWorkspace.fields document)))
  , ("taskRef", document.IsRecord (TaskRef.fields document))
  , ("params", document.IsFilledList (document.IsRecord (Param.fields document)))
  , ("taskSpec", document.IsRecord (TaskSpec.fields document)) ]

def ParamSpec.fields : Fields :=
  [ ("name", document.IsText), ("type", document.IsFilledText)
  , ("description", document.IsFilledText) ]

def Graph.fields : Fields :=
  [ ("params", document.IsFilledList (document.IsRecord (ParamSpec.fields document)))
  , ("workspaces", document.IsList (document.IsRecord (declarationFields document)))
  , ("tasks", document.IsList (document.IsRecord (Node.fields document))) ]

def claimFields : Fields :=
  [("claimName", document.IsText)]

def Workspace.fields : Fields :=
  [ ("name", document.IsText)
  , ("persistentVolumeClaim", document.IsRecord (claimFields document)) ]

def Spec.fields : Fields :=
  [ ("serviceAccountName", document.IsFilledText)
  , ("params", document.IsFilledList (document.IsRecord (Param.fields document)))
  , ("workspaces", document.IsList (document.IsRecord (Workspace.fields document)))
  , ("pipelineSpec", document.IsRecord (Graph.fields document)) ]

variable {document}

theorem Spec.keeps :
    document.Keeps Spec.read Spec.toJson (document.IsRecord (Spec.fields document)) :=
  @Spec.kept _ _ _ _ document.keeping

/-- A specification says all that a node says, and beyond it no more than the bound parameters,
behind its own, and what holds nothing. -/
def Spec.SubmittedAs (document : Document) (node : Yaml.Node) (bound : List Param) (spec : Spec) :
    Prop :=
  ∃ own, spec.params = own ++ bound ∧
    document.Written node (Spec.toJson { spec with params := own })

end Run

def Yaml.Document.Gives (document : Document) (name : String) (node : Node) : Prop :=
  ∃ tag entries, document.StandsFor document.root (.mapping tag entries) ∧
    ∃ entry ∈ entries, document.Names entry (name, node)

namespace Definition

variable {definition : Definition} {document : Document} {context : Webhook.Context}
  {generateName hookId : String} {commit : Source} {run : Run}

theorem reads_spec {text : String} (composed : Yaml.Document.read text = .ok (some document))
    (read : Definition.read text = .ok definition) {node : Node}
    (given : document.Gives "pipeline_run_spec" node) :
    document.Reads (Run.Spec.read node) definition.spec := by
  obtain ⟨tag, entries, stands, entry, present, keyStands, rfl⟩ := given
  unfold Definition.read at read
  rw [composed, Result.ok_bind] at read
  obtain ⟨found, done, same⟩ := Result.bind_eq_ok.mp read
  cases same
  rcases reads_nullable (reads_of_run done) with
    ⟨⟨otherTag, plain, content, otherStands⟩, -⟩ | ⟨next, definition, rfl, reads, same⟩
  · cases standsFor_unique stands otherStands
  · obtain ⟨record, recordRead, reads⟩ := reads_bind reads
    obtain ⟨filter, filterRead, reads⟩ := reads_bind reads
    obtain ⟨bindings, bindingsRead, reads⟩ := reads_bind reads
    obtain ⟨spec, specRead, reads⟩ := reads_bind reads
    cases reads_pure reads
    have found := (reads_record recordRead ((same _).mp stands)).1 entry present
      "pipeline_run_spec" (by simp) ⟨keyStands, rfl⟩
    unfold Record.withDefault at specRead
    rw [found] at specRead
    exact specRead

/-- The specification of a document is submitted as it stands, apart from the bound parameters,
exactly if it has the form of a specification: no key is unknown, every text is one by itself, and
what is left out when it is empty is not given as empty. -/
theorem submittedAs_iff_isRecord {text : String}
    (composed : Yaml.Document.read text = .ok (some document))
    (read : Definition.read text = .ok definition)
    (executed : definition.execute context generateName commit hookId = .ok (some run)) :
    ∃ bound, List.Forall₂ (fun binding given => param context binding = .ok given)
        definition.bindings bound ∧
      ∀ node, document.Gives "pipeline_run_spec" node →
        (run.spec.SubmittedAs document node bound ↔
          document.IsRecord (Run.Spec.fields document) node) := by
  obtain ⟨bound, evaluated, rfl⟩ := execute_ok executed
  refine ⟨bound, Result.mapM_eq_ok.mp evaluated, ?_⟩
  intro node given
  rw [← Run.Spec.keeps node definition.spec (reads_spec composed read given)]
  constructor
  · rintro ⟨own, same, written⟩
    cases List.append_cancel_right same
    exact written
  · exact fun written => ⟨definition.spec.params, rfl, written⟩

/-- A definition of which all is submitted, with one parameter more. -/
def sampleText : String :=
  "param_bindings:\n- name: commit\n  expression: \"'6113728'\"\n" ++
    "pipeline_run_spec:\n  params:\n  - name: color\n    value: blue\n"

def word (content : String) : Node :=
  .scalar none true content

def sampleParam : Node :=
  .mapping none [(word "name", word "color"), (word "value", word "blue")]

def sampleSpec : Node :=
  .mapping none [(word "params", .sequence none [sampleParam])]

def sampleDocument : Document :=
  { root := .mapping none
      [ (word "param_bindings", .sequence none
          [ .mapping none
              [ (word "name", word "commit")
              , (word "expression", .scalar none false "'6113728'") ] ])
      , (word "pipeline_run_spec", sampleSpec) ]
    anchored := [] }

def sample : Definition :=
  { filter := "", bindings := [⟨"commit", "'6113728'"⟩]
    spec := { Run.Spec.empty with params := [⟨"color", "blue"⟩] } }

theorem spells_word {document : Document} {content : String}
    (valued : Value.ofContent true content = .ok (.string content)) :
    document.Spells (word content) content :=
  ⟨none, true, .itself nofun, valued⟩

theorem sampleSpec_isRecord (document : Document) :
    document.IsRecord (Run.Spec.fields document) sampleSpec := by
  have name : document.Spells (word "name") "name" := spells_word rfl
  have color : document.Spells (word "color") "color" := spells_word rfl
  have value : document.Spells (word "value") "value" := spells_word rfl
  have blue : document.Spells (word "blue") "blue" := spells_word rfl
  have params : document.Spells (word "params") "params" := spells_word rfl
  have param : document.IsRecord (Run.Param.fields document) sampleParam := by
    refine ⟨none, _, .itself nofun, rfl, ?_⟩
    rw [List.forall_mem_cons, List.forall_mem_singleton]
    exact ⟨⟨_, .head _, name, "color", color⟩, ⟨_, .tail _ (.head _), value, "blue", blue⟩⟩
  have list : document.IsFilledList (document.IsRecord (Run.Param.fields document))
      (.sequence none [sampleParam]) :=
    ⟨none, _, .itself nofun, rfl, List.forall_mem_singleton.mpr param, List.cons_ne_nil _ _⟩
  refine ⟨none, _, .itself nofun, rfl, ?_⟩
  rw [List.forall_mem_singleton]
  exact ⟨_, .tail _ (.head _), params, list⟩

theorem sample_submittedAs :
    Yaml.Document.read sampleText = .ok (some sampleDocument) ∧
      Definition.read sampleText = .ok sample ∧
      ∃ run, sample.execute (.ofDocument .null) "run-" default "delivery" = .ok (some run) ∧
        run.spec.SubmittedAs sampleDocument sampleSpec [⟨"commit", "6113728"⟩] := by
  have composed : Yaml.Document.read sampleText = .ok (some sampleDocument) := by decide +kernel
  have read : Definition.read sampleText = .ok sample := by
    rw [Definition.read, composed, Result.ok_bind]
    decide +kernel
  have evaluated : param (.ofDocument .null) ⟨"commit", "'6113728'"⟩ =
      .ok ⟨"commit", "6113728"⟩ :=
    Result.ok_of_toOption (by decide +kernel)
  have executed : ∃ run,
      sample.execute (.ofDocument .null) "run-" default "delivery" = .ok (some run) := by
    simp only [execute, passes, sample, List.mapM_cons, List.mapM_nil, evaluated]
    exact ⟨_, rfl⟩
  obtain ⟨run, executed⟩ := executed
  obtain ⟨bound, bindings, kept⟩ := submittedAs_iff_isRecord composed read executed
  cases bindings with
  | cons given rest =>
      cases rest
      cases evaluated.symm.trans given
      refine ⟨composed, read, run, executed,
        (kept sampleSpec ?_).mpr (sampleSpec_isRecord sampleDocument)⟩
      exact ⟨none, _, .itself nofun, _, .tail _ (.head _), ⟨none, true, .itself nofun⟩, rfl⟩

def guardedText : String :=
  "pipeline_run_spec:\n  pipelineSpec:\n    tasks:\n      - name: deploy\n        when:\n" ++
    "          - input: main\n            operator: in\n            values: [release]\n" ++
    "        taskRef: \x7bname: deploy, kind: Task\x7d\n"

def guardedTask : Node :=
  .mapping none
    [ (word "name", word "deploy")
    , (word "when", .sequence none
        [ .mapping none
            [ (word "input", word "main"), (word "operator", word "in")
            , (word "values", .sequence none [word "release"]) ] ])
    , (word "taskRef", .mapping none
        [(word "name", word "deploy"), (word "kind", word "Task")]) ]

def guardedSpec : Node :=
  .mapping none
    [(word "pipelineSpec", .mapping none [(word "tasks", .sequence none [guardedTask])])]

def guardedDocument : Document :=
  { root := .mapping none [(word "pipeline_run_spec", guardedSpec)], anchored := [] }

def guarded : Definition :=
  { Definition.empty with
    spec := { Run.Spec.empty with
      graph := { Run.Graph.empty with
        nodes :=
          [ { name := "deploy", runAfter := [], workspaces := []
              taskRef := some ⟨"deploy", "Task"⟩, params := [], taskSpec := none } ] } } }

theorem isRecord_entry {fields : Fields} {tag : Option Tag} {entries : List (Node × Node)}
    (record : document.IsRecord fields (.mapping tag entries)) {key : String} {value : Node}
    (present : (word key, value) ∈ entries) : ∃ form, (key, form) ∈ fields ∧ form value := by
  obtain ⟨otherTag, others, stands, -, each⟩ := record
  cases standsFor_unique stands (.itself nofun)
  obtain ⟨⟨name, form⟩, inFields, ⟨_, _, keyStands, -⟩, fits⟩ := each _ present
  cases standsFor_unique keyStands (.itself nofun)
  exact ⟨form, inFields, fits⟩

theorem guardedSpec_not_isRecord (document : Document) :
    ¬ document.IsRecord (Run.Spec.fields document) guardedSpec := by
  intro spec
  obtain ⟨form, known, graph⟩ := isRecord_entry spec (.head _)
  obtain rfl : form = document.IsRecord (Run.Graph.fields document) := by
    simpa [Run.Spec.fields] using known
  obtain ⟨form, known, tasks⟩ := isRecord_entry graph (.head _)
  obtain rfl : form = document.IsList (document.IsRecord (Run.Node.fields document)) := by
    simpa [Run.Graph.fields] using known
  obtain ⟨tag, items, stands, -, each⟩ := tasks
  cases standsFor_unique stands (.itself nofun)
  obtain ⟨form, known, -⟩ := isRecord_entry (each guardedTask (.head _)) (.tail _ (.head _))
  simp [Run.Node.fields] at known

/-- The guard is in the document, and the run that is created is without it. -/
theorem guarded_not_submittedAs :
    Yaml.Document.read guardedText = .ok (some guardedDocument) ∧
      guardedDocument.Gives "pipeline_run_spec" guardedSpec ∧
      Definition.read guardedText = .ok guarded ∧
      ∃ run, guarded.execute (.ofDocument .null) "run-"
          ⟨"https://github.com/example/shop.git", "6113728"⟩ "delivery" = .ok (some run) ∧
        ∀ bound, ¬ run.spec.SubmittedAs guardedDocument guardedSpec bound := by
  have composed : Yaml.Document.read guardedText = .ok (some guardedDocument) := by
    decide +kernel
  have given : guardedDocument.Gives "pipeline_run_spec" guardedSpec :=
    ⟨none, _, .itself nofun, _, .head _, ⟨none, true, .itself nofun⟩, rfl⟩
  have read : Definition.read guardedText = .ok guarded := by
    rw [Definition.read, composed, Result.ok_bind]
    decide +kernel
  have executed : ∃ run, guarded.execute (.ofDocument .null) "run-"
      ⟨"https://github.com/example/shop.git", "6113728"⟩ "delivery" = .ok (some run) := by
    simp only [execute, passes, guarded]
    exact ⟨_, rfl⟩
  obtain ⟨run, executed⟩ := executed
  refine ⟨composed, given, read, run, executed, ?_⟩
  obtain ⟨params, evaluated, rfl⟩ := execute_ok executed
  cases evaluated
  rintro bound ⟨own, same, written⟩
  obtain ⟨rfl, -⟩ := List.append_eq_nil_iff.mp same.symm
  exact guardedSpec_not_isRecord guardedDocument
    ((Run.Spec.keeps guardedSpec guarded.spec (reads_spec composed read given)).mp written)

end Definition

end StagedRuns
