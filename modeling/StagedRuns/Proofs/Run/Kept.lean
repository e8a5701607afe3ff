import StagedRuns.Proofs.Record.Kept
import StagedRuns.Run.Read
import StagedRuns.Run.Write

/-!
What a specification has to be made of to be read and written again as it stands, in any form of data.
-/

namespace StagedRuns

open StagedRuns.RecordData (Fields)

namespace Run

variable {Data : Type} {m : Type → Type} [Monad m] [RecordData Data m] (keeping : Keeping Data m)

def Variable.forms : Fields Data :=
  [("name", keeping.IsText), ("value", keeping.IsText)]

def Step.forms : Fields Data :=
  [ ("name", keeping.IsFilledText), ("image", keeping.IsText)
  , ("command", keeping.IsFilledList keeping.IsText)
  , ("args", keeping.IsFilledList keeping.IsText)
  , ("env", keeping.IsFilledList (keeping.IsRecord (Variable.forms keeping)))
  , ("workingDir", keeping.IsFilledText), ("script", keeping.IsFilledText) ]

def declarationForms : Fields Data :=
  [("name", keeping.IsText)]

def TaskSpec.forms : Fields Data :=
  [ ("workspaces", keeping.IsList (keeping.IsRecord (declarationForms keeping)))
  , ("steps", keeping.IsList (keeping.IsRecord (Step.forms keeping))) ]

def TaskRef.forms : Fields Data :=
  [("name", keeping.IsText), ("kind", keeping.IsText)]

def Param.forms : Fields Data :=
  [("name", keeping.IsText), ("value", keeping.IsText)]

def NodeWorkspace.forms : Fields Data :=
  [("name", keeping.IsText), ("workspace", keeping.IsText)]

def Node.forms : Fields Data :=
  [ ("name", keeping.IsText), ("runAfter", keeping.IsFilledList keeping.IsText)
  , ("workspaces", keeping.IsFilledList (keeping.IsRecord (NodeWorkspace.forms keeping)))
  , ("taskRef", keeping.IsRecord (TaskRef.forms keeping))
  , ("params", keeping.IsFilledList (keeping.IsRecord (Param.forms keeping)))
  , ("taskSpec", keeping.IsRecord (TaskSpec.forms keeping)) ]

def ParamSpec.forms : Fields Data :=
  [ ("name", keeping.IsText), ("type", keeping.IsFilledText)
  , ("description", keeping.IsFilledText) ]

def Graph.forms : Fields Data :=
  [ ("params", keeping.IsFilledList (keeping.IsRecord (ParamSpec.forms keeping)))
  , ("workspaces", keeping.IsList (keeping.IsRecord (declarationForms keeping)))
  , ("tasks", keeping.IsList (keeping.IsRecord (Node.forms keeping))) ]

def claimForms : Fields Data :=
  [("claimName", keeping.IsText)]

def Workspace.forms : Fields Data :=
  [ ("name", keeping.IsText)
  , ("persistentVolumeClaim", keeping.IsRecord (claimForms keeping)) ]

def Spec.forms : Fields Data :=
  [ ("serviceAccountName", keeping.IsFilledText)
  , ("params", keeping.IsFilledList (keeping.IsRecord (Param.forms keeping)))
  , ("workspaces", keeping.IsList (keeping.IsRecord (Workspace.forms keeping)))
  , ("pipelineSpec", keeping.IsRecord (Graph.forms keeping)) ]

variable {keeping}

theorem Variable.kept :
    keeping.Keeps Variable.read Variable.toJson
      (keeping.IsRecord (Variable.forms keeping)) := by
  intro data given reads
  obtain ⟨record, recordRead, reads⟩ := keeping.reads_bind reads
  obtain ⟨name, nameRead, reads⟩ := keeping.reads_bind reads
  obtain ⟨value, valueRead, reads⟩ := keeping.reads_bind reads
  cases keeping.reads_pure reads
  have kept : keeping.Record record (Variable.forms keeping) _ :=
    .cons (.required .text nameRead) (.cons (.required .text valueRead) .nil)
  exact keeping.record_iff recordRead kept rfl

theorem Step.kept :
    keeping.Keeps Step.read Step.toJson (keeping.IsRecord (Step.forms keeping)) := by
  intro data step reads
  obtain ⟨record, recordRead, reads⟩ := keeping.reads_bind reads
  obtain ⟨name, nameRead, reads⟩ := keeping.reads_bind reads
  obtain ⟨image, imageRead, reads⟩ := keeping.reads_bind reads
  obtain ⟨command, commandRead, reads⟩ := keeping.reads_bind reads
  obtain ⟨args, argsRead, reads⟩ := keeping.reads_bind reads
  obtain ⟨env, envRead, reads⟩ := keeping.reads_bind reads
  obtain ⟨workingDir, workingDirRead, reads⟩ := keeping.reads_bind reads
  obtain ⟨script, scriptRead, reads⟩ := keeping.reads_bind reads
  cases keeping.reads_pure reads
  have kept : keeping.Record record (Step.forms keeping) _ :=
    .cons (.unlessBlank nameRead) (.cons (.required .text imageRead)
      (.cons (.unlessEmpty .text commandRead) (.cons (.unlessEmpty .text argsRead)
        (.cons (.unlessEmpty Variable.kept envRead) (.cons (.unlessBlank workingDirRead)
          (.cons (.unlessBlank scriptRead) .nil))))))
  simpa [Step.toJson] using keeping.record_iff recordRead kept rfl

theorem kept_declaration :
    keeping.Keeps readDeclaration declarationToJson
      (keeping.IsRecord (declarationForms keeping)) := by
  intro data name reads
  obtain ⟨record, recordRead, reads⟩ := keeping.reads_bind reads
  have kept : keeping.Record record (declarationForms keeping) _ :=
    .cons (.required .text reads) .nil
  exact keeping.record_iff recordRead kept rfl

theorem TaskSpec.kept :
    keeping.Keeps TaskSpec.read TaskSpec.toJson
      (keeping.IsRecord (TaskSpec.forms keeping)) := by
  intro data spec reads
  obtain ⟨record, recordRead, reads⟩ := keeping.reads_bind reads
  obtain ⟨workspaces, workspacesRead, reads⟩ := keeping.reads_bind reads
  obtain ⟨steps, stepsRead, reads⟩ := keeping.reads_bind reads
  cases keeping.reads_pure reads
  have kept : keeping.Record record (TaskSpec.forms keeping) _ :=
    .cons (.always (.list kept_declaration) workspacesRead keeping.nothing_list)
      (.cons (.always (.list Step.kept) stepsRead keeping.nothing_list) .nil)
  exact keeping.record_iff recordRead kept rfl

theorem TaskRef.kept :
    keeping.Keeps TaskRef.read TaskRef.toJson (keeping.IsRecord (TaskRef.forms keeping)) := by
  intro data ref reads
  obtain ⟨record, recordRead, reads⟩ := keeping.reads_bind reads
  obtain ⟨name, nameRead, reads⟩ := keeping.reads_bind reads
  obtain ⟨kind, kindRead, reads⟩ := keeping.reads_bind reads
  cases keeping.reads_pure reads
  have kept : keeping.Record record (TaskRef.forms keeping) _ :=
    .cons (.required .text nameRead) (.cons (.always .text kindRead keeping.nothing_text) .nil)
  exact keeping.record_iff recordRead kept rfl

theorem Param.kept :
    keeping.Keeps Param.read Param.toJson (keeping.IsRecord (Param.forms keeping)) := by
  intro data param reads
  obtain ⟨record, recordRead, reads⟩ := keeping.reads_bind reads
  obtain ⟨name, nameRead, reads⟩ := keeping.reads_bind reads
  obtain ⟨value, valueRead, reads⟩ := keeping.reads_bind reads
  cases keeping.reads_pure reads
  have kept : keeping.Record record (Param.forms keeping) _ :=
    .cons (.required .text nameRead) (.cons (.required .text valueRead) .nil)
  exact keeping.record_iff recordRead kept rfl

theorem NodeWorkspace.kept :
    keeping.Keeps NodeWorkspace.read NodeWorkspace.toJson
      (keeping.IsRecord (NodeWorkspace.forms keeping)) := by
  intro data given reads
  obtain ⟨record, recordRead, reads⟩ := keeping.reads_bind reads
  obtain ⟨name, nameRead, reads⟩ := keeping.reads_bind reads
  obtain ⟨workspace, workspaceRead, reads⟩ := keeping.reads_bind reads
  cases keeping.reads_pure reads
  have kept : keeping.Record record (NodeWorkspace.forms keeping) _ :=
    .cons (.required .text nameRead) (.cons (.required .text workspaceRead) .nil)
  exact keeping.record_iff recordRead kept rfl

theorem Node.kept :
    keeping.Keeps Node.read Node.toJson (keeping.IsRecord (Node.forms keeping)) := by
  intro data given reads
  obtain ⟨record, recordRead, reads⟩ := keeping.reads_bind reads
  obtain ⟨name, nameRead, reads⟩ := keeping.reads_bind reads
  obtain ⟨runAfter, runAfterRead, reads⟩ := keeping.reads_bind reads
  obtain ⟨workspaces, workspacesRead, reads⟩ := keeping.reads_bind reads
  obtain ⟨taskRef, taskRefRead, reads⟩ := keeping.reads_bind reads
  obtain ⟨params, paramsRead, reads⟩ := keeping.reads_bind reads
  obtain ⟨taskSpec, taskSpecRead, reads⟩ := keeping.reads_bind reads
  cases keeping.reads_pure reads
  have kept : keeping.Record record (Node.forms keeping) _ :=
    .cons (.required .text nameRead) (.cons (.unlessEmpty .text runAfterRead)
      (.cons (.unlessEmpty NodeWorkspace.kept workspacesRead)
        (.cons (.ifPresent TaskRef.kept taskRefRead) (.cons (.unlessEmpty Param.kept paramsRead)
          (.cons (.ifPresent TaskSpec.kept taskSpecRead) .nil)))))
  simpa [Node.toJson] using keeping.record_iff recordRead kept rfl

theorem ParamSpec.kept :
    keeping.Keeps ParamSpec.read ParamSpec.toJson
      (keeping.IsRecord (ParamSpec.forms keeping)) := by
  intro data spec reads
  obtain ⟨record, recordRead, reads⟩ := keeping.reads_bind reads
  obtain ⟨name, nameRead, reads⟩ := keeping.reads_bind reads
  obtain ⟨type, typeRead, reads⟩ := keeping.reads_bind reads
  obtain ⟨description, descriptionRead, reads⟩ := keeping.reads_bind reads
  cases keeping.reads_pure reads
  have kept : keeping.Record record (ParamSpec.forms keeping) _ :=
    .cons (.required .text nameRead) (.cons (.unlessBlank typeRead)
      (.cons (.unlessBlank descriptionRead) .nil))
  simpa [ParamSpec.toJson] using keeping.record_iff recordRead kept rfl

theorem Graph.kept :
    keeping.Keeps Graph.read Graph.toJson (keeping.IsRecord (Graph.forms keeping)) := by
  intro data graph reads
  obtain ⟨record, recordRead, reads⟩ := keeping.reads_bind reads
  obtain ⟨params, paramsRead, reads⟩ := keeping.reads_bind reads
  obtain ⟨workspaces, workspacesRead, reads⟩ := keeping.reads_bind reads
  obtain ⟨nodes, nodesRead, reads⟩ := keeping.reads_bind reads
  cases keeping.reads_pure reads
  have kept : keeping.Record record (Graph.forms keeping) _ :=
    .cons (.unlessEmpty ParamSpec.kept paramsRead)
      (.cons (.always (.list kept_declaration) workspacesRead keeping.nothing_list)
      (.cons (.always (.list Node.kept) nodesRead keeping.nothing_list) .nil))
  exact keeping.record_iff recordRead kept rfl

theorem kept_claim :
    keeping.Keeps readClaim (fun name => .object [("claimName", .string name)])
      (keeping.IsRecord (claimForms keeping)) := by
  intro data name reads
  obtain ⟨record, recordRead, reads⟩ := keeping.reads_bind reads
  have kept : keeping.Record record (claimForms keeping) _ :=
    .cons (.required .text reads) .nil
  exact keeping.record_iff recordRead kept rfl

theorem Workspace.kept :
    keeping.Keeps Workspace.read Workspace.toJson
      (keeping.IsRecord (Workspace.forms keeping)) := by
  intro data workspace reads
  obtain ⟨record, recordRead, reads⟩ := keeping.reads_bind reads
  obtain ⟨name, nameRead, reads⟩ := keeping.reads_bind reads
  obtain ⟨claimName, claimNameRead, reads⟩ := keeping.reads_bind reads
  cases keeping.reads_pure reads
  have kept : keeping.Record record (Workspace.forms keeping) _ :=
    .cons (.required .text nameRead) (.cons (.required kept_claim claimNameRead) .nil)
  exact keeping.record_iff recordRead kept rfl

theorem Graph.empty_nothing : keeping.Nothing Graph.empty.toJson := by
  refine keeping.nothing_record fun member present => ?_
  rcases List.mem_cons.mp present with rfl | present
  · exact keeping.nothing_list
  · cases List.mem_singleton.mp present
    exact keeping.nothing_list

theorem Spec.kept :
    keeping.Keeps Spec.read Spec.toJson (keeping.IsRecord (Spec.forms keeping)) := by
  intro data spec reads
  obtain ⟨record, recordRead, reads⟩ := keeping.reads_bind reads
  obtain ⟨serviceAccountName, serviceAccountNameRead, reads⟩ := keeping.reads_bind reads
  obtain ⟨params, paramsRead, reads⟩ := keeping.reads_bind reads
  obtain ⟨workspaces, workspacesRead, reads⟩ := keeping.reads_bind reads
  obtain ⟨graph, graphRead, reads⟩ := keeping.reads_bind reads
  cases keeping.reads_pure reads
  have kept : keeping.Record record (Spec.forms keeping) _ :=
    .cons (.unlessBlank serviceAccountNameRead) (.cons (.unlessEmpty Param.kept paramsRead)
      (.cons (.always (.list Workspace.kept) workspacesRead keeping.nothing_list)
        (.cons (.always Graph.kept graphRead Graph.empty_nothing) .nil)))
  simpa [Spec.toJson] using keeping.record_iff recordRead kept rfl

end Run

end StagedRuns
