import StagedRuns.Proofs.Json.Codec
import StagedRuns.Run.Read
import StagedRuns.Run.Write

/-!
Runs are read back from the JSON that is written of them.
-/

namespace StagedRuns

open StagedRuns.Json (Codec Parts)
open StagedRuns.Result (bind_some)

namespace Run

theorem Variable.codec : Codec Variable.read Variable.toJson := by
  refine .record (by decide) (fun _ => rfl)
    (fun v => .required .text v.name (.required .text v.value .nil)) ?_
  rintro v record ⟨name, value, -⟩
  exact bind_some name (bind_some value rfl)

theorem Step.codec : Codec Step.read Step.toJson := by
  refine .record (by decide) (fun step => ?_) (fun step => .unlessBlank step.name
    (.required .text step.image (.unlessEmpty .text step.command (.unlessEmpty .text step.args
      (.unlessEmpty Variable.codec step.env
        (.unlessBlank step.workingDir (.unlessBlank step.script .nil))))))) ?_
  · simp [Step.toJson]
  · rintro step record ⟨name, image, command, args, env, workingDir, script, -⟩
    exact bind_some name (bind_some image (bind_some command (bind_some args (bind_some env
      (bind_some workingDir (bind_some script rfl))))))

theorem codec_declaration : Codec readDeclaration declarationToJson := by
  refine .record (by decide) (fun _ => rfl) (fun name => .required .text name .nil) ?_
  rintro name record ⟨read, -⟩
  exact read

theorem TaskSpec.codec : Codec TaskSpec.read TaskSpec.toJson := by
  refine .record (by decide) (fun _ => rfl) (fun spec => .always (.list codec_declaration)
    spec.workspaces (.always (.list Step.codec) spec.steps .nil)) ?_
  rintro spec record ⟨workspaces, steps, -⟩
  exact bind_some (workspaces _) (bind_some (steps _) rfl)

theorem TaskRef.codec : Codec TaskRef.read TaskRef.toJson := by
  refine .record (by decide) (fun _ => rfl)
    (fun ref => .required .text ref.name (.always .text ref.kind .nil)) ?_
  rintro ref record ⟨name, kind, -⟩
  exact bind_some name (bind_some (kind _) rfl)

theorem Param.codec : Codec Param.read Param.toJson := by
  refine .record (by decide) (fun _ => rfl)
    (fun param => .required .text param.name (.required .text param.value .nil)) ?_
  rintro param record ⟨name, value, -⟩
  exact bind_some name (bind_some value rfl)

theorem NodeWorkspace.codec : Codec NodeWorkspace.read NodeWorkspace.toJson := by
  refine .record (by decide) (fun _ => rfl) (fun workspace =>
    .required .text workspace.name (.required .text workspace.workspace .nil)) ?_
  rintro workspace record ⟨name, inner, -⟩
  exact bind_some name (bind_some inner rfl)

theorem Node.codec : Codec Node.read Node.toJson := by
  refine .record (by decide) (fun node => ?_) (fun node => .required .text node.name
    (.unlessEmpty .text node.runAfter (.unlessEmpty NodeWorkspace.codec node.workspaces
      (.ifPresent TaskRef.codec rfl node.taskRef (.unlessEmpty Param.codec node.params
        (.ifPresent TaskSpec.codec rfl node.taskSpec .nil)))))) ?_
  · simp [Node.toJson]
  · rintro node record ⟨name, runAfter, workspaces, taskRef, params, taskSpec, -⟩
    exact bind_some name (bind_some runAfter (bind_some workspaces (bind_some taskRef
      (bind_some params (bind_some taskSpec rfl)))))

theorem ParamSpec.codec : Codec ParamSpec.read ParamSpec.toJson := by
  refine .record (by decide) (fun spec => ?_) (fun spec => .required .text spec.name
    (.unlessBlank spec.type (.unlessBlank spec.description .nil))) ?_
  · simp [ParamSpec.toJson]
  · rintro spec record ⟨name, type, description, -⟩
    exact bind_some name (bind_some type (bind_some description rfl))

theorem Graph.codec : Codec Graph.read Graph.toJson := by
  refine .record (by decide) (fun graph => ?_) (fun graph =>
    .unlessEmpty ParamSpec.codec graph.params (.always (.list codec_declaration) graph.workspaces
      (.always (.list Node.codec) graph.nodes .nil))) ?_
  · simp [Graph.toJson]
  · rintro graph record ⟨params, workspaces, nodes, -⟩
    exact bind_some params (bind_some (workspaces _) (bind_some (nodes _) rfl))

theorem codec_claim : Codec readClaim fun name => .object [("claimName", .string name)] := by
  refine .record (by decide) (fun _ => rfl) (fun name => .required .text name .nil) ?_
  rintro name record ⟨read, -⟩
  exact read

theorem Workspace.codec : Codec Workspace.read Workspace.toJson := by
  refine .record (by decide) (fun _ => rfl) (fun workspace => .required .text workspace.name
    (.required codec_claim workspace.claimName .nil)) ?_
  rintro workspace record ⟨name, claimName, -⟩
  exact bind_some name (bind_some claimName rfl)

theorem Spec.codec : Codec Spec.read Spec.toJson := by
  refine .record (by decide) (fun spec => ?_) (fun spec => .unlessBlank spec.serviceAccountName
    (.unlessEmpty Param.codec spec.params (.always (.list Workspace.codec) spec.workspaces
      (.always Graph.codec spec.graph .nil)))) ?_
  · simp [Spec.toJson]
  · rintro spec record ⟨serviceAccountName, params, workspaces, graph, -⟩
    exact bind_some serviceAccountName (bind_some params (bind_some (workspaces _)
      (bind_some (graph _) rfl)))

theorem Metadata.codec : Codec Metadata.read Metadata.toJson := by
  refine .record (by decide) (fun metadata => ?_) (fun metadata =>
    .ifPresent .text rfl metadata.name (.ifPresent .text rfl metadata.generateName
      (.ifPresent .text rfl metadata.space (.ifPresent .text rfl metadata.resourceVersion
        (.always (.dictionary .text) metadata.labels
          (.always (.dictionary .text) metadata.annotations .nil)))))) ?_
  · simp [Metadata.toJson]
  · rintro metadata record
      ⟨name, generateName, space, resourceVersion, labels, annotations, -⟩
    exact bind_some name (bind_some generateName (bind_some space (bind_some resourceVersion
      (bind_some (labels _) (bind_some (annotations _) rfl)))))

theorem Condition.codec : Codec Condition.read Condition.toJson := by
  refine .record (by decide) (fun condition => ?_) (fun condition =>
    .required .text condition.type (.required .text condition.status
      (.ifPresent .text rfl condition.reason .nil))) ?_
  · simp [Condition.toJson]
  · rintro condition record ⟨type, status, reason, -⟩
    exact bind_some type (bind_some status (bind_some reason rfl))

theorem Status.codec : Codec Status.read Status.toJson := by
  refine .record (by decide) (fun _ => rfl)
    (fun status => .always (.list Condition.codec) status.conditions .nil) ?_
  rintro status record ⟨conditions, -⟩
  exact bind_some (conditions _) rfl

theorem codec : Codec ofJson? toJson := by
  refine .record (by decide) (fun run => ?_) (fun run => .required .text run.apiVersion
    (.required .text run.kind (.required Metadata.codec run.metadata
      (.required Spec.codec run.spec (.ifPresent Status.codec rfl run.status .nil))))) ?_
  · simp [toJson]
  · rintro run record ⟨apiVersion, kind, metadata, spec, status, -⟩
    exact bind_some apiVersion (bind_some kind (bind_some metadata (bind_some spec
      (bind_some status rfl))))

end Run

end StagedRuns
