import StagedRuns.Proofs.Client.Exchange
import StagedRuns.Proofs.Json.Kept
import StagedRuns.Proofs.Run.Kept
import StagedRuns.Proofs.Watch.Memo

/-!
What an update leaves of a run. A run is updated as a whole, to note the state that was reported,
and what is sent is written from the fields that were read: apart from the note all of the run as it
was listed is still there exactly if it has the form of those fields.
-/

namespace StagedRuns

open StagedRuns.Json (HeldBy IsDictionary IsList IsRecord IsText ObjectHeld heldUnless)
open StagedRuns.RecordData (Fields)

namespace Run

def Condition.forms : Fields Json :=
  [("type", IsText), ("status", IsText), ("reason", IsText)]

def Status.forms : Fields Json :=
  [("conditions", IsList (IsRecord Condition.forms))]

def Metadata.forms : Fields Json :=
  [ ("name", IsText), ("generateName", IsText), ("namespace", IsText), ("resourceVersion", IsText)
  , ("labels", IsDictionary fun _ => True), ("annotations", IsDictionary (· ≠ memoAnnotation)) ]

def forms : Fields Json :=
  [ ("apiVersion", IsText), ("kind", IsText), ("metadata", IsRecord Metadata.forms)
  , ("spec", IsRecord (Spec.forms Json.keeping)), ("status", IsRecord Status.forms) ]

/-- All annotations are still there but for the note of a state. -/
def AnnotationsHeld : Json → Json → Prop :=
  ObjectHeld fun key value other => key ≠ memoAnnotation → HeldBy value other

def MetadataHeld : Json → Json → Prop :=
  ObjectHeld (heldUnless "annotations" AnnotationsHeld)

def HeldButMemo : Json → Json → Prop :=
  ObjectHeld (heldUnless "metadata" MetadataHeld)

theorem Condition.kept :
    Json.keeping.Keeps Condition.read Condition.toJson (IsRecord Condition.forms) := by
  intro data condition reads
  obtain ⟨record, recordRead, reads⟩ := Json.keeping.reads_bind reads
  obtain ⟨type, typeRead, reads⟩ := Json.keeping.reads_bind reads
  obtain ⟨status, statusRead, reads⟩ := Json.keeping.reads_bind reads
  obtain ⟨reason, reasonRead, reads⟩ := Json.keeping.reads_bind reads
  cases Json.keeping.reads_pure reads
  have kept : Json.keeping.Record record Condition.forms _ :=
    .cons (.required .text typeRead) (.cons (.required .text statusRead)
      (.cons (.ifText reasonRead) .nil))
  simpa [Condition.toJson, Json.keeping] using Json.keeping.record_iff recordRead kept rfl

theorem Status.kept : Json.keeping.Keeps Status.read Status.toJson (IsRecord Status.forms) := by
  intro data status reads
  obtain ⟨record, recordRead, reads⟩ := Json.keeping.reads_bind reads
  obtain ⟨conditions, conditionsRead, reads⟩ := Json.keeping.reads_bind reads
  cases Json.keeping.reads_pure reads
  have kept : Json.keeping.Record record Status.forms _ :=
    .cons (.always (.list Condition.kept) conditionsRead trivial) .nil
  exact Json.keeping.record_iff recordRead kept rfl

def Metadata.noted (metadata : Metadata) (state : State) : Metadata :=
  { metadata with annotations := metadata.annotations.insert memoAnnotation state.text }

theorem keeps_annotations (state : State) :
    Json.keeping.toReading.Keeps AnnotationsHeld (Json.dictionaryOf Json.asString?)
      (fun annotations => Json.ofDictionary .string (annotations.insert memoAnnotation state.text))
      (IsDictionary (· ≠ memoAnnotation)) := by
  intro value annotations read
  refine Json.objectHeld_dictionary_iff read ?_ ?_
  · intro key different
    rw [Dictionary.get?_insert, if_neg different]
  · intro key same
    exact ⟨state.text, by rw [Dictionary.get?_insert, if_pos (not_not.mp same)]⟩

theorem Metadata.kept (state : State) :
    Json.keeping.toReading.Keeps MetadataHeld Metadata.read
      (fun metadata => (metadata.noted state).toJson) (IsRecord Metadata.forms) := by
  intro data metadata reads
  obtain ⟨record, recordRead, reads⟩ := Json.keeping.reads_bind reads
  obtain ⟨name, nameRead, reads⟩ := Json.keeping.reads_bind reads
  obtain ⟨generateName, generateNameRead, reads⟩ := Json.keeping.reads_bind reads
  obtain ⟨space, spaceRead, reads⟩ := Json.keeping.reads_bind reads
  obtain ⟨resourceVersion, resourceVersionRead, reads⟩ := Json.keeping.reads_bind reads
  obtain ⟨labels, labelsRead, reads⟩ := Json.keeping.reads_bind reads
  obtain ⟨annotations, annotationsRead, reads⟩ := Json.keeping.reads_bind reads
  cases Json.keeping.reads_pure reads
  have kept : FieldsKept (heldUnless "annotations" AnnotationsHeld) Json.keeping.Nothing record
      Metadata.forms _ :=
    .cons (.elsewhere (by decide) (.ifText nameRead))
      (.cons (.elsewhere (by decide) (.ifText generateNameRead))
        (.cons (.elsewhere (by decide) (.ifText spaceRead))
          (.cons (.elsewhere (by decide) (.ifText resourceVersionRead))
            (.cons (.elsewhere (by decide) (.always Json.keeps_dictionary labelsRead trivial))
              (.cons (.here (.always (keeps_annotations state) annotationsRead trivial)) .nil)))))
  simpa [MetadataHeld, Metadata.noted, Metadata.toJson] using
    Json.objectHeld_record_iff recordRead kept rfl

theorem kept (state : State) :
    Json.keeping.toReading.Keeps HeldButMemo Run.read
      (fun run => (Watch.noted run state).toJson) (IsRecord forms) := by
  intro data run reads
  obtain ⟨record, recordRead, reads⟩ := Json.keeping.reads_bind reads
  obtain ⟨apiVersion, apiVersionRead, reads⟩ := Json.keeping.reads_bind reads
  obtain ⟨kind, kindRead, reads⟩ := Json.keeping.reads_bind reads
  obtain ⟨metadata, metadataRead, reads⟩ := Json.keeping.reads_bind reads
  obtain ⟨spec, specRead, reads⟩ := Json.keeping.reads_bind reads
  obtain ⟨status, statusRead, reads⟩ := Json.keeping.reads_bind reads
  cases Json.keeping.reads_pure reads
  have kept : FieldsKept (heldUnless "metadata" MetadataHeld) Json.keeping.Nothing record forms _ :=
    .cons (.elsewhere (by decide) (.required .text apiVersionRead))
      (.cons (.elsewhere (by decide) (.required .text kindRead))
        (.cons (.here (.required (Metadata.kept state) metadataRead))
          (.cons (.elsewhere (by decide) (.required Spec.kept specRead))
            (.cons (.elsewhere (by decide) (.ifPresent Status.kept statusRead)) .nil))))
  simpa [HeldButMemo, toJson, Watch.noted, annotate, Metadata.noted] using
    Json.objectHeld_record_iff recordRead kept rfl

end Run

open StagedRuns.Http (Method Request Response Transport)
open StagedRuns.Run (State)

theorem Http.Request.make?_eq_some {method : Method} {address accept : String}
    {query : List (String × String)} {userAgent token : Option String} {body : Option Json}
    {request : Request}
    (made : Request.make? method address query accept userAgent token body = some request) :
    request.method = method ∧ request.body = body := by
  unfold Request.make? at made
  split at made
  · cases made
  · dsimp only at made
    split at made
    · cases made
      exact ⟨rfl, rfl⟩
    · cases made

/-- A way to other services that keeps what was sent. An answer may depend on what was sent
before. -/
def Http.Transport.keeping (answers : List Request → Request → Option Response) :
    Transport (StateM (List Request)) where
  exchange := fun request => do
    let sent ← get
    set (sent ++ [request])
    return answers sent request

namespace Watch

variable (answers : List Request → Request → Option Response) (engine : EngineClient)
  (host : SourceHostClient) (limit : Nat) (counters : Counters) (run : Run) (sent : List Request)

theorem keeping_exchange (request : Request) :
    ((Transport.keeping answers).exchange request).run sent =
      (answers sent request, sent ++ [request]) :=
  rfl

theorem exchange_run {α : Type} (request? : Option Request)
    (read : Response → Client.Outcome α) :
    ∃ outcome, (Client.exchange (.keeping answers) request? read).run sent =
        (outcome, sent ++ request?.toList) ∧
      (request? = none → ∃ problem, outcome = .error problem) := by
  cases request? with
  | none =>
      rw [Option.toList_none, List.append_nil]
      exact ⟨_, Client.exchange_none, fun _ => ⟨_, rfl⟩⟩
  | some request =>
      exact ⟨_, Client.exchange_some (keeping_exchange answers sent request), nofun⟩

theorem call_run {α : Type} (operation : String) (fails : ClientError → Bool)
    (request? : Option Request) (read : Response → Client.Outcome α) :
    ∃ outcome after,
      ((Client.call (.keeping answers) operation fails request? read).run counters).run sent =
        ((outcome, after), sent ++ request?.toList) ∧
      (request? = none → ∃ problem, outcome = .error problem) := by
  obtain ⟨outcome, run, unsent⟩ := exchange_run answers sent request? read
  exact ⟨outcome, _, Client.call_run run, unsent⟩

def statusRequest? (host : SourceHostClient) (notice : Notice) : Option Request :=
  host.request? .post (host.repositoryUrl notice.repository ("statuses/" ++ notice.commit)) []
    "application/vnd.github+json" (some notice.state.report.toJson)

def updateRequest? (engine : EngineClient) (run : Run) : Option Request :=
  run.metadata.name.bind fun name =>
    engine.request? .put (engine.runUrl name) [] (some run.toJson)

theorem updateRequest?_eq_some {engine : EngineClient} {run : Run} {request : Request}
    (made : updateRequest? engine run = some request) :
    request.method = .put ∧ request.body = some run.toJson := by
  obtain ⟨name, _, made⟩ := Option.bind_eq_some_iff.mp made
  exact Http.Request.make?_eq_some made

theorem notify_run_remote (notice : Notice) :
    ∃ timed after,
      (((Backend.remote (.keeping answers) engine host).notify notice).run counters).run sent =
        ((timed, after), sent ++ (statusRequest? host notice).toList) := by
  obtain ⟨outcome, after, done, _⟩ := call_run answers counters sent "create_status"
    (fun error => !error.isNotFound) (statusRequest? host notice)
    (fun response => do
      let _ ← Client.successful response
      .ok ())
  refine ⟨{ delay := 0, value := outcome }, after, ?_⟩
  simp only [Backend.remote, SourceHostClient.createStatus, StateT.run_bind]
  rw [statusRequest?] at done ⊢
  rw [done]
  rfl

theorem update_run_remote :
    ∃ outcome after,
      (((Backend.remote (.keeping answers) engine host).update run).run counters).run sent =
        ((outcome, after), sent ++ (updateRequest? engine run).toList) ∧
      (updateRequest? engine run = none → ∃ problem, outcome = .error problem) := by
  unfold updateRequest?
  cases named : run.metadata.name with
  | none =>
      refine ⟨.error (.invalidRequest "cannot update a run without a name"), counters, ?_,
        fun _ => ⟨_, rfl⟩⟩
      rw [Option.bind_none, Option.toList_none, List.append_nil]
      simp only [Backend.remote, EngineClient.updateRun, named]
      rfl
  | some name =>
      obtain ⟨outcome, after, done, unsent⟩ := call_run answers counters sent "update_pipelinerun"
        (fun _ => true) (engine.request? .put (engine.runUrl name) [] (some run.toJson))
        (Client.readJson Run.ofJson?)
      refine ⟨outcome.map fun _ => (), after, ?_, ?_⟩
      · simp only [Backend.remote, EngineClient.updateRun, EngineClient.call, named,
          StateT.run_bind]
        rw [done]
        rfl
      · intro none
        obtain ⟨problem, rfl⟩ := unsent none
        exact ⟨problem, rfl⟩

/-- A run is updated at most once, and as it was read but for the note of its state. -/
theorem handle_sends :
    ∃ result after requests,
      ((handle (.remote (.keeping answers) engine host) limit run).run counters).run [] =
        ((result, after), requests) ∧
      (∀ state, result = .ok (.notified state) → ∃ request ∈ requests, request.method = .put) ∧
      ∀ request ∈ requests, request.method = .put →
        request.body = some (noted run (State.ofRun run)).toJson := by
  unfold handle
  cases composed : noticeOf run with
  | error problem =>
      refine ⟨.error problem, counters, [], rfl, ?_, ?_⟩
      · simp
      · simp
  | ok notice? =>
      cases notice? with
      | none =>
          refine ⟨.ok (.unchanged (.ofRun run)), counters, [], rfl, ?_, ?_⟩
          · simp
          · simp
      | some notice =>
          have state := (noticeOf_some composed).1
          obtain ⟨timed, between, notified⟩ :=
            notify_run_remote answers engine host counters [] notice
          rw [Client.run_bind notified, List.nil_append]
          -- the report is no PUT, so that the update is the only one
          have posted : ∀ request ∈ (statusRequest? host notice).toList, request.method = .post :=
            fun request made => (Http.Request.make?_eq_some (Option.mem_toList.mp made)).1
          cases timed.within limit with
          | error problem =>
              refine ⟨.error problem, between, (statusRequest? host notice).toList, rfl, ?_, ?_⟩
              · simp
              · intro request inSent put
                cases put.symm.trans (posted request inSent)
          | ok done =>
              obtain ⟨outcome, after, updated, unsent⟩ := update_run_remote answers engine host
                between (noted run notice.state) (statusRequest? host notice).toList
              rw [Client.run_bind updated]
              have whole : ∀ request ∈
                  (statusRequest? host notice).toList ++
                    (updateRequest? engine (noted run notice.state)).toList,
                  request.method = .put →
                    request.body = some (noted run (State.ofRun run)).toJson := by
                intro request inSent put
                rcases List.mem_append.mp inSent with early | late
                · cases put.symm.trans (posted request early)
                · exact state ▸ (updateRequest?_eq_some (Option.mem_toList.mp late)).2
              cases outcome with
              | error problem => exact ⟨.error (.update problem), after, _, rfl, by simp, whole⟩
              | ok updated =>
                  refine ⟨.ok (.notified notice.state), after, _, rfl, ?_, whole⟩
                  intro _ _
                  -- an update succeeds only if something was sent for it
                  cases made : updateRequest? engine (noted run notice.state) with
                  | none =>
                      obtain ⟨problem, failed⟩ := unsent made
                      cases failed
                  | some request =>
                      refine ⟨request, ?_, (updateRequest?_eq_some made).1⟩
                      rw [Option.toList_some]
                      exact List.mem_append_right _ List.mem_cons_self

def handledRemotely : Except WatchError Outcome × List Request :=
  let ((result, _), requests) :=
    ((handle (.remote (.keeping answers) engine host) limit run).run counters).run []
  (result, requests)

def noteIn? (body : Json) : Option Json := do
  let metadata ← body.member? "metadata"
  let annotations ← metadata.member? "annotations"
  annotations.member? Run.memoAnnotation

theorem lookup_ifPresent {α : Type} {key name : String} {encode : α → Json} {value : Option α}
    {members : List (String × Json)} (different : key ≠ name) :
    (Json.ifPresent name encode value ++ members).lookup key = members.lookup key := by
  cases value with
  | none => rfl
  | some given =>
      rw [Json.ifPresent, List.singleton_append, lookup_cons_eq, if_neg different]

theorem noteIn?_noted (state : State) :
    noteIn? (noted run state).toJson = some (.string state.text) := by
  have metadata : (noted run state).toJson.member? "metadata" =
      some (noted run state).metadata.toJson := by
    simp [Run.toJson, Json.member?, lookup_cons_eq]
  have annotations : (noted run state).metadata.toJson.member? "annotations" =
      some (Json.ofDictionary .string (noted run state).metadata.annotations) := by
    unfold Run.Metadata.toJson Json.member?
    simp only [List.append_assoc]
    rw [lookup_ifPresent (by decide), lookup_ifPresent (by decide), lookup_ifPresent (by decide),
      lookup_ifPresent (by decide)]
    simp [lookup_cons_eq]
  have note : (noted run state).annotation? Run.memoAnnotation = some state.text := by
    rw [noted, Run.annotation?_annotate, if_pos rfl]
  unfold noteIn?
  simp only [metadata, annotations, Option.bind_eq_bind, Option.bind_some]
  exact (lookup_map_snd Json.string _ _).trans (congrArg (Option.map Json.string) note)

variable {answers engine host limit counters run}

/-- A run that is reported is updated with a note of its state, and apart from the note all of it as
it was listed is still there exactly if it has the form of a run. -/
theorem updated_keeps_iff_isRecord {listed : Json} (read : Run.ofJson? listed = some run) :
    (∀ state, (handledRemotely answers engine host limit counters run).1 = .ok (.notified state) →
      ∃ request ∈ (handledRemotely answers engine host limit counters run).2,
        request.method = .put) ∧
    ∀ request ∈ (handledRemotely answers engine host limit counters run).2, request.method = .put →
      ∃ body, request.body = some body ∧ noteIn? body = some (.string (State.ofRun run).text) ∧
        (Run.HeldButMemo listed body ↔ IsRecord Run.forms listed) := by
  obtain ⟨result, after, requests, done, updated, whole⟩ :=
    handle_sends answers engine host limit counters run
  unfold handledRemotely
  rw [done]
  refine ⟨updated, ?_⟩
  intro request inSent put
  exact ⟨_, whole request inSent put, noteIn?_noted run _,
    Run.kept (State.ofRun run) listed run read⟩

/-- A run that was never reported, as it is listed when its specification has some more members. -/
def listedWith (more : List (String × Json)) : Json :=
  .object
    [ ("apiVersion", .string "tekton.dev/v1"), ("kind", .string "PipelineRun")
    , ("metadata", .object
        [ ("name", .string "run-a")
        , ("labels", .object [(Run.partOfLabel, .string Run.partOfValue)])
        , ("annotations", .object
            [ (Run.sourceRefAnnotation, .string "6113728")
            , (Run.sourceUrlAnnotation, .string "ssh://host/owner/name.git") ]) ])
    , ("spec", .object (more ++
        [ ("workspaces", .array [])
        , ("pipelineSpec", .object [("workspaces", .array []), ("tasks", .array [])]) ])) ]

def listedRun : Run :=
  { apiVersion := "tekton.dev/v1", kind := "PipelineRun"
    metadata :=
      { Run.Metadata.empty with
        name := some "run-a"
        labels := .ofList [(Run.partOfLabel, Run.partOfValue)]
        annotations := .ofList
          [ (Run.sourceRefAnnotation, "6113728")
          , (Run.sourceUrlAnnotation, "ssh://host/owner/name.git") ] }
    spec := .empty, status := none }

def wellAnswers (_ : List Request) (_ : Request) : Option Response :=
  some
    { status := 200
      content := Text.Utf8.encode
        "\x7b\"apiVersion\":\"\",\"kind\":\"\",\"metadata\":\x7b\x7d,\"spec\":\x7b\x7d\x7d" }

def wellHandled : Except WatchError Outcome × List Request :=
  handledRemotely wellAnswers ⟨"http://[::1]:8001", "ci", none⟩ ⟨"http://[::1]:8002", none⟩ 5000
    .zero listedRun

theorem wellHandled_notified : wellHandled.1 = .ok (.notified .pending) :=
  Result.ok_of_toOption (by decide +kernel)

theorem read_listedWith_nil : Run.ofJson? (listedWith []) = some listedRun := by
  decide +kernel

theorem listedWith_nil_isRecord : IsRecord Run.forms (listedWith []) := by
  have text (content : String) : IsText (.string content) := ⟨content, rfl⟩
  have empty (form : RecordData.Form Json) : IsList form (.array []) :=
    ⟨[], rfl, List.forall_mem_nil _⟩
  have labels : IsDictionary (fun _ => True)
      (.object [(Run.partOfLabel, .string Run.partOfValue)]) := by
    refine ⟨_, rfl, List.forall_mem_singleton.mpr (text _), ?_⟩
    simp
  have annotations : IsDictionary (· ≠ Run.memoAnnotation) (.object
      [ (Run.sourceRefAnnotation, .string "6113728")
      , (Run.sourceUrlAnnotation, .string "ssh://host/owner/name.git") ]) := by
    refine ⟨_, rfl, ?_, ?_⟩
    · rw [List.forall_mem_cons, List.forall_mem_singleton]
      exact ⟨text _, text _⟩
    · simp [Run.sourceRefAnnotation, Run.sourceUrlAnnotation]
  have metadata : IsRecord Run.Metadata.forms (.object
      [ ("name", .string "run-a")
      , ("labels", .object [(Run.partOfLabel, .string Run.partOfValue)])
      , ("annotations", .object
          [ (Run.sourceRefAnnotation, .string "6113728")
          , (Run.sourceUrlAnnotation, .string "ssh://host/owner/name.git") ]) ]) :=
    .cons (.head _) (text _) (.cons (List.mem_of_getElem? (i := 4) rfl) labels
      (.cons (List.mem_of_getElem? (i := 5) rfl) annotations .nil))
  have graph : IsRecord (Run.Graph.forms Json.keeping)
      (.object [("workspaces", .array []), ("tasks", .array [])]) :=
    .cons (List.mem_of_getElem? (i := 1) rfl) (empty _)
      (.cons (List.mem_of_getElem? (i := 2) rfl) (empty _) .nil)
  have spec : IsRecord (Run.Spec.forms Json.keeping) (.object
      [ ("workspaces", .array [])
      , ("pipelineSpec", .object [("workspaces", .array []), ("tasks", .array [])]) ]) :=
    .cons (List.mem_of_getElem? (i := 2) rfl) (empty _)
      (.cons (List.mem_of_getElem? (i := 3) rfl) graph .nil)
  exact .cons (.head _) (text _) (.cons (.tail _ (.head _)) (text _)
    (.cons (List.mem_of_getElem? (i := 2) rfl) metadata
      (.cons (List.mem_of_getElem? (i := 3) rfl) spec .nil)))

theorem listed_kept :
    Run.ofJson? (listedWith []) = some listedRun ∧ wellHandled.1 = .ok (.notified .pending) ∧
      ∃ request ∈ wellHandled.2, request.method = .put ∧
        ∃ body, request.body = some body ∧ Run.HeldButMemo (listedWith []) body := by
  obtain ⟨updated, whole⟩ :=
    @updated_keeps_iff_isRecord wellAnswers ⟨"http://[::1]:8001", "ci", none⟩
      ⟨"http://[::1]:8002", none⟩ 5000 .zero listedRun _ read_listedWith_nil
  obtain ⟨request, inSent, put⟩ := updated .pending wellHandled_notified
  obtain ⟨body, isBody, -, kept⟩ := whole request inSent put
  exact ⟨read_listedWith_nil, wellHandled_notified, request, inSent, put, body, isBody,
    kept.mpr listedWith_nil_isRecord⟩

def timeouts : String × Json :=
  ("timeouts", .object [("pipeline", .string "1h0m0s")])

theorem read_listedWith_timeouts : Run.ofJson? (listedWith [timeouts]) = some listedRun := by
  decide +kernel

theorem listedWith_timeouts_not_isRecord : ¬ IsRecord Run.forms (listedWith [timeouts]) := by
  intro listed
  obtain ⟨form, known, spec⟩ := listed.member (.tail _ (.tail _ (.tail _ (.head _))))
  obtain rfl : form = IsRecord (Run.Spec.forms Json.keeping) := by
    simpa [Run.forms] using known
  obtain ⟨form, known, -⟩ := spec.member (.head _)
  simp [Run.Spec.forms] at known

/-- A run that is listed with a time limit is updated without it. -/
theorem timeouts_dropped :
    Run.ofJson? (listedWith [timeouts]) = some listedRun ∧
      wellHandled.1 = .ok (.notified .pending) ∧
      ∃ request ∈ wellHandled.2, request.method = .put ∧
        ∃ body, request.body = some body ∧ ¬ Run.HeldButMemo (listedWith [timeouts]) body := by
  obtain ⟨result, after, requests, done, updated, whole⟩ :=
    handle_sends wellAnswers ⟨"http://[::1]:8001", "ci", none⟩ ⟨"http://[::1]:8002", none⟩ 5000
      .zero listedRun
  have handled : wellHandled = (result, requests) := by
    rw [wellHandled, handledRemotely, done]
  have notified := wellHandled_notified
  rw [handled] at notified ⊢
  obtain ⟨request, inSent, put⟩ := updated .pending notified
  refine ⟨read_listedWith_timeouts, notified, request, inSent, put, _,
    whole request inSent put, ?_⟩
  rw [Run.kept _ _ _ read_listedWith_timeouts]
  exact listedWith_timeouts_not_isRecord

end Watch

end StagedRuns
