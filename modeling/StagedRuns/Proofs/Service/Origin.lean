import StagedRuns.Proofs.Definition.Submission
import StagedRuns.Proofs.Dictionary
import StagedRuns.Proofs.Expr.Depth
import StagedRuns.Proofs.Plan.Distinct
import StagedRuns.Proofs.Service.Calls
import StagedRuns.Proofs.Url.Clone
import StagedRuns.Proofs.Watch.History

/-!
Where the state of a run is reported to. A run is created for the commit of an event: its file was
fetched at that commit, its expressions see it, its checkout checks it out, and the watcher reports
every state of it for that commit in the repository of the event.
-/

namespace StagedRuns

open StagedRuns.Webhook (Context Event)

theorem Watch.needed_of_annotation? {run : Run} {key value : String}
    (found : run.annotation? key = some value) (occupied : value ≠ "") :
    Watch.needed run key = .ok value := by
  have kept : (run.annotation? key).filter (· ≠ "") = some value := by
    rw [found]
    simp [occupied]
  rw [Watch.needed, kept]

/-! ### Labels and annotations -/

/-- Whether labels match a selector that asks for one value of one key. -/
def Run.Selects (selector : String) (labels : Dictionary String) : Prop :=
  ∃ key value, selector = key ++ "=" ++ value ∧ '=' ∉ key.toList ∧ '=' ∉ value.toList ∧
    labels.get? key = some value

namespace Run

variable (component generateName : String) (spec : Spec) (source : Source) (hookId : String)

theorem new_correlate_selected :
    Selects labelSelector
      (((new component generateName spec).correlate source hookId).metadata.labels) :=
  ⟨partOfLabel, partOfValue, rfl, by decide, by decide, correlate_partOf⟩

end Run

/-! ### The commit that expressions see -/

namespace Webhook.Context

open StagedRuns.Expr (Tree Value)

/-- Whether the commit that expressions can name is the given one, wherever they name it. -/
def Sees (context : Context) (commit : String) : Prop :=
  context.evaluate "vars.CI_COMMIT_SHA" = .ok (.text commit) ∧
    ∀ depth, depth + 2 ≤ Expr.maxEvaluationDepth →
      Expr.evaluate context.bindings (.member (.name "vars") "CI_COMMIT_SHA") depth =
        (.ok (.text commit), depth)

theorem variablesOf_commit (event : Event) :
    (variablesOf event).get? "CI_COMMIT_SHA" = some event.commitSha := by
  cases event <;>
  · simp only [variablesOf, Dictionary.ofList, List.foldl_cons, List.foldl_nil]
    rw [Dictionary.get?_insert, if_neg (by decide), Dictionary.get?_insert, if_neg (by decide),
      Dictionary.get?_insert, if_pos rfl]
    rfl

theorem ofTexts_select {texts : Dictionary String} {key content : String}
    (found : texts.get? key = some content) :
    (Value.ofTexts texts).select key = (pure (.text content) : Expr.Metered Value) := by
  have entry : (texts.toList.map fun entry => (entry.1, Value.text entry.2)).lookup key =
      some (.text content) := by
    rw [lookup_map_snd]
    exact congrArg (Option.map Value.text) found
  unfold Value.ofTexts Value.select
  dsimp only
  rw [entry]

theorem nested_shallow {body : Expr.Metered Value} {depth : Nat}
    (shallow : depth + 1 ≤ Expr.maxEvaluationDepth) :
    Expr.nested body depth = ((body (depth + 1)).1, depth) := by
  rw [Expr.nested, if_neg (by omega)]

theorem ofEvent_vars (event : Event) {depth : Nat}
    (shallow : depth + 1 ≤ Expr.maxEvaluationDepth) :
    Expr.evaluate (ofEvent event).bindings (.name "vars") depth =
      (.ok (Value.ofTexts (variablesOf event)), depth) := by
  rw [Expr.evaluate, nested_shallow shallow]
  rfl

theorem ofEvent_commit (event : Event) {depth : Nat}
    (shallow : depth + 2 ≤ Expr.maxEvaluationDepth) :
    Expr.evaluate (ofEvent event).bindings (.member (.name "vars") "CI_COMMIT_SHA") depth =
      (.ok (.text event.commitSha), depth) := by
  have object := ofEvent_vars event (show depth + 1 + 1 ≤ Expr.maxEvaluationDepth from shallow)
  rw [Expr.evaluate, nested_shallow (by omega), Expr.metered_bind object,
    ofTexts_select (variablesOf_commit event)]
  rfl

theorem ofEvent_sees (event : Event) : (ofEvent event).Sees event.commitSha := by
  refine ⟨?_, fun depth shallow => ofEvent_commit event shallow⟩
  have scanned : Expr.scan "vars.CI_COMMIT_SHA" =
      .ok [.name "vars", .dot, .name "CI_COMMIT_SHA", .endOfInput] := by
    decide +kernel
  have parsed : Expr.parse "vars.CI_COMMIT_SHA" =
      .ok (.member (.name "vars") "CI_COMMIT_SHA") := by
    rw [Expr.parse, scanned, Result.ok_bind]
    rfl
  have evaluated := ofEvent_commit event (show 0 + 2 ≤ Expr.maxEvaluationDepth by decide)
  unfold evaluate Expr.value
  rw [parsed]
  dsimp only
  rw [ExceptT.run, evaluated]

end Webhook.Context

/-! ### The checkout -/

namespace Plan

open StagedRuns.Run (Node)

def argument? (flag : String) : List String → Option String
  | given :: value :: rest =>
      if given = flag then some value else argument? flag (value :: rest)
  | _ => none

def ChecksOut (node : Node) (commit : String) : Prop :=
  ∃ spec step, node.taskSpec = some spec ∧ spec.steps = [step] ∧
    argument? "-revision" step.command = some commit

theorem checkoutNode_checksOut {env : List Run.Variable} {source : Source}
    (addressed : source.repoUrl ≠ "-revision") :
    ChecksOut (checkoutNode env source) source.gitRef := by
  refine ⟨_, _, rfl, rfl, ?_⟩
  simp [argument?, addressed]

namespace Frame

variable {frame : Frame}

theorem eq_checkout_of_name {source : Source} {nodes : List Planned}
    (planned : frame.nodes source = .ok nodes) {node : Planned} (member : node ∈ nodes)
    (named : node.node.name = checkoutName) : node.node = checkoutNode frame.env source := by
  obtain ⟨staged, last, given, rfl⟩ := nodes_ok.mp planned
  rcases List.mem_append.mp member with front | inAfter
  · rcases List.mem_append.mp front with first | inStages
    · rcases List.mem_cons.mp first with rfl | inBefore
      · rfl
      · rw [(scripted_named inBefore).2] at named
        exact absurd named (by decide)
    · -- The names of tasks' nodes have a part that the name of the checkout has not.
      have listed : checkoutName ∈ staged.map (·.node.name) :=
        named ▸ List.mem_map_of_mem inStages
      rw [stages_nodeNames given] at listed
      obtain ⟨stage, _, ofStage⟩ := List.mem_flatMap.mp listed
      obtain ⟨task, _, _, _, ofTask⟩ := mem_stageNames.mp ofStage
      have own : ownName? .checkout = some checkoutName := rfl
      exact absurd (stage_infix_nodeNames ofTask) (not_stage_infix_own own)
  · rw [(scripted_named inAfter).2] at named
    exact absurd named (by decide)

end Frame

end Plan

/-! ### Origins -/

namespace Delivery

/-- Whether a run was made from the content of a file, with a context for its expressions. -/
def MadeFrom (file : DeliveryFile) (settings : ServiceSettings) (delivery : Delivery)
    (event : Event) (content : List UInt8) (context : Context) (run : Run) : Prop :=
  match file with
  | .pipeline => ∃ pipeline claim, readPipeline content = .ok pipeline ∧
      pipeline.plan settings.plan (source event) claim (some context) delivery.id = .ok run
  | .definition => ∃ definition, readDefinition content = .ok definition ∧
      definition.execute context settings.plan.runPrefix (source event) delivery.id =
        .ok (some run)

/-- Whether a run is for the commit of an event, all the way from the calls it was created with to
the reports of its state. -/
structure Originates (file : DeliveryFile) (settings : ServiceSettings) (delivery : Delivery)
    (event : Event) (calls : List Call) (run : Run) : Prop where
  selected : Run.Selects Run.labelSelector run.metadata.labels
  annotated : run.annotation? Run.sourceRefAnnotation = some event.commitSha
  made : ∃ content context, fetching file settings event (.ok content) ∈ calls ∧
    context.Sees event.commitSha ∧ MadeFrom file settings delivery event content context run
  fetchedAt : ∀ repository path ref answer,
    Call.fileContents repository path ref answer ∈ calls →
      repository = event.repository.fullName ∧ ref = event.commitSha
  checkedOut : file = .pipeline →
    (∃ node ∈ run.spec.graph.nodes, node.name = Plan.checkoutName) ∧
      ∀ node ∈ run.spec.graph.nodes, node.name = Plan.checkoutName →
        Plan.ChecksOut node event.commitSha
  reported : ∀ later : Run,
    later.annotation? Run.sourceUrlAnnotation = run.annotation? Run.sourceUrlAnnotation →
      later.annotation? Run.sourceRefAnnotation = run.annotation? Run.sourceRefAnnotation →
        later.memo? ≠ some (Run.State.ofRun later) →
          ∀ limit answers store, (Watch.handleStored limit answers store later).calls.head? =
            some (.notify ⟨event.repository.fullName, event.commitSha, .ofRun later⟩
              answers.notify)

def Call.creates : Call → Bool
  | .createRun _ _ => true
  | _ => false

variable {file : DeliveryFile} {settings : ServiceSettings} {answers : Answers}
  {delivery : Delivery} {event : Event} {content : List UInt8} {run : Run}

theorem MadeFrom.correlated {context : Context}
    (made : MadeFrom file settings delivery event content context run) :
    ∃ component generateName spec,
      run = (Run.new component generateName spec).correlate (source event) delivery.id := by
  cases file with
  | pipeline =>
      obtain ⟨pipeline, claim, _, planned⟩ := made
      obtain ⟨nodes, _, same⟩ := Result.bind_eq_ok.mp planned
      cases same
      exact ⟨_, _, _, rfl⟩
  | definition =>
      obtain ⟨definition, _, executed⟩ := made
      obtain ⟨bound, _, same⟩ := Definition.execute_ok executed
      exact ⟨_, _, _, same⟩

theorem madeFrom_of_course {before calls : List Call} {result : Except DeliveryError (Option Run)}
    {answer : Except ClientError Run}
    (course : MakingCourse settings answers delivery event content before file result calls)
    (created : .createRun run answer ∈ calls) :
    MadeFrom file settings delivery event content (.ofEvent event) run := by
  cases file with
  | pipeline =>
      obtain ⟨made, _, course⟩ := course
      cases course with
      | unreadable => cases created
      | unclaimed | unplanned =>
          cases List.mem_singleton.mp created
      | planned read _ planned =>
          rcases List.mem_cons.mp created with impossible | atEnd
          · cases impossible
          · cases List.mem_singleton.mp atEnd
            exact ⟨_, _, read, planned⟩
  | definition =>
      cases course with
      | unreadable | undecided | filtered => cases created
      | executed read executed =>
          cases List.mem_singleton.mp created
          exact ⟨_, read, executed⟩

theorem not_fetching_of_course {before calls : List Call}
    {result : Except DeliveryError (Option Run)}
    (course : MakingCourse settings answers delivery event content before file result calls)
    {repository path ref : String} {answer : Except ClientError (List UInt8)} :
    .fileContents repository path ref answer ∉ calls := by
  intro member
  cases file with
  | pipeline =>
      obtain ⟨made, _, course⟩ := course
      cases course <;> simp at member
  | definition => cases course <;> simp at member

/-- A run is created only at the end of a delivery whose file was fetched for it. -/
theorem exists_making_of_created {counters : Counters} {answer : Except ClientError Run}
    (received : Event.parse delivery.kind delivery.payload = .ok event)
    (created : .createRun run answer ∈ (handled file settings answers counters delivery).calls) :
    ∃ content result calls,
      (handled file settings answers counters delivery).calls =
        fetching file settings event (.ok content) :: calls ∧
      MakingCourse settings answers delivery event content
        [fetching file settings event (.ok content)] file result calls ∧
      .createRun run answer ∈ calls := by
  have course := handled_course file settings answers counters delivery
  generalize handled file settings answers counters delivery = outcome at course created ⊢
  cases course with
  | refused | ignored => cases created
  | unfetched | declined => cases List.mem_singleton.mp created
  | @made other content result calls receivedOther _ _ _ making =>
      cases receivedOther.symm.trans received
      refine ⟨content, result, calls, rfl, making, ?_⟩
      rcases List.mem_cons.mp created with impossible | inCalls
      · cases impossible
      · exact inCalls

/-- The state of a run with these annotations is reported for the commit in the repository. -/
theorem noticeOf_origin {host owner name commit : String} {found : Url.Host} {later : Run}
    (hosted : Url.Host.special? host.toList = some found) (owned : Watch.IsName owner)
    (named : Watch.IsName name) (committed : commit ≠ "")
    (address : later.annotation? Run.sourceUrlAnnotation =
      some (Watch.cloneAddress host owner name))
    (ref : later.annotation? Run.sourceRefAnnotation = some commit)
    (unreported : later.memo? ≠ some (Run.State.ofRun later)) :
    Watch.noticeOf later = .ok (some ⟨owner ++ "/" ++ name, commit, .ofRun later⟩) := by
  have addressed : Watch.cloneAddress host owner name ≠ "" := by
    simp [Watch.cloneAddress]
  have composed : Watch.noticeFor later =
      .ok ⟨owner ++ "/" ++ name, commit, .ofRun later⟩ := by
    unfold Watch.noticeFor
    rw [Watch.needed_of_annotation? address addressed, Result.ok_bind,
      Watch.repositoryOf?_cloneAddress hosted owned named,
      Watch.needed_of_annotation? ref committed]
    rfl
  rw [Watch.noticeOf, if_neg unreported, composed]
  rfl

theorem head?_calls_of_noticeOf {later : Run} {notice : Watch.Notice} (limit : Nat)
    (answers : Watch.Answers) (store : Watch.Store)
    (called : Watch.noticeOf later = .ok (some notice)) :
    (Watch.handleStored limit answers store later).calls.head? =
      some (.notify notice answers.notify) := by
  unfold Watch.handleStored Watch.handle
  rw [called]
  simp only [StateT.run_bind, Watch.notify_run, pure_bind, List.nil_append]
  cases sent : answers.notify.within limit with
  | error problem => rfl
  | ok =>
      simp only [StateT.run_bind, Watch.update_run, pure_bind]
      cases answers.update <;> rfl

/-- Every run that is created for a delivery is for the commit of its event. -/
theorem created_originates {counters : Counters} {answer : Except ClientError Run}
    {host owner name : String} {found : Url.Host}
    (received : Event.parse delivery.kind delivery.payload = .ok event)
    (fullName : event.repository.fullName = owner ++ "/" ++ name)
    (cloneUrl : event.repository.cloneUrl = Watch.cloneAddress host owner name)
    (hosted : Url.Host.special? host.toList = some found) (owned : Watch.IsName owner)
    (named : Watch.IsName name) (committed : event.commitSha ≠ "")
    (created : .createRun run answer ∈ (handled file settings answers counters delivery).calls) :
    Originates file settings delivery event (handled file settings answers counters delivery).calls
      run := by
  obtain ⟨content, result, calls, whole, making, inCalls⟩ :=
    exists_making_of_created received created
  have made := madeFrom_of_course making inCalls
  obtain ⟨component, generateName, spec, correlated⟩ := made.correlated
  rw [whole]
  constructor
  · rw [correlated]
    exact Run.new_correlate_selected component generateName spec (source event) delivery.id
  · rw [correlated]
    exact Run.correlate_sourceRef _
  · exact ⟨content, .ofEvent event, List.mem_cons_self, Context.ofEvent_sees event, made⟩
  · intro repository path ref answer member
    rcases List.mem_cons.mp member with same | inRest
    · cases same
      exact ⟨rfl, rfl⟩
    · exact absurd inRest (not_fetching_of_course making)
  · rintro rfl
    obtain ⟨pipeline, claim, _, planned⟩ := made
    obtain ⟨nodes, given, same⟩ := Pipeline.plan_ok planned
    have addressed : (source event).repoUrl ≠ "-revision" := by
      intro flag
      have scheme := congrArg (·.toList.head?) (cloneUrl.symm.trans flag)
      simp [Watch.cloneAddress] at scheme
    rw [same]
    constructor
    · obtain ⟨staged, last, _, rfl⟩ := Plan.Frame.nodes_ok.mp given
      exact ⟨_, List.mem_map_of_mem List.mem_cons_self, rfl⟩
    · intro node member called
      obtain ⟨planned, present, rfl⟩ := List.mem_map.mp member
      rw [Plan.Frame.eq_checkout_of_name given present called]
      exact Plan.checkoutNode_checksOut addressed
  · intro later sameUrl sameRef unreported limit answers store
    rw [correlated, Run.correlate_sourceUrl] at sameUrl
    rw [correlated, Run.correlate_sourceRef] at sameRef
    rw [fullName]
    exact head?_calls_of_noticeOf limit answers store
      (noticeOf_origin hosted owned named committed (cloneUrl ▸ sameUrl) sameRef unreported)

def samplePush : Delivery :=
  { kind := "push", id := "delivery"
    payload := Text.Utf8.encode
      ("\x7b\"ref\": \"refs/heads/main\", \"repository\": \x7b\"name\": \"shop\", " ++
        "\"full_name\": \"owner/shop\", \"clone_url\": \"https://[::1]/owner/shop.git\"\x7d, " ++
          "\"head_commit\": \x7b\"id\": \"6113728\", \"message\": \"\"\x7d\x7d") }

def samplePushEvent : Event :=
  .push
    { ref := "refs/heads/main", before := "", after := ""
      repository :=
        { name := "shop", fullName := "owner/shop", cloneUrl := "https://[::1]/owner/shop.git"
          htmlUrl := "", defaultBranch := "" }
      headCommit := some { id := "6113728", message := "" }, sender := none }

def sampleAnswers : Answers :=
  { fileContents := fun _ _ _ _ =>
      .ok (Text.Utf8.encode "image: alpine\nbuild:\n  script:\n    - make\n")
    createVolume := fun _ _ => .ok "claim"
    createRun := fun _ run => .ok run }

def sampleHandled : Handled :=
  handled .pipeline default sampleAnswers .zero samplePush

theorem samplePush_originates :
    ∃ run answer, .createRun run answer ∈ sampleHandled.calls ∧
      Originates .pipeline default samplePush samplePushEvent sampleHandled.calls run := by
  have received : Event.parse samplePush.kind samplePush.payload = .ok samplePushEvent := by
    decide +kernel
  have hosted : Url.Host.special? "[::1]".toList = some (.ipv6 [0, 0, 0, 0, 0, 0, 0, 1]) := by
    decide +kernel
  have owned : Watch.IsName "owner" :=
    ⟨by decide, List.all_iff_forall_prop.mp (by decide), by decide, by decide⟩
  have named : Watch.IsName "shop" :=
    ⟨by decide, List.all_iff_forall_prop.mp (by decide), by decide, by decide⟩
  have creates : sampleHandled.calls.any Call.creates = true := by
    decide +kernel
  obtain ⟨call, created, isCreation⟩ := List.any_eq_true.mp creates
  cases call with
  | fileContents | createVolume => cases isCreation
  | createRun run answer =>
      exact ⟨run, answer, created,
        created_originates received rfl (by decide) hosted owned named (by decide) created⟩

end Delivery

end StagedRuns
