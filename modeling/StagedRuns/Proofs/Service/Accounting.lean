import StagedRuns.Proofs.Counters
import StagedRuns.Proofs.Service.Origin
import StagedRuns.Service.Router

/-!
The account of the deliveries that were sent to a service. Each of them is counted once, its calls
come in one order and stop at some point, and whether the reply is a run, empty or an error tells how
far they went.
-/

namespace StagedRuns

open StagedRuns.Router (Reply Request)
open StagedRuns.Webhook (Commit Context Event PullRequestAction Push)

namespace Delivery

/-- A call without what it is answered, and without the run that is to be created. -/
inductive Ask where
  | fetch (repository path ref : String)
  | claim (size : String)
  | create
deriving DecidableEq, Repr

def Call.ask : Call → Ask
  | .fileContents repository path ref _ => .fetch repository path ref
  | .createVolume size _ => .claim size
  | .createRun _ _ => .create

def makingScript (settings : ServiceSettings) : DeliveryFile → List Ask
  | .pipeline => [.claim settings.plan.volumeSize, .create]
  | .definition => [.create]

def script (file : DeliveryFile) (settings : ServiceSettings) (event : Event) : List Ask :=
  .fetch event.repository.fullName (pathOf settings file) event.commitSha ::
    makingScript settings file

/-- Why a delivery that is well makes no run. -/
inductive Quiet (file : DeliveryFile) (settings : ServiceSettings) (event : Event)
    (calls : List Call) : Prop
  | ignored {action : PullRequestAction} (kind : event = .pullRequest action)
      (ofPipeline : file = .pipeline) : Quiet file settings event calls
  | missing {problem : ClientError} (unfetched : fetching file settings event (.error problem) ∈ calls)
      (gone : (∃ what, problem = .notFound what) ∨ ∃ reason, problem = .api 404 reason) :
      Quiet file settings event calls
  | skipped {push : Push} {commit : Commit} {content : List UInt8} (kind : event = .push push)
      (ofPipeline : file = .pipeline) (fetched : fetching file settings event (.ok content) ∈ calls)
      (head : push.headCommit = some commit)
      (marked : "[ci skip]".toList <:+: commit.message.toList ∨
        "[skip ci]".toList <:+: commit.message.toList) : Quiet file settings event calls
  | filtered {definition : Definition} {content : List UInt8} (ofDefinition : file = .definition)
      (fetched : fetching file settings event (.ok content) ∈ calls)
      (read : readDefinition content = .ok definition) (given : definition.filter ≠ "")
      (fails : (Context.ofEvent event).evaluate definition.filter = .ok (.bool false)) :
      Quiet file settings event calls

theorem occursIn_iff {part text : List Char} : occursIn part text ↔ part <:+: text := by
  induction text with
  | nil => rw [occursIn, List.isEmpty_iff, List.infix_nil]
  | cons c rest ih =>
      rw [occursIn, Bool.or_eq_true, List.isPrefixOf_iff_prefix, ih, List.infix_cons_iff]

theorem skips_iff {push : Push} :
    skips push ↔ ∃ commit, push.headCommit = some commit ∧
      ("[ci skip]".toList <:+: commit.message.toList ∨
        "[skip ci]".toList <:+: commit.message.toList) := by
  unfold skips skipMarkers Push.commitMessage
  cases push.headCommit with
  | none => simp [occursIn]
  | some commit => simp [occursIn_iff]

theorem isNotFound_iff {problem : ClientError} :
    problem.isNotFound ↔
      (∃ what, problem = .notFound what) ∨ ∃ reason, problem = .api 404 reason := by
  cases problem <;> simp [ClientError.isNotFound]

section Handled

variable {file : DeliveryFile} {settings : ServiceSettings} {answers : Answers}
  {counters : Counters} {delivery : Delivery} {event : Event} {content : List UInt8}
  {before calls : List Call} {result : Except DeliveryError (Option Run)} {outcome : Handled}
  {run : Run}

theorem ignores_iff :
    ignores file event ↔ file = .pipeline ∧ ∃ action, event = .pullRequest action := by
  cases file <;> cases event <;> simp [ignores]

theorem declines_iff :
    declines file event ↔ file = .pipeline ∧ ∃ push, event = .push push ∧ skips push := by
  cases file <;> cases event <;> simp [declines]

theorem MakingCourse.asks
    (course : MakingCourse settings answers delivery event content before file result calls) :
    calls.map Call.ask <+: makingScript settings file := by
  cases file with
  | pipeline =>
      obtain ⟨made, _, course⟩ := course
      cases course with
      | unreadable => exact List.nil_prefix
      | unclaimed | unplanned => exact ⟨[.create], rfl⟩
      | planned => exact List.prefix_rfl
  | definition =>
      cases course with
      | unreadable | undecided | filtered => exact List.nil_prefix
      | executed => exact List.prefix_rfl

theorem MakingCourse.result_run
    (course : MakingCourse settings answers delivery event content before file result calls) :
    result = .ok (some run) ↔ ∃ asked, .createRun asked (.ok run) ∈ calls := by
  cases file with
  | pipeline =>
      obtain ⟨made, rfl, course⟩ := course
      cases course with
      | unreadable | unclaimed | unplanned => simp [Except.map]
      | @planned pipeline claim asked answer =>
          cases answer <;> simp [Except.map, Except.mapError, eq_comm]
  | definition =>
      cases course with
      | unreadable | undecided | filtered => simp
      | @executed definition asked answer =>
          cases answer <;> simp [Except.map, Except.mapError, eq_comm]

theorem MakingCourse.result_none
    (course : MakingCourse settings answers delivery event content before file result calls) :
    result = .ok none ↔ file = .definition ∧ ∃ definition,
      readDefinition content = .ok definition ∧ definition.Refuses (.ofEvent event) := by
  cases file with
  | pipeline =>
      obtain ⟨made, rfl, _⟩ := course
      cases made <;> simp [Except.map]
  | definition =>
      cases course with
      | unreadable failed => simp [failed]
      | @undecided definition problem read failed =>
          have passes : ¬definition.Refuses (.ofEvent event) := fun refuses =>
            nomatch failed.symm.trans
              (Definition.execute_none.mpr (Definition.passes_eq_false.mpr refuses))
          simp [read, passes]
      | filtered read executed =>
          simp [read, Definition.passes_eq_false.mp (Definition.execute_none.mp executed)]
      | @executed definition asked answer read executed =>
          have passes : ¬definition.Refuses (.ofEvent event) := fun refuses =>
            nomatch executed.symm.trans
              (Definition.execute_none.mpr (Definition.passes_eq_false.mpr refuses))
          cases answer <;> simp [read, passes, Except.map, Except.mapError]

theorem Course.calls_of_refused {problem : Webhook.PayloadError}
    (course : Course file settings answers counters delivery outcome)
    (wrong : Event.parse delivery.kind delivery.payload = .error problem) : outcome.calls = [] := by
  cases course with
  | refused => rfl
  | ignored received | unfetched received | declined received | made received =>
      cases received.symm.trans wrong

theorem Course.asks (course : Course file settings answers counters delivery outcome)
    (received : Event.parse delivery.kind delivery.payload = .ok event) :
    outcome.calls.map Call.ask <+: script file settings event := by
  cases course with
  | refused wrong => cases wrong.symm.trans received
  | ignored => exact List.nil_prefix
  | unfetched again | declined again =>
      cases again.symm.trans received
      exact ⟨makingScript settings file, rfl⟩
  | made again _ _ _ making =>
      cases again.symm.trans received
      exact (List.prefix_cons_inj _).mpr making.asks

theorem Course.result_run (course : Course file settings answers counters delivery outcome) :
    outcome.result = .ok (some run) ↔ ∃ asked, .createRun asked (.ok run) ∈ outcome.calls := by
  cases course with
  | refused | ignored | declined => simp [fetching]
  | @unfetched event problem =>
      cases problem.isNotFound <;> simp [fetching]
  | made _ _ _ _ making =>
      rw [making.result_run]
      simp [fetching]

theorem Course.result_none (course : Course file settings answers counters delivery outcome)
    (received : Event.parse delivery.kind delivery.payload = .ok event) :
    outcome.result = .ok none ↔ Quiet file settings event outcome.calls := by
  cases course with
  | refused wrong => cases wrong.symm.trans received
  | ignored again ignored =>
      cases again.symm.trans received
      obtain ⟨ofPipeline, action, kind⟩ := ignores_iff.mp ignored
      exact iff_of_true rfl (.ignored kind ofPipeline)
  | declined again _ _ declined =>
      cases again.symm.trans received
      obtain ⟨ofPipeline, push, kind, skips⟩ := declines_iff.mp declined
      obtain ⟨commit, head, marked⟩ := skips_iff.mp skips
      exact iff_of_true rfl (.skipped kind ofPipeline List.mem_cons_self head marked)
  | @unfetched _ problem again wanted =>
      cases again.symm.trans received
      cases gone : problem.isNotFound with
      | true => exact iff_of_true rfl (.missing List.mem_cons_self (isNotFound_iff.mp gone))
      | false =>
          refine iff_of_false nofun ?_
          intro quiet
          cases quiet with
          | ignored kind ofPipeline =>
              cases wanted.symm.trans (ignores_iff.mpr ⟨ofPipeline, _, kind⟩)
          | missing unfetched there =>
              cases List.mem_singleton.mp unfetched
              cases gone.symm.trans (isNotFound_iff.mpr there)
          | skipped _ _ fetched | filtered _ fetched => cases List.mem_singleton.mp fetched
  | @made _ content result calls again wanted _ accepted making =>
      cases again.symm.trans received
      -- the file is fetched once, so its answer is the one that the run was made from
      have only : ∀ answer, fetching file settings event answer ∈
          fetching file settings event (.ok content) :: calls → answer = .ok content := by
        intro answer member
        rcases List.mem_cons.mp member with same | inCalls
        · cases same
          rfl
        · exact absurd inCalls (not_fetching_of_course making)
      rw [making.result_none]
      constructor
      · rintro ⟨ofDefinition, definition, read, given, fails⟩
        exact .filtered ofDefinition List.mem_cons_self read given fails
      · intro quiet
        cases quiet with
        | ignored kind ofPipeline =>
            cases wanted.symm.trans (ignores_iff.mpr ⟨ofPipeline, _, kind⟩)
        | missing unfetched => cases only _ unfetched
        | skipped kind ofPipeline _ head marked =>
            have skips := skips_iff.mpr ⟨_, head, marked⟩
            cases accepted.symm.trans (declines_iff.mpr ⟨ofPipeline, _, kind, skips⟩)
        | filtered ofDefinition fetched read given fails =>
            cases only _ fetched
            exact ⟨ofDefinition, _, read, given, fails⟩

/-- At most the file was asked for if there is neither a run nor an error. -/
theorem Course.asks_of_none (course : Course file settings answers counters delivery outcome)
    (received : Event.parse delivery.kind delivery.payload = .ok event)
    (none : outcome.result = .ok none) :
    outcome.calls.map Call.ask =
      (script file settings event).take (if ignores file event then 0 else 1) := by
  cases course with
  | refused => cases none
  | ignored again ignored =>
      cases again.symm.trans received
      rw [if_pos ignored]
      rfl
  | unfetched again wanted | declined again wanted =>
      cases again.symm.trans received
      rw [wanted]
      rfl
  | @made _ _ _ calls again wanted _ _ making =>
      cases again.symm.trans received
      obtain ⟨rfl, definition, read, fails⟩ := making.result_none.mp none
      have ended : calls = [] := by
        cases making with
        | unreadable failed => cases failed.symm.trans read
        | undecided | filtered => rfl
        | @executed _ _ answer => cases answer <;> cases none
      rw [wanted, ended]
      rfl

/-- A delivery is counted once, under the kind of its event or as invalid. -/
theorem Course.counted (course : Course file settings answers counters delivery outcome) :
    outcome.counters =
      match Event.parse delivery.kind delivery.payload with
      | .ok event => counters.countHook event.kind
      | .error _ => counters.countInvalidHook := by
  cases course with
  | refused wrong => rw [wrong]
  | ignored received | unfetched received | declined received | made received => rw [received]

end Handled

end Delivery

/-! ### Requests -/

def DeliveryFile.route : DeliveryFile → Router.Route
  | .pipeline => .pipeline
  | .definition => .definition

namespace Router

open StagedRuns.Delivery

/-- A request for a file, the answers to the calls that it leads to, and the operations that those who
answer count as called and as failed. -/
structure Visit where
  file : DeliveryFile
  request : Request
  answers : Answers
  called : List String
  failed : List String

structure Served where
  visit : Visit
  reply : Reply
  calls : List Call

namespace Visit

structure Delivers (visit : Visit) : Prop where
  posted : visit.request.method = "POST"
  addressed : route? visit.request.target = some visit.file.route
  short : visit.request.body.length ≤ maxBodyLength

def event? (visit : Visit) : Option Event :=
  (Event.parse (delivery visit.request).kind visit.request.body).toOption

def counting (visit : Visit) (counters : Counters) : Counters :=
  visit.failed.foldl Counters.countFailedCall (visit.called.foldl Counters.countCall counters)

def serve (settings : ServiceSettings) (counters : Counters) (visit : Visit) :
    Served × Counters :=
  let (reply, world) :=
    (Router.reply settings visit.answers.backend visit.request).run { counters, calls := [] }
  ({ visit, reply, calls := world.calls }, visit.counting world.counters)

end Visit

def serveAll (settings : ServiceSettings) : Counters → List Visit → List Served × Counters
  | counters, [] => ([], counters)
  | counters, visit :: visits =>
      let (served, between) := visit.serve settings counters
      let (rest, last) := serveAll settings between visits
      (served :: rest, last)

/-- Whether the calls and the reply of a visit fit together, and its event if it has one. -/
structure Served.Accounted (settings : ServiceSettings) (served : Served) : Prop where
  refused : served.visit.event? = none → served.calls = []
  asks : ∀ event, served.visit.event? = some event →
    served.calls.map Call.ask <+: script served.visit.file settings event
  created : ∀ asked run, .createRun asked (.ok run) ∈ served.calls →
    served.reply = .json 200 run.toJson
  run : (∃ run : Run, served.reply = .json 200 run.toJson) ↔
    ∃ asked run, .createRun asked (.ok run) ∈ served.calls
  empty : served.reply = .bare 200 ↔
    ∃ event, served.visit.event? = some event ∧
      Quiet served.visit.file settings event served.calls
  least : served.reply = .bare 200 → ∀ event, served.visit.event? = some event →
    served.calls.map Call.ask = (script served.visit.file settings event).take
      (if ignores served.visit.file event then 0 else 1)
  error : (∃ error : DeliveryError,
      served.reply = .json 500 (.object [("error", .string error.message)])) ↔
    (¬∃ run : Run, served.reply = .json 200 run.toJson) ∧ served.reply ≠ .bare 200

structure Counted (visits : List Visit) (before after : Counters) : Prop where
  invalid : after.get .invalidHooks "" =
    before.get .invalidHooks "" + visits.countP (·.event? = none)
  total : after.total .hooks = before.total .hooks + visits.countP (·.event?.isSome)
  kinds : ∀ kind, after.get .hooks kind =
    before.get .hooks kind + visits.countP (·.event?.map Event.kind = some kind)

variable {settings : ServiceSettings} {visit : Visit} {visits : List Visit}
  {counters before between after : Counters}

theorem reply_run (delivers : visit.Delivers) :
    (reply settings visit.answers.backend visit.request).run { counters, calls := [] } =
      let outcome := handled visit.file settings visit.answers counters (delivery visit.request)
      (.ofOutcome outcome.result, { counters := outcome.counters, calls := outcome.calls }) := by
  obtain ⟨posted, addressed, short⟩ := delivers
  unfold reply
  rw [addressed]
  cases ofFile : visit.file with
  | pipeline | definition =>
      unfold DeliveryFile.route delivering
      dsimp only
      rw [if_neg (not_not.mpr posted), if_neg (Nat.not_lt.mpr short)]
      rfl

theorem ofOutcome_run {result : Except DeliveryError (Option Run)} :
    (∃ run : Run, Reply.ofOutcome result = .json 200 run.toJson) ↔
      ∃ run, result = .ok (some run) := by
  cases result with
  | error problem => simp [Reply.ofOutcome, Reply.json]
  | ok found => cases found <;> simp [Reply.ofOutcome, Reply.json, Reply.bare]

theorem ofOutcome_none {result : Except DeliveryError (Option Run)} :
    Reply.ofOutcome result = .bare 200 ↔ result = .ok none := by
  cases result with
  | error problem => simp [Reply.ofOutcome, Reply.json, Reply.bare]
  | ok found => cases found <;> simp [Reply.ofOutcome, Reply.json, Reply.bare]

theorem ofOutcome_error {result : Except DeliveryError (Option Run)} :
    (∃ error : DeliveryError, Reply.ofOutcome result =
      .json 500 (.object [("error", .string error.message)])) ↔
        ∃ error, result = .error error := by
  cases result with
  | error problem => simp [Reply.ofOutcome, Reply.json]
  | ok found => cases found <;> simp [Reply.ofOutcome, Reply.json, Reply.bare]

theorem serve_eq (delivers : visit.Delivers) :
    visit.serve settings counters =
      let outcome := handled visit.file settings visit.answers counters (delivery visit.request)
      ({ visit, reply := .ofOutcome outcome.result, calls := outcome.calls },
        visit.counting outcome.counters) := by
  unfold Visit.serve
  rw [reply_run delivers]

theorem received_of_event? {event : Event} (found : visit.event? = some event) :
    Event.parse (delivery visit.request).kind (delivery visit.request).payload = .ok event :=
  Result.ok_of_toOption found

theorem serve_accounted (delivers : visit.Delivers) :
    (visit.serve settings counters).1.Accounted settings := by
  rw [serve_eq delivers]
  have course := handled_course visit.file settings visit.answers counters (delivery visit.request)
  generalize handled _ _ _ _ _ = outcome at course ⊢
  constructor
  case refused =>
    intro none
    cases wrong : Event.parse (delivery visit.request).kind (delivery visit.request).payload with
    | error problem => exact course.calls_of_refused wrong
    | ok event => cases none.symm.trans (congrArg Except.toOption wrong)
  case asks =>
    intro event found
    exact course.asks (received_of_event? found)
  case created =>
    intro asked run called
    change Reply.ofOutcome outcome.result = _
    rw [course.result_run.mpr ⟨asked, called⟩]
    rfl
  case run =>
    rw [ofOutcome_run, exists_comm]
    exact exists_congr fun run => course.result_run
  case empty =>
    rw [ofOutcome_none]
    constructor
    · intro none
      cases received : Event.parse (delivery visit.request).kind
          (delivery visit.request).payload with
      | error problem =>
          cases course with
          | refused => cases none
          | ignored again | unfetched again | declined again | made again =>
              cases again.symm.trans received
      | ok event =>
          exact ⟨event, congrArg Except.toOption received,
            (course.result_none received).mp none⟩
    · rintro ⟨event, found, quiet⟩
      exact (course.result_none (received_of_event? found)).mpr quiet
  case least =>
    intro empty event found
    exact course.asks_of_none (received_of_event? found) (ofOutcome_none.mp empty)
  case error =>
    rw [ofOutcome_error, ofOutcome_run, ne_eq, ofOutcome_none]
    rcases outcome.result with problem | none | run <;> simp

/-! ### Counting -/

theorem counts_counting {metric : Metric} (calls : metric ≠ .calls)
    (failedCalls : metric ≠ .failedCalls) :
    (visit.counting counters).counts metric = counters.counts metric :=
  (Counters.counts_foldl_increment failedCalls visit.failed).trans
    (Counters.counts_foldl_increment calls visit.called)

theorem Counted.counting (counted : Counted visits before after) :
    Counted visits before (visit.counting after) := by
  have hooks : (visit.counting after).counts .hooks = after.counts .hooks :=
    counts_counting nofun nofun
  have invalid : (visit.counting after).counts .invalidHooks = after.counts .invalidHooks :=
    counts_counting nofun nofun
  refine ⟨?_, ?_, ?_⟩
  · rw [← counted.invalid, Counters.get, invalid, Counters.get]
  · rw [← counted.total, Counters.total, hooks, Counters.total]
  · intro kind
    rw [← counted.kinds, Counters.get, hooks, Counters.get]

theorem serve_counted (delivers : visit.Delivers) :
    Counted [visit] counters (visit.serve settings counters).2 := by
  rw [serve_eq delivers]
  apply Counted.counting
  have counted := (handled_course visit.file settings visit.answers counters
    (delivery visit.request)).counted
  rw [counted]
  have found : visit.event? = (Event.parse (delivery visit.request).kind
    (delivery visit.request).payload).toOption := rfl
  cases received : Event.parse (delivery visit.request).kind (delivery visit.request).payload with
  | error problem =>
      rw [received] at found
      have none : visit.event? = none := found
      constructor <;>
        simp [none, Counters.countInvalidHook, Counters.get_increment, Counters.total_increment]
  | ok event =>
      rw [received] at found
      have some : visit.event? = some event := found
      constructor
      · simp [some, Counters.countHook, Counters.get_increment]
      · simp [some, Counters.countHook, Counters.total_increment]
      · intro kind
        simp [some, Counters.countHook, Counters.get_increment, eq_comm]

theorem Counted.nil : Counted [] counters counters :=
  ⟨rfl, rfl, fun _ => rfl⟩

theorem Counted.cons (first : Counted [visit] before between)
    (rest : Counted visits between after) : Counted (visit :: visits) before after := by
  have parts : visit :: visits = [visit] ++ visits := rfl
  rw [parts]
  constructor
  · rw [rest.invalid, first.invalid, List.countP_append, Nat.add_assoc]
  · rw [rest.total, first.total, List.countP_append, Nat.add_assoc]
  · intro kind
    rw [rest.kinds, first.kinds, List.countP_append, Nat.add_assoc]

theorem serveAll_counted (delivers : ∀ visit ∈ visits, visit.Delivers) :
    Counted visits counters (serveAll settings counters visits).2 := by
  induction visits generalizing counters with
  | nil => exact .nil
  | cons visit visits ih =>
      exact (serve_counted (delivers visit List.mem_cons_self)).cons
        (ih fun later inRest => delivers later (List.mem_cons_of_mem _ inRest))

theorem serveAll_accounted (delivers : ∀ visit ∈ visits, visit.Delivers) :
    (serveAll settings counters visits).1.map Served.visit = visits ∧
      ∀ served ∈ (serveAll settings counters visits).1, served.Accounted settings := by
  induction visits generalizing counters with
  | nil => exact ⟨rfl, nofun⟩
  | cons visit visits ih =>
      obtain ⟨these, accounted⟩ := @ih (visit.serve settings counters).2
        fun later inRest => delivers later (List.mem_cons_of_mem _ inRest)
      refine ⟨congrArg (visit :: ·) these, ?_⟩
      intro served member
      rcases List.mem_cons.mp member with rfl | inRest
      · exact serve_accounted (delivers visit List.mem_cons_self)
      · exact accounted served inRest

/-- Every delivery that was sent to a service is counted once, under the kind of its event or as
invalid, and accounted for by its calls and its reply. -/
theorem deliveries_accounted (delivers : ∀ visit ∈ visits, visit.Delivers) :
    ∃ served last, serveAll settings .zero visits = (served, last) ∧
      served.map Served.visit = visits ∧
      last.get .invalidHooks "" + last.total .hooks = visits.length ∧
      (∀ kind, last.get .hooks kind =
        visits.countP (·.event?.map Event.kind = some kind)) ∧
      ∀ one ∈ served, one.Accounted settings := by
  obtain ⟨these, accounted⟩ :
      (serveAll settings .zero visits).1.map Served.visit = visits ∧
        ∀ served ∈ (serveAll settings .zero visits).1, served.Accounted settings :=
    serveAll_accounted delivers
  have counted : Counted visits .zero (serveAll settings .zero visits).2 :=
    serveAll_counted delivers
  refine ⟨_, _, rfl, these, ?_, ?_, accounted⟩
  · rw [counted.invalid, counted.total, Counters.get_zero, Counters.total_zero, Nat.zero_add,
      Nat.zero_add, Nat.add_comm]
    have parted := List.length_eq_countP_add_countP (·.event?.isSome) (l := visits)
    simpa using parted.symm
  · intro kind
    rw [counted.kinds, Counters.get_zero, Nat.zero_add]

def sampleVisit (file : DeliveryFile) (target kind : String) (body : List UInt8) : Visit :=
  { file, answers := sampleAnswers, called := [], failed := []
    request :=
      { method := "POST", target
        headers := [("X-GitHub-Event", kind), ("X-GitHub-Delivery", "delivery")], body } }

def skippedPush : List UInt8 :=
  Text.Utf8.encode
    ("\x7b\"ref\": \"main\", \"repository\": \x7b\"name\": \"\", \"full_name\": \"\", " ++
      "\"clone_url\": \"\"\x7d, \"head_commit\": \x7b\"id\": \"\", " ++
        "\"message\": \"docs [skip ci]\"\x7d\x7d")

/-- A push for which a run is created, one that asks for none, and something that is no event. -/
def sampleVisits : List Visit :=
  [ { sampleVisit .pipeline "/pipeline" "push" samplePush.payload with called := ["file_contents"] }
  , sampleVisit .pipeline "/pipeline" "push" skippedPush
  , sampleVisit .definition "/pipelinerun?verbose" "ping" [] ]

theorem sampleVisits_deliver : ∀ visit ∈ sampleVisits, visit.Delivers := by
  intro visit member
  simp only [sampleVisits, List.mem_cons, List.not_mem_nil, or_false] at member
  rcases member with rfl | rfl | rfl <;> exact ⟨rfl, by decide +kernel, by decide +kernel⟩

def Reply.isBare (reply : Reply) (status : Nat) : Bool :=
  reply.status = status && reply.contentType.isNone && reply.content matches .empty

theorem Reply.eq_bare {reply : Reply} {status : Nat} (isBare : reply.isBare status = true) :
    reply = .bare status := by
  obtain ⟨given, contentType, content⟩ := reply
  cases contentType <;> cases content <;> simp [Reply.isBare, Reply.bare] at isBare ⊢
  exact isBare

theorem sampleVisits_accounted :
    ∃ served last, serveAll default .zero sampleVisits = (served, last) ∧
      served.map (fun one => (one.reply.status, one.calls.length)) = [(200, 3), (200, 1), (500, 0)] ∧
      (∃ one ∈ served, ∃ event, Quiet .pipeline default event one.calls) ∧
      last.get .invalidHooks "" + last.total .hooks = 3 ∧ last.get .hooks "push" = 2 ∧
      ∀ one ∈ served, one.Accounted default := by
  obtain ⟨served, last, all, _, sum, kinds, accounted⟩ :=
    @deliveries_accounted default _ sampleVisits_deliver
  have outcome : (serveAll default .zero sampleVisits).1.map
      (fun one => (one.reply.status, one.calls.length)) = [(200, 3), (200, 1), (500, 0)] := by
    decide +kernel
  have second : (serveAll default .zero sampleVisits).1[1]?.map
      (fun one => (one.visit.file, one.reply.isBare 200)) = some (.pipeline, true) := by
    decide +kernel
  rw [all] at outcome second
  obtain ⟨one, there, same⟩ := Option.map_eq_some_iff.mp second
  obtain ⟨ofPipeline, isBare⟩ := Prod.mk.inj same
  have member := List.mem_of_getElem? there
  refine ⟨served, last, all, outcome, ⟨one, member, ?_⟩, sum, ?_, accounted⟩
  · obtain ⟨event, _, quiet⟩ := (accounted one member).empty.mp (Reply.eq_bare isBare)
    exact ⟨event, ofPipeline ▸ quiet⟩
  · rw [kinds]
    decide +kernel

end Router

end StagedRuns
