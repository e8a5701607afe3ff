import StagedRuns.Proofs.Run.Codec
import StagedRuns.Proofs.Webhook.Shown

/-!
Events are read back from the documents that are written of them, so an expression that sees the
document of an event sees the event.
-/

namespace StagedRuns

open StagedRuns.Json (Codec Parts)
open StagedRuns.Result (bind_some)

namespace Webhook

theorem codec_number : Codec readNumber writeNumber where
  legible := fun _ => nofun
  decoded := by
    intro number json arranged
    cases arranged
    have bounded : number.toNat < Nat.pow 2 64 := number.toNat_lt
    have natural : (writeNumber number).asNatural? = some number.toNat := if_pos bounded
    exact (congrArg (Option.map UInt64.ofNat) natural).trans (congrArg some UInt64.ofNat_toNat)

theorem codec_optional {α : Type} {decode : Json → Option α} {encode : α → Json}
    (codec : Codec decode encode) (notNull : decode .null = none) :
    Codec (Json.nullable decode) (writeOptional encode) where
  legible := by
    intro value
    cases value with
    | none => trivial
    | some value => exact codec.legible value
  decoded := by
    intro value json arranged
    cases value with
    | none =>
        cases arranged
        rfl
    | some value => exact Json.nullable_of_some notNull (codec.decoded value json arranged)

theorem User.codec : Codec User.read User.write := by
  refine .record (by decide) (fun _ => rfl) (fun user => .required .text user.login .nil) ?_
  rintro user record ⟨login, -⟩
  exact bind_some login rfl

theorem Commit.codec : Codec Commit.read Commit.write := by
  refine .record (by decide) (fun _ => rfl)
    (fun commit => .required .text commit.id (.always .text commit.message .nil)) ?_
  rintro commit record ⟨id, message, -⟩
  exact bind_some id (bind_some (message _) rfl)

theorem Repository.codec : Codec Repository.read Repository.write := by
  refine .record (by decide) (fun _ => rfl) (fun repository => .required .text repository.name
    (.required .text repository.fullName (.required .text repository.cloneUrl
      (.always .text repository.htmlUrl (.always .text repository.defaultBranch .nil))))) ?_
  rintro repository record ⟨name, fullName, cloneUrl, htmlUrl, defaultBranch, -⟩
  exact bind_some name (bind_some fullName (bind_some cloneUrl (bind_some (htmlUrl _)
    (bind_some (defaultBranch _) rfl))))

theorem GitRef.codec : Codec GitRef.read GitRef.write := by
  refine .record (by decide) (fun _ => rfl)
    (fun gitRef => .required .text gitRef.ref (.required .text gitRef.sha .nil)) ?_
  rintro gitRef record ⟨ref, sha, -⟩
  exact bind_some ref (bind_some sha rfl)

theorem PullRequest.codec : Codec PullRequest.read PullRequest.write := by
  refine .record (by decide) (fun _ => rfl) (fun request =>
    .required codec_number request.number (.always .text request.title
      (.required GitRef.codec request.head (.required GitRef.codec request.base .nil)))) ?_
  rintro request record ⟨number, title, head, base, -⟩
  exact bind_some number (bind_some (title _) (bind_some head (bind_some base rfl)))

theorem Push.codec : Codec Push.read Push.write := by
  refine .record (by decide) (fun _ => rfl) (fun push => .required .text push.ref
    (.always .text push.before (.always .text push.after
      (.required Repository.codec push.repository
        (.always (codec_optional Commit.codec rfl) push.headCommit
          (.always (codec_optional User.codec rfl) push.sender .nil)))))) ?_
  rintro push record ⟨ref, before, after, repository, headCommit, sender, -⟩
  exact bind_some ref (bind_some (before _) (bind_some (after _) (bind_some repository
    (bind_some (headCommit _) (bind_some (sender _) rfl)))))

theorem PullRequestAction.codec : Codec PullRequestAction.read PullRequestAction.write := by
  refine .record (by decide) (fun _ => rfl) (fun action => .required .text action.action
    (.required codec_number action.number (.required PullRequest.codec action.pullRequest
      (.required Repository.codec action.repository
        (.always (codec_optional User.codec rfl) action.sender .nil))))) ?_
  rintro action record ⟨kind, number, pullRequest, repository, sender, -⟩
  exact bind_some kind (bind_some number (bind_some pullRequest (bind_some repository
    (bind_some (sender _) rfl))))

theorem Event.parse_document (event : Event) {json : Json}
    (arranged : event.document.Arranged json) : parse event.kind json.bytes = .ok event := by
  cases event with
  | push pushed =>
      have read := Push.codec.read arranged
      unfold parse
      rw [if_pos (show kind (.push pushed) = "push" from rfl)]
      dsimp only
      rw [read]
  | pullRequest action =>
      have read := PullRequestAction.codec.read arranged
      have notPush : kind (.pullRequest action) ≠ "push" := show "pull_request" ≠ "push" by decide
      unfold parse
      rw [if_neg notPush, if_pos (show kind (.pullRequest action) = "pull_request" from rfl)]
      dsimp only
      rw [read]

end Webhook

open StagedRuns.Number (IsNatural RoundsTo)
open StagedRuns.Webhook (Context Event)

/-- Runs and events are what is read from their JSON, in whatever order it has the members of the
objects. Expressions see the fields of an event as `hook`, and every number of it as the nearest
floating-point number; events with no number beyond `2 ^ 53` are told apart by that. -/
theorem codecs_faithful :
    (∀ (run : Run) (json : Json), run.toJson.Arranged json →
      (Json.read json.bytes >>= Run.ofJson?) = some run) ∧
      (∀ event : Event,
        (∀ json : Json, event.document.Arranged json →
          Event.parse event.kind json.bytes = .ok event) ∧
          (Context.ofEvent event).evaluate "hook" = .ok event.shown) ∧
      (∀ number : UInt64,
        (∃ rounded, IsNatural number.toFloat rounded ∧ RoundsTo number.toNat rounded) ∧
          (number.toNat ≤ 2 ^ 53 → IsNatural number.toFloat number.toNat)) ∧
      ∀ event other : Event, event.IsExact → other.IsExact →
        (Context.ofEvent event).evaluate "hook" = (Context.ofEvent other).evaluate "hook" →
          event = other := by
  have seen (event : Event) : (Context.ofEvent event).evaluate "hook" = .ok event.shown :=
    congrArg Except.ok event.ofJson_document
  refine ⟨?_, ?_, ?_, ?_⟩
  · intro run json arranged
    exact Run.codec.read arranged
  · intro event
    refine ⟨?_, seen event⟩
    intro json arranged
    exact event.parse_document arranged
  · intro number
    have natural := Number.toFloat_isNatural number
    refine ⟨⟨_, natural, Number.rounded_roundsTo _⟩, ?_⟩
    intro small
    exact Number.rounded_of_le small ▸ natural
  · intro event other exact otherExact same
    rw [seen event, seen other] at same
    exact Event.shown_injective exact otherExact (Except.ok.inj same)

/-- A run with an empty text and an empty list next to texts and lists that are not there. -/
def Run.coded : Run :=
  { Run.new "dsl" "" .empty with
    status := some { conditions := [{ type := "Succeeded", status := "", reason := some "" }] } }

/-- A pull request whose number stands in two places. -/
def Webhook.Event.numbered (number inner : UInt64) : Event :=
  .pullRequest
    { action := "opened", number
      pullRequest :=
        { number := inner, title := "", head := { ref := "change", sha := "6113728" }
          base := { ref := "main", sha := "" } }
      repository :=
        { name := "shop", fullName := "owner/shop", cloneUrl := "", htmlUrl := ""
          defaultBranch := "main" }
      sender := none }

theorem coded_faithful :
    (Json.read Run.coded.toJson.bytes >>= Run.ofJson?) = some .coded ∧
      Event.parse "pull_request" (Event.numbered 7 8).document.sorted.bytes =
        .ok (.numbered 7 8) ∧
      IsNatural (7 : UInt64).toFloat 7 ∧
      (Context.ofEvent (.numbered 7 8)).evaluate "hook" ≠
        (Context.ofEvent (.numbered 8 7)).evaluate "hook" := by
  refine ⟨codecs_faithful.1 .coded _ (Json.arranged_refl _),
    (codecs_faithful.2.1 (.numbered 7 8)).1 _ (Json.arranged_sorted _),
    (codecs_faithful.2.2.1 7).2 (by decide), ?_⟩
  intro same
  have swapped : Event.numbered 7 8 = .numbered 8 7 :=
    codecs_faithful.2.2.2 _ _ ⟨by decide, by decide⟩ ⟨by decide, by decide⟩ same
  exact absurd swapped (by decide)

/-- Two numbers with one floating-point number nearest to both. -/
theorem numbered_rounded :
    (9007199254740993 : UInt64) ≠ 9007199254740992 ∧
      (Context.ofEvent (.numbered 9007199254740993 9007199254740992)).evaluate
        "hook.number == hook.pull_request.number" = .ok (.bool true) := by
  refine ⟨by decide, ?_⟩
  have seen : ((Context.ofEvent (.numbered 9007199254740993 9007199254740992)).evaluate
      "hook.number == hook.pull_request.number").toOption.any Expr.Value.isTrue = true := by
    decide +kernel
  generalize Context.evaluate _ _ = answer at seen ⊢
  match answer, seen with
  | .ok (.bool true), _ => rfl

end StagedRuns
