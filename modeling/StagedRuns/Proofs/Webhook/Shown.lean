import StagedRuns.Proofs.Expr.Members
import StagedRuns.Proofs.Number.Natural
import StagedRuns.Webhook.Context

/-!
What expressions see of an event, written out field by field, and which events they tell apart.
-/

namespace StagedRuns.Webhook

open StagedRuns.Expr (Value ofMembers_eq)

def shownOptional {α : Type} (shown : α → Value) : Option α → Value
  | some value => shown value
  | none => .null

def User.shown (user : User) : Value :=
  .map [("login", .text user.login)]

def Commit.shown (commit : Commit) : Value :=
  .map [("id", .text commit.id), ("message", .text commit.message)]

def Repository.shown (repository : Repository) : Value :=
  .map
    [ ("clone_url", .text repository.cloneUrl)
    , ("default_branch", .text repository.defaultBranch)
    , ("full_name", .text repository.fullName)
    , ("html_url", .text repository.htmlUrl)
    , ("name", .text repository.name) ]

def GitRef.shown (gitRef : GitRef) : Value :=
  .map [("ref", .text gitRef.ref), ("sha", .text gitRef.sha)]

def PullRequest.shown (request : PullRequest) : Value :=
  .map
    [ ("base", request.base.shown)
    , ("head", request.head.shown)
    , ("number", .number request.number.toFloat)
    , ("title", .text request.title) ]

def Push.shown (push : Push) : Value :=
  .map
    [ ("after", .text push.after)
    , ("before", .text push.before)
    , ("head_commit", shownOptional Commit.shown push.headCommit)
    , ("ref", .text push.ref)
    , ("repository", push.repository.shown)
    , ("sender", shownOptional User.shown push.sender) ]

def PullRequestAction.shown (action : PullRequestAction) : Value :=
  .map
    [ ("action", .text action.action)
    , ("number", .number action.number.toFloat)
    , ("pull_request", action.pullRequest.shown)
    , ("repository", action.repository.shown)
    , ("sender", shownOptional User.shown action.sender) ]

def Event.shown : Event → Value
  | .push pushed => pushed.shown
  | .pullRequest action => action.shown

theorem ofJson_writeNumber (number : UInt64) :
    Value.ofJson (writeNumber number) = .number number.toFloat := by
  have bounded : number.toNat < Nat.pow 2 64 := number.toNat_lt
  have converted : Value.ofNumeral ⟨false, number.toNat, [], none⟩ = number.toFloat := by
    simp only [Value.ofNumeral, bounded, and_self, if_true, Bool.false_eq_true, if_false,
      UInt64.ofNat_toNat]
  exact congrArg Value.number converted

theorem ofJson_writeOptional {α : Type} {write : α → Json} {shown : α → Value}
    (same : ∀ value, Value.ofJson (write value) = shown value) (value : Option α) :
    Value.ofJson (writeOptional write value) = shownOptional shown value := by
  cases value with
  | none => rfl
  | some value => exact same value

theorem User.ofJson_write (user : User) : Value.ofJson user.write = user.shown := rfl

theorem Commit.ofJson_write (commit : Commit) : Value.ofJson commit.write = commit.shown :=
  congrArg Value.map
    (ofMembers_eq ["id", "message"] ["id", "message"] (by decide) (by decide) rfl)

theorem Repository.ofJson_write (repository : Repository) :
    Value.ofJson repository.write = repository.shown :=
  congrArg Value.map
    (ofMembers_eq ["clone_url", "default_branch", "full_name", "html_url", "name"]
      ["name", "full_name", "clone_url", "html_url", "default_branch"] (by decide) (by decide) rfl)

theorem GitRef.ofJson_write (gitRef : GitRef) : Value.ofJson gitRef.write = gitRef.shown :=
  congrArg Value.map (ofMembers_eq ["ref", "sha"] ["ref", "sha"] (by decide) (by decide) rfl)

theorem PullRequest.ofJson_write (request : PullRequest) :
    Value.ofJson request.write = request.shown := by
  have members : Value.ofJson request.write = _ :=
    congrArg Value.map
      (ofMembers_eq ["base", "head", "number", "title"] ["number", "title", "head", "base"]
        (by decide) (by decide) rfl)
  rw [members, shown, ← ofJson_writeNumber, ← GitRef.ofJson_write, ← GitRef.ofJson_write]
  rfl

theorem Push.ofJson_write (push : Push) : Value.ofJson push.write = push.shown := by
  have members : Value.ofJson push.write = _ :=
    congrArg Value.map
      (ofMembers_eq ["after", "before", "head_commit", "ref", "repository", "sender"]
        ["ref", "before", "after", "repository", "head_commit", "sender"] (by decide) (by decide)
        rfl)
  rw [members, shown, ← Repository.ofJson_write, ← ofJson_writeOptional Commit.ofJson_write,
    ← ofJson_writeOptional User.ofJson_write]
  rfl

theorem PullRequestAction.ofJson_write (action : PullRequestAction) :
    Value.ofJson action.write = action.shown := by
  have members : Value.ofJson action.write = _ :=
    congrArg Value.map
      (ofMembers_eq ["action", "number", "pull_request", "repository", "sender"]
        ["action", "number", "pull_request", "repository", "sender"] (by decide) (by decide) rfl)
  rw [members, shown, ← ofJson_writeNumber, ← PullRequest.ofJson_write,
    ← Repository.ofJson_write, ← ofJson_writeOptional User.ofJson_write]
  rfl

theorem Event.ofJson_document (event : Event) : Value.ofJson event.document = event.shown := by
  cases event with
  | push pushed => exact pushed.ofJson_write
  | pullRequest action => exact action.ofJson_write

/-! ### Telling events apart -/

theorem shownOptional_injective {α : Type} {shown : α → Value}
    (notNull : ∀ value, shown value ≠ .null)
    (injective : ∀ {value other}, shown value = shown other → value = other)
    {value other : Option α}
    (same : shownOptional shown value = shownOptional shown other) : value = other := by
  cases value <;> cases other
  · rfl
  · exact absurd same.symm (notNull _)
  · exact absurd same (notNull _)
  · exact congrArg some (injective same)

theorem User.shown_injective {user other : User} (same : user.shown = other.shown) :
    user = other := by
  cases user
  cases other
  simpa [shown] using same

theorem Commit.shown_injective {commit other : Commit} (same : commit.shown = other.shown) :
    commit = other := by
  cases commit
  cases other
  simpa [shown] using same

theorem Repository.shown_injective {repository other : Repository}
    (same : repository.shown = other.shown) : repository = other := by
  cases repository
  cases other
  simp only [shown, Value.map.injEq, List.cons.injEq, Prod.mk.injEq, Value.text.injEq, true_and]
    at same
  obtain ⟨cloneUrl, defaultBranch, fullName, htmlUrl, name, -⟩ := same
  congr

theorem GitRef.shown_injective {gitRef other : GitRef} (same : gitRef.shown = other.shown) :
    gitRef = other := by
  cases gitRef
  cases other
  simpa [shown] using same

theorem PullRequest.shown_injective {request other : PullRequest}
    (small : request.number.toNat ≤ 2 ^ 53) (otherSmall : other.number.toNat ≤ 2 ^ 53)
    (same : request.shown = other.shown) : request = other := by
  cases request
  cases other
  simp only [shown, Value.map.injEq, List.cons.injEq, Prod.mk.injEq, Value.text.injEq,
    Value.number.injEq, true_and] at same
  obtain ⟨base, head, number, title, -⟩ := same
  have head := GitRef.shown_injective head
  have base := GitRef.shown_injective base
  have number := Number.toFloat_injective small otherSmall number
  congr

theorem Push.shown_injective {push other : Push} (same : push.shown = other.shown) :
    push = other := by
  cases push
  cases other
  simp only [shown, Value.map.injEq, List.cons.injEq, Prod.mk.injEq, Value.text.injEq,
    true_and] at same
  obtain ⟨after, before, headCommit, ref, repository, sender, -⟩ := same
  have headCommit := shownOptional_injective nofun Commit.shown_injective headCommit
  have repository := Repository.shown_injective repository
  have sender := shownOptional_injective nofun User.shown_injective sender
  congr

theorem PullRequestAction.shown_injective {action other : PullRequestAction}
    (small : action.number.toNat ≤ 2 ^ 53 ∧ action.pullRequest.number.toNat ≤ 2 ^ 53)
    (otherSmall : other.number.toNat ≤ 2 ^ 53 ∧ other.pullRequest.number.toNat ≤ 2 ^ 53)
    (same : action.shown = other.shown) : action = other := by
  cases action
  cases other
  simp only [shown, Value.map.injEq, List.cons.injEq, Prod.mk.injEq, Value.text.injEq,
    Value.number.injEq, true_and] at same
  obtain ⟨kind, number, pullRequest, repository, sender, -⟩ := same
  have number := Number.toFloat_injective small.1 otherSmall.1 number
  have pullRequest := PullRequest.shown_injective small.2 otherSmall.2 pullRequest
  have repository := Repository.shown_injective repository
  have sender := shownOptional_injective nofun User.shown_injective sender
  congr

/-- Whether all numbers of an event are numbers that a floating-point number can be exactly. -/
def Event.IsExact : Event → Prop
  | .push _ => True
  | .pullRequest action =>
      action.number.toNat ≤ 2 ^ 53 ∧ action.pullRequest.number.toNat ≤ 2 ^ 53

theorem Event.shown_injective {event other : Event} (exact : event.IsExact)
    (otherExact : other.IsExact) (same : event.shown = other.shown) : event = other := by
  cases event with
  | push pushed =>
      cases other with
      | push other => exact congrArg _ (Push.shown_injective same)
      | pullRequest action => simp [shown, Push.shown, PullRequestAction.shown] at same
  | pullRequest action =>
      cases other with
      | push pushed => simp [shown, Push.shown, PullRequestAction.shown] at same
      | pullRequest other =>
          exact congrArg _ (PullRequestAction.shown_injective exact otherExact same)

end StagedRuns.Webhook
