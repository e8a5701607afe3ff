/-!
The events that a source host delivers: pushes and pull requests, as far as they matter here.
-/

namespace StagedRuns.Webhook

structure User where
  login : String
deriving DecidableEq, Repr

structure Commit where
  id : String
  message : String
deriving DecidableEq, Repr

structure Repository where
  name : String
  fullName : String
  cloneUrl : String
  htmlUrl : String
  defaultBranch : String
deriving DecidableEq, Repr

structure GitRef where
  ref : String
  sha : String
deriving DecidableEq, Repr

structure PullRequest where
  number : UInt64
  title : String
  head : GitRef
  base : GitRef
deriving DecidableEq, Repr

structure Push where
  ref : String
  before : String
  after : String
  repository : Repository
  headCommit : Option Commit
  sender : Option User
deriving DecidableEq, Repr

structure PullRequestAction where
  action : String
  number : UInt64
  pullRequest : PullRequest
  repository : Repository
  sender : Option User
deriving DecidableEq, Repr

/-- The commit that a push ends with: the head commit if it has an id, else the new value of the
ref. -/
def Push.commitSha (push : Push) : String :=
  match push.headCommit with
  | some commit => if commit.id = "" then push.after else commit.id
  | none => push.after

def Push.commitMessage (push : Push) : String :=
  match push.headCommit with
  | some commit => commit.message
  | none => ""

inductive Event where
  | push (push : Push)
  | pullRequest (action : PullRequestAction)
deriving DecidableEq, Repr

namespace Event

def kind : Event → String
  | .push _ => "push"
  | .pullRequest _ => "pull_request"

def repository : Event → Repository
  | .push pushed => pushed.repository
  | .pullRequest action => action.repository

def commitSha : Event → String
  | .push pushed => pushed.commitSha
  | .pullRequest action => action.pullRequest.head.sha

end Event

end StagedRuns.Webhook
