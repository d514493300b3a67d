import BatchChanges.Id
import BatchChanges.Time

/-! # What users ask for

A campaign spec declares a batch of changes; its changeset specs say for one repository each what
should become of it: adopt a pull request that exists already, or push a branch and open one. Specs
are never changed after they are stored.
-/

namespace BatchChanges

/-- The user or organization that a campaign belongs to. -/
inductive Namespace where
  | user (id : UserId)
  | org (id : OrgId)
deriving DecidableEq

namespace Namespace

def text : Namespace → String
  | user id => "user:" ++ id.text
  | org id => "org:" ++ id.text

end Namespace

/-- The kinds of code hosts. -/
inductive CodeHost where
  | github
  | gitlab
  | bitbucketServer
deriving DecidableEq

namespace CodeHost

def word : CodeHost → String
  | github => "github"
  | gitlab => "gitlab"
  | bitbucketServer => "bitbucket_server"

def ofWord? : String → Option CodeHost
  | "github" => some github
  | "gitlab" => some gitlab
  | "bitbucket_server" => some bitbucketServer
  | _ => none

@[simp] theorem ofWord?_word (host : CodeHost) : ofWord? host.word = some host := by
  cases host <;> rfl

def supportsDrafts : CodeHost → Bool
  | github | gitlab => true
  | bitbucketServer => false

end CodeHost

/-- Whether a spec wants its pull request to be opened, and how. -/
inductive PublishIntent where
  | unpublished
  | draft
  | published
deriving DecidableEq

namespace PublishIntent

def isDraft (intent : PublishIntent) : Bool := intent == draft

def isPublished (intent : PublishIntent) : Bool := intent == published

def text : PublishIntent → String
  | unpublished => "false"
  | draft => "draft"
  | published => "true"

end PublishIntent

/-- Numbers of lines that a diff touches. -/
structure DiffStat where
  added : UInt32
  changed : UInt32
  deleted : UInt32
deriving DecidableEq

/-- The single commit of a branch. -/
structure Commit where
  message : String
  diff : String
  authorName : Option String
  authorEmail : Option String
deriving DecidableEq

/-- A branch to push and the pull request to open for it. -/
structure BranchPush where
  baseRef : String
  baseRev : String
  headRef : String
  title : String
  body : String
  commit : Commit
  published : PublishIntent
deriving DecidableEq

/-- What a changeset spec asks for. -/
inductive SpecTarget where
  /-- Adopt a pull request that exists on the code host. -/
  | trackExisting (externalId : String)
  /-- Push a branch and open a pull request for it. -/
  | branchPush (push : BranchPush)
deriving DecidableEq

/-- What a campaign spec wants in one repository. -/
structure ChangesetSpec where
  id : ChangesetSpecId
  randId : String
  campaignSpecId : CampaignSpecId
  repoId : RepoId
  userId : UserId
  target : SpecTarget
  diffStat : Option DiffStat
  createdAt : Time
deriving DecidableEq

/-- The branch that a changeset spec wants to be pushed, unless it tracks a pull request. -/
def ChangesetSpec.branchPush? (spec : ChangesetSpec) : Option BranchPush :=
  match spec.target with
  | .branchPush push => some push
  | .trackExisting _ => none

/-- What all pushed branches of a campaign spec have in common. -/
structure ChangesetTemplate where
  title : String
  body : String
  branch : String
  commitMessage : String
  published : PublishIntent
deriving DecidableEq

/-- A batch of changes as a user declared it. -/
structure CampaignSpec where
  id : CampaignSpecId
  /-- The name by which users refer to the spec. -/
  randId : String
  userId : UserId
  space : Namespace
  name : String
  description : String
  template : Option ChangesetTemplate
  createdAt : Time
deriving DecidableEq

end BatchChanges
