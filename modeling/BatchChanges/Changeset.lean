import BatchChanges.Spec
import BatchChanges.Table

/-! # Changesets

A changeset is the system's record of one pull request in one repository. One part of it says what
is known of the pull request on the code host, one what campaigns want of it, and one where it
stands in the queue of the reconciler.
-/

namespace BatchChanges

/-- A repository on a code host. -/
structure Repo where
  id : RepoId
  name : String
  codeHost : CodeHost
deriving DecidableEq

/-- The state of a pull request on its code host. -/
inductive HostState where
  | draft
  | opened
  | closed
  | merged
deriving DecidableEq

namespace HostState

def word : HostState → String
  | draft => "draft"
  | opened => "open"
  | closed => "closed"
  | merged => "merged"

def ofWord? : String → Option HostState
  | "draft" => some draft
  | "open" => some opened
  | "closed" => some closed
  | "merged" => some merged
  | _ => none

@[simp] theorem ofWord?_word (state : HostState) : ofWord? state.word = some state := by
  cases state <;> rfl

end HostState

/-- Whether a pull request has been opened. -/
inductive Publication where
  | unpublished
  | published
deriving DecidableEq

namespace Publication

def word : Publication → String
  | unpublished => "unpublished"
  | published => "published"

def ofWord? : String → Option Publication
  | "unpublished" => some unpublished
  | "published" => some published
  | _ => none

@[simp] theorem ofWord?_word (state : Publication) : ofWord? state.word = some state := by
  cases state <;> rfl

end Publication

/-- Where a changeset stands in the queue of the reconciler. -/
inductive QueueState where
  | queued
  | processing
  | errored
  | completed
deriving DecidableEq

namespace QueueState

def word : QueueState → String
  | queued => "queued"
  | processing => "processing"
  | errored => "errored"
  | completed => "completed"

def ofWord? : String → Option QueueState
  | "queued" => some queued
  | "processing" => some processing
  | "errored" => some errored
  | "completed" => some completed
  | _ => none

@[simp] theorem ofWord?_word (state : QueueState) : ofWord? state.word = some state := by
  cases state <;> rfl

end QueueState

/-- The record of one pull request. -/
structure Changeset where
  id : ChangesetId
  repoId : RepoId
  codeHost : CodeHost
  /-- The number of the pull request on the code host. -/
  externalId : Option String := none
  externalBranch : Option String := none
  externalState : Option HostState := none
  externalTitle : Option String := none
  externalUpdatedAt : Option Time := none
  diffStat : Option DiffStat := none
  publication : Publication := .unpublished
  /-- Whether the pull request was never loaded from the code host. -/
  unsynced : Bool := false
  /-- The spec that applies now. -/
  currentSpecId : Option ChangesetSpecId := none
  /-- The spec that the pull request was last brought in line with. -/
  previousSpecId : Option ChangesetSpecId := none
  /-- The campaign that created the changeset. -/
  ownerId : Option CampaignId := none
  /-- The campaigns that the changeset is part of. -/
  campaignIds : IdSet .campaign := ∅
  /-- Whether the pull request should be closed. -/
  closing : Bool := false
  queueState : QueueState := .queued
  failureMessage : Option String := none
  failures : UInt32 := 0
  /-- The time before which the changeset is not processed. -/
  processAfter : Option Time := none
  createdAt : Time
  updatedAt : Time
deriving DecidableEq

namespace Changeset

def isPublished (changeset : Changeset) : Bool := changeset.publication == .published

def isMerged (changeset : Changeset) : Bool := changeset.externalState == some .merged

/-- Whether the pull request is open on the code host; drafts are. -/
def isOpen (changeset : Changeset) : Bool :=
  changeset.externalState == some .opened || changeset.externalState == some .draft

def isOwnedBy (changeset : Changeset) (campaign : CampaignId) : Bool :=
  changeset.ownerId == some campaign

def isAttachedTo (changeset : Changeset) (campaign : CampaignId) : Bool :=
  changeset.campaignIds.contains campaign

/-- Whether the campaign that created the changeset still holds it. -/
def isOwnedAndAttached (changeset : Changeset) : Bool :=
  match changeset.ownerId with
  | some owner => changeset.isAttachedTo owner
  | none => false

/-- Puts the changeset back into the queue with a clean record of failures. -/
def requeued (changeset : Changeset) : Changeset :=
  { changeset with
    queueState := .queued, failureMessage := none, failures := 0, processAfter := none }

end Changeset

end BatchChanges
