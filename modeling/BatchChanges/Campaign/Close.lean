import BatchChanges.Actor
import BatchChanges.Backend
import BatchChanges.Campaign.Error

/-! # Closing a campaign

A campaign is closed in one transaction. On demand, the pull requests that it opened and that are
still open are queued to be closed too. A campaign that is closed already stays as it is.
-/

namespace BatchChanges

namespace Changeset

/-- Whether closing a campaign closes the pull request too. -/
def isClosedWith (changeset : Changeset) (campaign : CampaignId) : Bool :=
  changeset.isOwnedBy campaign && changeset.isPublished && changeset.isOpen

def queuedToClose (changeset : Changeset) (now : Time) : Changeset :=
  { Changeset.requeued { changeset with closing := true } with updatedAt := now }

end Changeset

/-- Who wants to close which campaign, and whether with its pull requests. -/
structure Closure where
  id : CampaignId
  actor : Actor
  withChangesets : Bool := false
deriving DecidableEq

namespace Closure

/-- Reads the campaign, which the actor must be allowed to close. -/
def readCampaign (closure : Closure) : Access CampaignError Campaign := do
  match ← Access.wrapping .store (Access.readCampaign closure.id) with
  | none => throw (.campaignNotFound closure.id)
  | some campaign =>
    if closure.actor.mayActFor campaign.initialApplierId then return campaign
    else throw (.unauthorized closure.actor.userId)

def queue (now : Time) : List Changeset → Access StoreError Unit
  | [] => pure ()
  | changeset :: rest => do
    let _ ← Access.upsertChangeset (changeset.queuedToClose now)
    queue now rest

def close (closure : Closure) (campaign : Campaign) (now : Time) : Access StoreError Campaign := do
  let campaign := { campaign with closedAt := some now, updatedAt := now }
  Access.updateCampaign campaign
  if closure.withChangesets then
    let changesets ← Access.listChangesets closure.id
    queue now (changesets.filter (·.isClosedWith closure.id))
  return campaign

/-- Closes a campaign. A transaction that is given up leaves nothing behind. -/
def run (closure : Closure) (now : Time) : Access CampaignError Campaign := do
  let before ← Access.wrapping .store Access.begin
  let campaign ← closure.readCampaign
  if campaign.isClosed then return campaign
  match ← Access.attempt (closure.close campaign now) with
  | .ok campaign =>
    Access.wrapping .store (Access.commit before)
    return campaign
  | .error error =>
    Access.restore before
    throw (.store error)

end Closure

end BatchChanges
