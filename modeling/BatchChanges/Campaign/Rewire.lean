import BatchChanges.Campaign
import BatchChanges.Campaign.Mapping

/-! # Rewiring a campaign

When a campaign spec is applied, every mapping is decided by itself. A changeset that no spec wants
any more leaves the campaign: if the campaign created it, it is closed when it is open on the code
host, and deleted when it was never published and no other campaign holds it. If the actor cannot
see its repository it is left alone. A spec without changeset brings one about; a spec with a
changeset adopts it or moves it on to itself. No spec may be about a repository that the actor
cannot see.

Moving on keeps the spec that the pull request was made from as the previous one. As long as a
changeset is queued or errored, the pull request was not made from its current spec, so that the
previous one stays what it is.
-/

namespace BatchChanges

/-- What becomes of a mapping. -/
inductive Placement where
  /-- There was nothing. -/
  | nothing
  /-- The changeset is left alone. -/
  | untouched (changeset : Changeset)
  | deleted (id : ChangesetId)
  /-- The changeset is to be written; a new one has no number yet. -/
  | staged (changeset : Changeset)
deriving DecidableEq

namespace Changeset

def ofSpec (campaign : CampaignId) (now : Time) (repo : Repo) (spec : ChangesetSpec) : Changeset :=
  let changeset : Changeset :=
    { id := .unsaved, repoId := repo.id, codeHost := repo.codeHost
      campaignIds := IdSet.ofList [campaign], createdAt := now, updatedAt := now }
  match spec.target with
  | .trackExisting externalId =>
    { changeset with externalId := some externalId, publication := .published, unsynced := true }
  | .branchPush _ =>
    { changeset with
      currentSpecId := some spec.id, ownerId := some campaign, diffStat := spec.diffStat }

def following (changeset : Changeset) (campaign : CampaignId) (now : Time) (spec : ChangesetSpec) :
    Changeset :=
  let member :=
    { changeset with campaignIds := changeset.campaignIds.add campaign, updatedAt := now }
  match spec.target with
  | .trackExisting _ =>
    let foreign := changeset.ownerId.any (· != campaign)
    if changeset.queueState = .errored ∧ !foreign then member.requeued else member
  | .branchPush _ =>
    let unresolved := changeset.queueState == .errored || changeset.queueState == .queued
    requeued { member with
      previousSpecId := if unresolved then changeset.previousSpecId else changeset.currentSpecId
      currentSpecId := some spec.id
      diffStat := spec.diffStat
      closing := false }

end Changeset

namespace Placement

def ofDropped (campaign : CampaignId) (now : Time) (changeset : Changeset) : Placement :=
  let left := { changeset with campaignIds := changeset.campaignIds.erase campaign }
  if changeset.isOwnedBy campaign && !changeset.isPublished && left.campaignIds.isEmpty then
    .deleted changeset.id
  else if changeset.isOwnedBy campaign && changeset.isPublished && changeset.isOpen then
    .staged { Changeset.requeued { left with closing := true } with updatedAt := now }
  else .staged { left with updatedAt := now }

def ofMapping (campaign : CampaignId) (now : Time) (mapping : Mapping) :
    Except CampaignError Placement :=
  match mapping.spec, mapping.changeset, mapping.repo with
  | none, none, _ => .ok .nothing
  | none, some changeset, none => .ok (.untouched changeset)
  | none, some changeset, some _ => .ok (ofDropped campaign now changeset)
  | some _, _, none => .error (.repoNotFound mapping.repoId)
  | some spec, none, some repo => .ok (.staged (.ofSpec campaign now repo spec))
  | some spec, some changeset, some _ => .ok (.staged (changeset.following campaign now spec))

/-- What becomes of all mappings; the first one that fails decides. -/
def ofMappings (campaign : CampaignId) (now : Time) :
    List Mapping → Except CampaignError (List Placement)
  | [] => .ok []
  | mapping :: rest => do
    let placement ← ofMapping campaign now mapping
    let others ← ofMappings campaign now rest
    return placement :: others

def staged? : Placement → Option Changeset
  | staged changeset => some changeset
  | _ => none

def deleted? : Placement → Option ChangesetId
  | deleted id => some id
  | _ => none

/-- The number of a stored changeset that is part of the campaign after the rewiring. -/
def member? (campaign : CampaignId) : Placement → Option ChangesetId
  | untouched changeset => if changeset.isAttachedTo campaign then some changeset.id else none
  | staged changeset =>
    if changeset.isAttachedTo campaign && !changeset.id.isUnsaved then some changeset.id else none
  | nothing => none
  | deleted _ => none

end Placement

/-- A campaign after its rewiring, and what is still to be done in the store. -/
structure Rewiring where
  campaign : Campaign
  /-- Changesets to write; new ones have no number yet. -/
  changesets : List Changeset
  /-- Changesets to delete. -/
  deleted : List ChangesetId
deriving DecidableEq

/-- Rewires a campaign. Its changesets are then the stored ones that are part of it. -/
def Campaign.rewire (campaign : Campaign) (now : Time) (mappings : List Mapping) :
    Except CampaignError Rewiring := do
  let placements ← Placement.ofMappings campaign.id now mappings
  return {
    campaign := { campaign with
      changesetIds := IdSet.ofList (placements.filterMap (Placement.member? campaign.id)) }
    changesets := placements.filterMap Placement.staged?
    deleted := placements.filterMap Placement.deleted? }

end BatchChanges
