import BatchChanges.Campaign.Rewire

/-! # Applying a campaign spec

Applying a spec creates the campaign of its name, or moves an existing one on to the spec. It takes
four steps, between which others may work with the store: the spec is read, the campaign of its
name is read and the caller's conditions are checked, the changesets of the campaign that wait in
the queue are canceled, and one transaction rewires the campaign. A failure to cancel is of no
consequence; any other failure ends the application, and the transaction leaves nothing behind
unless it is committed.
-/

namespace BatchChanges

/-- Who wants to apply which spec, and on which conditions. -/
structure Application where
  /-- The name of the campaign spec. -/
  randId : String
  actor : Actor
  /-- The campaign that should be moved on. -/
  expected : Option CampaignId := none
  /-- Whether there should be no campaign of this name. -/
  mustBeNew : Bool := false
deriving DecidableEq

namespace Application

def readSpec (application : Application) : Access CampaignError CampaignSpec := do
  match ← Access.wrapping .store (Access.findCampaignSpec application.randId) with
  | none => throw (.campaignSpecNotFound application.randId)
  | some spec =>
    if application.actor.mayActFor spec.userId then return spec
    else throw (.unauthorized application.actor.userId)

/-- Why a campaign of the spec's name, or its absence, does not meet the conditions. -/
def refusal? (application : Application) (existing : Option Campaign) : Option CampaignError :=
  if existing.isSome && application.mustBeNew then some .campaignExists
  else
    let found := existing.map (·.id)
    match application.expected with
    | some expected =>
      if found = some expected then closed? existing else some (.otherCampaign expected found)
    | none => closed? existing
where
  closed? (existing : Option Campaign) : Option CampaignError :=
    (existing.filter (·.isClosed)).map fun campaign => .campaignClosed campaign.id

/-- Reads the campaign of the spec's name and checks the conditions. -/
def readCampaign (application : Application) (spec : CampaignSpec) :
    Access CampaignError (Option Campaign) := do
  let existing ← Access.wrapping .store (Access.findCampaign spec.space spec.name)
  match application.refusal? existing with
  | some error => throw error
  | none => return existing

/-- The campaign as the spec wants it: a new one without a number, or the existing one. -/
def revised (application : Application) (spec : CampaignSpec) (existing : Option Campaign)
    (now : Time) : Campaign :=
  let applier := application.actor.userId
  { id := (existing.map (·.id)).getD .unsaved
    name := spec.name
    description := spec.description
    space := spec.space
    campaignSpecId := spec.id
    changesetIds := (existing.map (·.changesetIds)).getD ∅
    initialApplierId := (existing.map (·.initialApplierId)).getD applier
    lastApplierId := applier
    lastAppliedAt := now
    closedAt := existing.bind (·.closedAt)
    createdAt := (existing.map (·.createdAt)).getD now
    updatedAt := now }

/-- Cancels the waiting changesets of a stored campaign, if the store does not fail. -/
def cancel (campaign : Campaign) : Access CampaignError Unit :=
  if campaign.id.isUnsaved then pure ()
  else do
    let _ ← Access.attempt (Access.cancelQueued campaign.id)
    return ()

def delete : List ChangesetId → Access StoreError Unit
  | [] => pure ()
  | id :: rest => do
    Access.deleteChangeset id
    delete rest

/-- Writes changesets and adds those that are part of the campaign to it. -/
def write (campaign : Campaign) : List Changeset → Access StoreError Campaign
  | [] => pure campaign
  | changeset :: rest => do
    let stored ← Access.upsertChangeset changeset
    if stored.isAttachedTo campaign.id then
      write { campaign with changesetIds := campaign.changesetIds.add stored.id } rest
    else write campaign rest

def rewire (application : Application) (visible : Visibility) (spec : CampaignSpec)
    (campaign : Campaign) (now : Time) : Access CampaignError Campaign := do
  let campaign ←
    if campaign.id.isUnsaved then Access.wrapping .store (Access.createCampaign campaign)
    else pure campaign
  let rows ← Access.wrapping .store (Access.readMapping spec.id campaign.id)
  let mappings ← Mapping.hydrate visible application.actor rows
  let rewiring ← ExceptT.mk (pure (campaign.rewire now mappings))
  Access.wrapping .store (delete rewiring.deleted)
  let campaign ← Access.wrapping .store (write rewiring.campaign rewiring.changesets)
  Access.wrapping .store (Access.updateCampaign campaign)
  return campaign

/-- The transaction. -/
def transact (application : Application) (visible : Visibility) (spec : CampaignSpec)
    (campaign : Campaign) (now : Time) : Access CampaignError Campaign := do
  let before ← Access.wrapping .store Access.begin
  match ← Access.attempt (application.rewire visible spec campaign now) with
  | .ok campaign =>
    Access.wrapping .store (Access.commit before)
    return campaign
  | .error error =>
    let _ ← Access.attempt (Access.rollback before)
    throw error

/-- Applies a spec. A campaign that follows the spec already stays as it is. -/
def run (application : Application) (visible : Visibility) (now : Time) :
    Access CampaignError Campaign := do
  let spec ← application.readSpec
  let existing ← application.readCampaign spec
  match existing.filter (·.campaignSpecId == spec.id) with
  | some campaign => return campaign
  | none =>
    let campaign := application.revised spec existing now
    cancel campaign
    application.transact visible spec campaign now

end Application

end BatchChanges
