import BatchChanges.Campaign
import BatchChanges.Lease
import BatchChanges.Store.Error

/-! # The store

The store keeps repositories, specs, campaigns and changesets, and a record of each lease that is
held on a changeset. One counter numbers specs, campaigns and changesets alike, so that none of
them ever gets the number of another. All that happens to the store is a function from one store to
the next; a caller that wants to undo keeps the store it started from.
-/

namespace BatchChanges

/-- A lease as the store keeps it. -/
structure LeaseRecord where
  lease : Lease
  /-- Whether the changeset was to be closed when it was claimed. -/
  closingAtClaim : Bool
deriving DecidableEq

/-- All rows, the leases on changesets, and the last number that was given away. -/
structure Store where
  repos : Table .repo Repo := ∅
  campaignSpecs : Table .campaignSpec CampaignSpec := ∅
  changesetSpecs : Table .changesetSpec ChangesetSpec := ∅
  campaigns : Table .campaign Campaign := ∅
  changesets : Table .changeset Changeset := ∅
  leases : Table .changeset LeaseRecord := ∅
  /-- The last number that was given out. Identifiers have 64 bits; fewer than `2 ^ 63` numbers are
  assumed to be given out, so that it never runs over. -/
  lastId : Int := 0
deriving DecidableEq

namespace Store

def empty : Store := {}

instance : EmptyCollection Store := ⟨empty⟩

instance : Inhabited Store := ⟨empty⟩

/-- Stores a repository, in the stead of one with the same identifier. -/
def putRepo (store : Store) (repo : Repo) : Store :=
  { store with repos := store.repos.insert repo.id repo }

def addCampaignSpec (store : Store) (spec : CampaignSpec) : CampaignSpec × Store :=
  let numbered := { spec with id := ⟨store.lastId + 1⟩ }
  (numbered, { store with
    campaignSpecs := store.campaignSpecs.insert numbered.id numbered
    lastId := store.lastId + 1 })

def addChangesetSpec (store : Store) (spec : ChangesetSpec) : ChangesetSpec × Store :=
  let numbered := { spec with id := ⟨store.lastId + 1⟩ }
  (numbered, { store with
    changesetSpecs := store.changesetSpecs.insert numbered.id numbered
    lastId := store.lastId + 1 })

/-- The campaign spec that users know by this name. -/
def campaignSpecByRandId? (store : Store) (randId : String) : Option CampaignSpec :=
  store.campaignSpecs.rows.find? fun spec => spec.randId == randId

/-- The campaign of this namespace and name. -/
def campaignByName? (store : Store) (space : Namespace) (name : String) : Option Campaign :=
  store.campaigns.rows.find? fun campaign => campaign.space == space && campaign.name == name

/-- The changesets that are part of a campaign. -/
def changesetsOf (store : Store) (campaign : CampaignId) : List Changeset :=
  store.changesets.rows.filter fun changeset => changeset.isAttachedTo campaign

def listChangesets (store : Store) : Option CampaignId → List Changeset
  | some campaign => store.changesetsOf campaign
  | none => store.changesets.rows

/-- The rows of a table that the identifiers name, in their order; missing ones are left out. -/
def pick {kind : Kind} {α : Type} (table : Table kind α) (ids : List (Id kind)) : List α :=
  ids.filterMap table.find?

/-- Whether another campaign has the namespace and name of this one. -/
def isDuplicate (store : Store) (campaign : Campaign) : Bool :=
  store.campaigns.rows.any fun other =>
    other.space == campaign.space && other.name == campaign.name && other.id != campaign.id

/-- Numbers a campaign and stores it, unless there is one of its namespace and name. -/
def insertCampaign (store : Store) (campaign : Campaign) :
    Except StoreError (Campaign × Store) :=
  if store.isDuplicate campaign then .error (.duplicateCampaign campaign.space campaign.name)
  else
    let numbered := { campaign with id := ⟨store.lastId + 1⟩ }
    .ok (numbered, { store with
      campaigns := store.campaigns.insert numbered.id numbered
      lastId := store.lastId + 1 })

def replaceCampaign (store : Store) (campaign : Campaign) : Except StoreError Store :=
  if store.campaigns.contains campaign.id then
    .ok { store with campaigns := store.campaigns.insert campaign.id campaign }
  else .error (.campaignNotFound campaign.id)

/-- Numbers a changeset that has no number yet and stores it; writes any other over the one that
has its number. -/
def upsertChangeset (store : Store) (changeset : Changeset) :
    Except StoreError (Changeset × Store) :=
  if changeset.id.isUnsaved then
    let numbered := { changeset with id := ⟨store.lastId + 1⟩ }
    .ok (numbered, { store with
      changesets := store.changesets.insert numbered.id numbered
      lastId := store.lastId + 1 })
  else if store.changesets.contains changeset.id then
    .ok (changeset, { store with
      changesets := store.changesets.insert changeset.id changeset })
  else .error (.changesetNotFound changeset.id)

/-- Removes a changeset. A lease on it stays. -/
def deleteChangeset (store : Store) (id : ChangesetId) : Except StoreError Store :=
  if store.changesets.contains id then
    .ok { store with changesets := store.changesets.erase id }
  else .error (.changesetNotFound id)

end Store

end BatchChanges
