import BatchChanges.Store

/-! # Which changeset belongs to which spec

Before a campaign spec is applied, each of its changeset specs is paired with the changeset that it
is about: the one with its pull request, or the one that the campaign created for its branch. A
changeset is paired once only; specs choose in the order of their numbers. Changesets of the
campaign that no spec chose are listed after the specs.
-/

namespace BatchChanges

/-- A spec with the changeset that it is about, or either of them alone. -/
structure MappingRow where
  repoId : RepoId
  changesetId : Option ChangesetId
  specId : Option ChangesetSpecId
deriving DecidableEq

namespace Store

def headRefOf? (store : Store) (changeset : Changeset) : Option String :=
  ((changeset.currentSpecId.bind store.changesetSpecs.find?).bind ChangesetSpec.branchPush?).map
    (·.headRef)

/-- Whether a spec of a campaign is about a changeset. -/
def isAbout (store : Store) (campaign : CampaignId) (spec : ChangesetSpec)
    (changeset : Changeset) : Bool :=
  changeset.repoId == spec.repoId &&
    match spec.target with
    | .trackExisting externalId => changeset.externalId == some externalId
    | .branchPush push =>
      changeset.isOwnedBy campaign && store.headRefOf? changeset == some push.headRef

/-- Pairs specs, in order, with changesets that are not taken. -/
def pairings (store : Store) (campaign : CampaignId) (taken : IdSet .changeset) :
    List ChangesetSpec → List (ChangesetSpec × Option Changeset)
  | [] => []
  | spec :: rest =>
    match store.changesets.rows.find? fun changeset =>
        !taken.contains changeset.id && store.isAbout campaign spec changeset with
    | some changeset =>
      (spec, some changeset) :: pairings store campaign (taken.add changeset.id) rest
    | none => (spec, none) :: pairings store campaign taken rest

def specsOf (store : Store) (campaignSpec : CampaignSpecId) : List ChangesetSpec :=
  store.changesetSpecs.rows.filter fun spec => spec.campaignSpecId == campaignSpec

/-- The specs of a campaign spec with their changesets, then the campaign's other changesets. -/
def mappingRows (store : Store) (campaignSpec : CampaignSpecId) (campaign : CampaignId) :
    List MappingRow :=
  let pairs := store.pairings campaign ∅ (store.specsOf campaignSpec)
  let paired := pairs.filterMap fun pair => pair.2.map (·.id)
  let others := (store.changesetsOf campaign).filter fun changeset => !paired.contains changeset.id
  (pairs.map fun pair => ⟨pair.1.repoId, pair.2.map (·.id), some pair.1.id⟩) ++
    others.map fun changeset => ⟨changeset.repoId, some changeset.id, none⟩

end Store

end BatchChanges
