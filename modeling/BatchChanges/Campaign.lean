import BatchChanges.Spec
import BatchChanges.Table

/-! # Campaigns

A campaign is what applying campaign specs of one name brings about: it points at the spec that was
applied last and holds the changesets that belong to it.
-/

namespace BatchChanges

/-- A batch of changes under way; there is one per namespace and name. -/
structure Campaign where
  id : CampaignId
  name : String
  description : String
  space : Namespace
  campaignSpecId : CampaignSpecId
  /-- The changesets that are part of the campaign. -/
  changesetIds : IdSet .changeset
  initialApplierId : UserId
  lastApplierId : UserId
  lastAppliedAt : Time
  closedAt : Option Time
  createdAt : Time
  updatedAt : Time
deriving DecidableEq

namespace Campaign

def isClosed (campaign : Campaign) : Bool := campaign.closedAt.isSome

end Campaign

end BatchChanges
