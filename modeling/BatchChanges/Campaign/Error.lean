import BatchChanges.Store.Error

/-! # Why a campaign is not applied or closed

Some failures are guards: the caller asked for them, or can avoid them by asking for something
else.
-/

namespace BatchChanges

/-- Why a campaign is not applied or closed. -/
inductive CampaignError where
  | store (error : StoreError)
  | campaignSpecNotFound (randId : String)
  | campaignNotFound (id : CampaignId)
  /-- The user may not act for the owner. -/
  | unauthorized (user : UserId)
  /-- There should be no campaign of this name, but there is one. -/
  | campaignExists
  /-- The campaign of this name should be another one. -/
  | otherCampaign (expected : CampaignId) (found : Option CampaignId)
  | campaignClosed (id : CampaignId)
  /-- There is no such repository, or the user cannot see it. -/
  | repoNotFound (id : RepoId)
  | changesetNotFound (id : ChangesetId)
  | changesetSpecNotFound (id : ChangesetSpecId)
deriving DecidableEq

namespace CampaignError

def message : CampaignError → String
  | store error => "store error: " ++ error.message
  | campaignSpecNotFound randId => "campaign spec " ++ randId ++ " not found"
  | campaignNotFound id => "campaign " ++ id.text ++ " not found"
  | unauthorized user => "user " ++ user.text ++ " is not allowed to perform this action"
  | campaignExists => "a campaign with this name already exists"
  | otherCampaign expected found =>
    "expected campaign " ++ expected.text ++ ", found " ++ (found.map (·.text)).getD "none"
  | campaignClosed id => "cannot apply a campaign spec to closed campaign " ++ id.text
  | repoNotFound id => "repository " ++ id.text ++ " not found"
  | changesetNotFound id => "changeset " ++ id.text ++ " not found"
  | changesetSpecNotFound id => "changeset spec " ++ id.text ++ " not found"

/-- Whether the caller can avoid the failure. -/
def isGuard : CampaignError → Bool
  | campaignExists | otherCampaign _ _ | campaignClosed _ => true
  | _ => false

end CampaignError

end BatchChanges
