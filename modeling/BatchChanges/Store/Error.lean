import BatchChanges.Spec
import BatchChanges.Text.Quoted

/-! # Failures of the store -/

namespace BatchChanges

/-- Why a store does not do what it is asked to. -/
inductive StoreError where
  | campaignNotFound (id : CampaignId)
  | changesetNotFound (id : ChangesetId)
  /-- A campaign of this namespace and name exists already. -/
  | duplicateCampaign (space : Namespace) (name : String)
  /-- The store itself failed. -/
  | backend (detail : String)
deriving DecidableEq

namespace StoreError

def message : StoreError → String
  | campaignNotFound id => "campaign " ++ id.text ++ " not found"
  | changesetNotFound id => "changeset " ++ id.text ++ " not found"
  | duplicateCampaign space name =>
    "campaign named " ++ Text.quoted name ++ " already exists in namespace " ++ space.text
  | backend detail => "storage error: " ++ detail

end StoreError

end BatchChanges
