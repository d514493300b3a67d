import BatchChanges.Campaign
import BatchChanges.Changeset.Codec

/-! # Campaigns in data formats -/

namespace BatchChanges

variable {V : Type} [Document V]

namespace Campaign

def toJson (campaign : Campaign) : Json :=
  .ofFields [("id", some campaign.id.toJson), ("name", some (.text campaign.name)),
    ("description", some (.text campaign.description)),
    ("namespace", some campaign.space.toJson),
    ("campaign_spec_id", some campaign.campaignSpecId.toJson),
    ("changeset_ids", some (IdSet.toJson campaign.changesetIds)),
    ("initial_applier_id", some campaign.initialApplierId.toJson),
    ("last_applier_id", some campaign.lastApplierId.toJson),
    ("last_applied_at", some campaign.lastAppliedAt.toJson),
    ("closed_at", campaign.closedAt.map Time.toJson),
    ("created_at", some campaign.createdAt.toJson),
    ("updated_at", some campaign.updatedAt.toJson)]

def fieldNames : List String :=
  ["id", "name", "description", "namespace", "campaign_spec_id", "changeset_ids",
    "initial_applier_id", "last_applier_id", "last_applied_at", "closed_at", "created_at",
    "updated_at"]

def read? (value : V) : Option Campaign := do
  let fields : Fields V ← Document.record? fieldNames value
  return {
    id := ← fields.required "id" Id.read?
    name := ← fields.required "name" Document.text?
    description := ← fields.withDefault "description" "" Document.text?
    space := ← fields.required "namespace" Namespace.read?
    campaignSpecId := ← fields.required "campaign_spec_id" Id.read?
    changesetIds := ← fields.withDefault "changeset_ids" ∅ IdSet.read?
    initialApplierId := ← fields.required "initial_applier_id" Id.read?
    lastApplierId := ← fields.required "last_applier_id" Id.read?
    lastAppliedAt := ← fields.required "last_applied_at" Time.read?
    closedAt := ← fields.optional "closed_at" Time.read?
    createdAt := ← fields.required "created_at" Time.read?
    updatedAt := ← fields.required "updated_at" Time.read? }

end Campaign

end BatchChanges
