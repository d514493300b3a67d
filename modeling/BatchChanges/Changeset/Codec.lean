import BatchChanges.Changeset
import BatchChanges.Spec.Codec

/-! # Changesets and repositories in data formats -/

namespace BatchChanges

variable {V : Type} [Document V]

namespace IdSet

variable {kind : Kind}

/-- A set is written as the array of its members in ascending order. -/
def toJson (set : IdSet kind) : Json := .array (set.ids.map Id.toJson)

/-- The members may come in any order and more than once. -/
def read? (value : V) : Option (IdSet kind) := (Document.list? Id.read? value).map ofList

end IdSet

namespace HostState

def toJson (state : HostState) : Json := .text state.word

def read? (value : V) : Option HostState := (Document.word? value).bind ofWord?

end HostState

namespace Publication

def toJson (state : Publication) : Json := .text state.word

def read? (value : V) : Option Publication := (Document.word? value).bind ofWord?

end Publication

namespace QueueState

def toJson (state : QueueState) : Json := .text state.word

def read? (value : V) : Option QueueState := (Document.word? value).bind ofWord?

end QueueState

namespace Repo

def toJson (repo : Repo) : Json :=
  .object [("id", repo.id.toJson), ("name", .text repo.name), ("code_host", repo.codeHost.toJson)]

def read? (value : V) : Option Repo := do
  let fields : Fields V ← Document.record? ["id", "name", "code_host"] value
  return {
    id := ← fields.required "id" Id.read?
    name := ← fields.required "name" Document.text?
    codeHost := ← fields.required "code_host" CodeHost.read? }

end Repo

namespace Changeset

def toJson (changeset : Changeset) : Json :=
  .ofFields [("id", some changeset.id.toJson), ("repo_id", some changeset.repoId.toJson),
    ("code_host", some changeset.codeHost.toJson),
    ("external_id", changeset.externalId.map .text),
    ("external_branch", changeset.externalBranch.map .text),
    ("external_state", changeset.externalState.map HostState.toJson),
    ("external_title", changeset.externalTitle.map .text),
    ("external_updated_at", changeset.externalUpdatedAt.map Time.toJson),
    ("diff_stat", changeset.diffStat.map DiffStat.toJson),
    ("publication_state", some changeset.publication.toJson),
    ("unsynced", some (.bool changeset.unsynced)),
    ("current_spec_id", changeset.currentSpecId.map Id.toJson),
    ("previous_spec_id", changeset.previousSpecId.map Id.toJson),
    ("owned_by_campaign_id", changeset.ownerId.map Id.toJson),
    ("campaign_ids", some (IdSet.toJson changeset.campaignIds)),
    ("closing", some (.bool changeset.closing)),
    ("reconciler_state", some changeset.queueState.toJson),
    ("failure_message", changeset.failureMessage.map .text),
    ("num_failures", some (.natural changeset.failures.toNat)),
    ("process_after", changeset.processAfter.map Time.toJson),
    ("created_at", some changeset.createdAt.toJson),
    ("updated_at", some changeset.updatedAt.toJson)]

def fieldNames : List String :=
  ["id", "repo_id", "code_host", "external_id", "external_branch", "external_state",
    "external_title", "external_updated_at", "diff_stat", "publication_state", "unsynced",
    "current_spec_id", "previous_spec_id", "owned_by_campaign_id", "campaign_ids", "closing",
    "reconciler_state", "failure_message", "num_failures", "process_after", "created_at",
    "updated_at"]

def read? (value : V) : Option Changeset := do
  let fields : Fields V ← Document.record? fieldNames value
  return {
    id := ← fields.required "id" Id.read?
    repoId := ← fields.required "repo_id" Id.read?
    codeHost := ← fields.required "code_host" CodeHost.read?
    externalId := ← fields.optional "external_id" Document.text?
    externalBranch := ← fields.optional "external_branch" Document.text?
    externalState := ← fields.optional "external_state" HostState.read?
    externalTitle := ← fields.optional "external_title" Document.text?
    externalUpdatedAt := ← fields.optional "external_updated_at" Time.read?
    diffStat := ← fields.optional "diff_stat" DiffStat.read?
    publication := ← fields.withDefault "publication_state" .unpublished Publication.read?
    unsynced := ← fields.withDefault "unsynced" false Document.bool?
    currentSpecId := ← fields.optional "current_spec_id" Id.read?
    previousSpecId := ← fields.optional "previous_spec_id" Id.read?
    ownerId := ← fields.optional "owned_by_campaign_id" Id.read?
    campaignIds := ← fields.withDefault "campaign_ids" ∅ IdSet.read?
    closing := ← fields.withDefault "closing" false Document.bool?
    queueState := ← fields.withDefault "reconciler_state" .queued QueueState.read?
    failureMessage := ← fields.optional "failure_message" Document.text?
    failures := ← fields.withDefault "num_failures" 0 Document.uint32?
    processAfter := ← fields.optional "process_after" Time.read?
    createdAt := ← fields.required "created_at" Time.read?
    updatedAt := ← fields.required "updated_at" Time.read? }

end Changeset

end BatchChanges
