import BatchChanges.Plan
import BatchChanges.Changeset.Codec
import BatchChanges.Yaml.Reader

/-! # Previews

A preview shows what the reconciler would do with a changeset, from a document that describes the
changeset as far as planning depends on it, and the two branch pushes. Unlike records of the store,
the document may have no other fields than these.
-/

namespace BatchChanges

/-- A changeset as far as planning depends on it. -/
structure Snapshot where
  publication : Publication := .unpublished
  externalState : Option HostState := none
  codeHost : CodeHost := .github
  closing : Bool := false
  unsynced : Bool := false
  /-- Whether a campaign created the changeset. -/
  owned : Bool := false
  /-- Whether that campaign still holds it. -/
  attached : Bool := true
deriving DecidableEq

namespace Snapshot

def campaign : CampaignId := ⟨1⟩

def toChangeset (snapshot : Snapshot) : Changeset where
  id := .unsaved
  repoId := .unsaved
  codeHost := snapshot.codeHost
  externalState := snapshot.externalState
  publication := snapshot.publication
  unsynced := snapshot.unsynced
  ownerId := if snapshot.owned then some campaign else none
  campaignIds := if snapshot.attached then IdSet.ofList [campaign] else ∅
  closing := snapshot.closing
  createdAt := .epoch
  updatedAt := .epoch

def fieldNames : List String :=
  ["publication_state", "external_state", "code_host", "closing", "unsynced", "owned", "attached"]

def read? {V : Type} [Document V] (value : V) : Option Snapshot := do
  let fields : Fields V ← Document.closedRecord? fieldNames value
  return {
    publication := ← fields.withDefault "publication_state" .unpublished Publication.read?
    externalState := ← fields.optional "external_state" HostState.read?
    codeHost := ← fields.withDefault "code_host" .github CodeHost.read?
    closing := ← fields.withDefault "closing" false Document.bool?
    unsynced := ← fields.withDefault "unsynced" false Document.bool?
    owned := ← fields.withDefault "owned" false Document.bool?
    attached := ← fields.withDefault "attached" true Document.bool? }

end Snapshot

/-- What a preview is asked for. -/
structure Preview where
  snapshot : Snapshot
  previous : Option BranchPush := none
  current : Option BranchPush := none
deriving DecidableEq

namespace Preview

/-- The plan that the reconciler would follow. -/
def plan (preview : Preview) : Except MissingCurrentSpec Plan :=
  Plan.between preview.previous preview.current preview.snapshot.toChangeset

def read? {V : Type} [Document V] (value : V) : Option Preview := do
  let fields : Fields V ←
    Document.closedRecord? ["changeset", "previous_spec", "current_spec"] value
  return {
    snapshot := ← fields.required "changeset" Snapshot.read?
    previous := ← fields.optional "previous_spec" BranchPush.read?
    current := ← fields.optional "current_spec" BranchPush.read? }

def ofYaml? (source : String) : Option Preview := (Yaml.parse? source).bind read?

end Preview

end BatchChanges
