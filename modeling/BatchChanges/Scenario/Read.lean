import BatchChanges.Campaign.Codec
import BatchChanges.Scenario.Step

/-! # Reading scenarios

A step is an object that names its kind under `op`. Only the fields that a kind of step has are
looked at. A step with a field that is missing or cannot be read is kept as an unreadable one.
-/

namespace BatchChanges.Scenario

open Request

def callOfName? : String → Option StoreCall
  | "begin" => some .begin
  | "get_campaign_spec_by_rand_id" => some .findCampaignSpec
  | "get_campaign_by_name" => some .findCampaign
  | "cancel_queued_campaign_changesets" => some .cancelQueued
  | "lease_next_changeset" => some .leaseNext
  | "renew_lease" => some .renew
  | "finish_lease" => some .finish
  | "get_changeset_spec" => some .readChangesetSpec
  | "get_repo" => some .readRepo
  | "requeue_due_errored" => some .requeueDue
  | "reset_expired_leases" => some .resetExpired
  | "tx.create_campaign" => some .createCampaign
  | "tx.update_campaign" => some .updateCampaign
  | "tx.rewirer_mapping_rows" => some .readMapping
  | "tx.get_changesets" => some .readChangesets
  | "tx.upsert_changeset" => some .upsertChangeset
  | "tx.delete_changeset" => some .deleteChangeset
  | "tx.commit" => some .commit
  | "tx.rollback" => some .rollback
  | _ => none

/-- A duration in seconds and milliseconds, either of which may be left out. -/
def readDuration (request : Json) : Except BadField Duration := do
  let seconds ← withDefault request "secs" 0 Document.uint64?
  let milliseconds ← withDefault request "ms" 0 Document.uint64?
  return (Duration.ofSeconds seconds.toNat).add (.ofMilliseconds milliseconds.toNat)

def readTime (request : Json) : Except BadField (Option Time) := optional request "now" Time.read?

def readActor (request : Json) : Except BadField Actor := do
  return {
    userId := ← required request "user" Id.read?
    siteAdmin := ← withDefault request "admin" false Document.bool? }

def readEnding? (value : Json) : Option Ending :=
  match Document.text? value with
  | some "commit" => some .commit
  | some "rollback" => some .rollback
  | some "drop" => some .drop
  | _ => none

def readMappingRow? (value : Json) : Option MappingRow :=
  Except.toOption do
    return {
      repoId := ← required value "repo_id" Id.read?
      changesetId := ← optional value "changeset_id" Id.read?
      specId := ← optional value "changeset_spec_id" Id.read? }

def readReply? (value : Json) : Option Reply := do
  let fields : Fields Json ← Document.fields? value
  return {
    externalId := ← fields.optional "external_id" Document.text?
    branch := ← fields.optional "external_branch" Document.text?
    state := ← fields.optional "state" HostState.read?
    title := ← fields.optional "title" Document.text?
    diffStat := ← fields.optional "diff_stat" DiffStat.read?
    updatedAt := ← fields.optional "updated_at" Time.read? }

/-- The failure that a script item tells the code host to report. -/
def readFailure? (fields : Fields Json) : Option (Option HostError) := do
  let detail ← fields.withDefault "message" "" Document.text?
  fields.optional "error" fun kind => (Document.text? kind).bind (HostError.ofName? detail)

def readTransactionStep (step : Json) : Except BadField TransactionStep := do
  match ← required step "op" Document.text? with
  | "get_campaign" => return .getCampaign (← required step "id" Id.read?)
  | "create_campaign" => return .createCampaign (← required step "campaign" Campaign.read?)
  | "update_campaign" => return .updateCampaign (← required step "campaign" Campaign.read?)
  | "mapping_rows" =>
    return .mappingRows (← required step "campaign_spec" Id.read?)
      (← required step "campaign" Id.read?)
  | "get_changesets" => return .getChangesets (← required step "ids" (Document.list? Id.read?))
  | "get_changeset_specs" =>
    return .getChangesetSpecs (← required step "ids" (Document.list? Id.read?))
  | "get_repos" => return .getRepos (← required step "ids" (Document.list? Id.read?))
  | "list_changesets" => return .listChangesets (← required step "campaign" Id.read?)
  | "upsert_changeset" => return .upsertChangeset (← required step "changeset" Changeset.read?)
  | "patch_changeset" =>
    return .patchChangeset (← required step "id" Id.read?) (← required step "patch" anything)
  | "delete_changeset" => return .deleteChangeset (← required step "id" Id.read?)
  | "hydrate" =>
    return .hydrate (← required step "rows" (Document.list? readMappingRow?)) (← readActor step)
  | _ => .error ⟨"op"⟩

def transactionStep (step : Json) : TransactionStep :=
  match readTransactionStep step with
  | .ok step => step
  | .error bad => .unreadable bad

def readItem? (steps : List Json → List Step) (value : Json) : Option ScriptItem :=
  match value with
  | .null => some .plain
  | value => do
    let fields : Fields Json ← Document.fields? value
    let wait ← fields.optional "advance_ms" Document.uint64?
    let meanwhile ← fields.optional "steps" fun value => (Document.items? value).map steps
    let failure ← readFailure? fields
    let reply ← fields.optional "reply" readReply?
    return .mk (wait.map fun wait => .ofMilliseconds wait.toNat) meanwhile failure
      (reply.getD {})

/-- A step, without its errors; `steps` reads the steps of script items. -/
def readStep (steps : List Json → List Step) (step : Json) : Except BadField Step := do
  match ← required step "op" Document.text? with
  | "advance" => return .advance (← readDuration step)
  | "host" => return .script (← required step "script" (Document.list? (readItem? steps)))
  | "hide" => return .hide (← required step "repos" IdSet.read?)
  | "config" => return .configure (← required step "config" Settings.read?)
  | "fail_store" =>
    return .fail (callOfName? (← required step "method" Document.text?))
      (← withDefault step "skip" 0 Document.uint64?).toNat
      (← required step "message" Document.text?)
  | "repo" => return .putRepo (← required step "repo" Repo.read?)
  | "campaign_spec" => return .addCampaignSpec (← required step "spec" CampaignSpec.read?)
  | "changeset_spec" => return .addChangesetSpec (← required step "spec" ChangesetSpec.read?)
  | "put_changeset" => return .putChangeset (← required step "changeset" Changeset.read?)
  | "patch_changeset" =>
    return .patchChangeset (← required step "id" Id.read?) (← required step "patch" anything)
  | "get_campaign_spec" => return .getCampaignSpec (← required step "rand_id" Document.text?)
  | "get_campaign" => return .getCampaign (← required step "id" Id.read?)
  | "get_campaign_by_name" =>
    return .getCampaignByName (← required step "namespace" Namespace.read?)
      (← required step "name" Document.text?)
  | "get_changeset" => return .getChangeset (← required step "id" Id.read?)
  | "get_changeset_spec" => return .getChangesetSpec (← required step "id" Id.read?)
  | "get_repo" => return .getRepo (← required step "id" Id.read?)
  | "list_changesets" => return .listChangesets (← optional step "campaign" Id.read?)
  | "cancel" => return .cancel (← required step "campaign" Id.read?)
  | "lease" =>
    return .lease (← required step "worker" Document.text?) (← required step "as" Document.text?)
      (← readDuration step) (← readTime step)
  | "renew" =>
    return .renew (← required step "as" Document.text?) (← readDuration step) (← readTime step)
      (← withDefault step "forge" false Document.bool?)
  | "finish" =>
    return .finish (← required step "as" Document.text?)
      ((← optional step "patch" anything).getD (.object []))
      (← withDefault step "forge" false Document.bool?)
  | "requeue" =>
    return .requeue (← required step "max_attempts" Document.uint32?) (← readTime step)
  | "reset_expired" => return .resetExpired (← readTime step)
  | "tx" =>
    return .transaction ((← required step "steps" Document.items?).map transactionStep)
      (← withDefault step "end" .commit readEnding?)
  | "apply" =>
    return .apply {
      randId := ← required step "rand_id" Document.text?
      actor := ← readActor step
      expected := ← optional step "ensure" Id.read?
      mustBeNew := ← withDefault step "fail_if_exists" false Document.bool? }
  | "close_campaign" =>
    return .close {
      id := ← required step "id" Id.read?
      actor := ← readActor step
      withChangesets := ← withDefault step "close_changesets" false Document.bool? }
  | "reconcile" => return .reconcile (← withDefault step "worker" "w" Document.text?)
  | "drain" => return .drain
  | "housekeeping" => return .housekeeping
  | "run_pool" => return .pool (← withDefault step "virtual_ms" 60000 Document.uint64?).toNat
  | _ => .error ⟨"op"⟩

/-- Steps that contain others no deeper than `depth`. -/
def readSteps : (depth : Nat) → List Json → List Step
  | 0, steps => steps.map fun _ => .unreadable ⟨"op"⟩
  | depth + 1, steps => steps.map fun step =>
    match readStep (readSteps depth) step with
    | .ok step => step
    | .error bad => .unreadable bad

/-- The steps of a scenario. JSON values are never nested so deeply that a step would be lost. -/
def steps (values : List Json) : List Step := readSteps 128 values

def script? (value : Json) : Option (List ScriptItem) :=
  Document.list? (readItem? steps) value

end BatchChanges.Scenario
