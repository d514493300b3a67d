import BatchChanges.Scenario.Answer
import BatchChanges.Scenario.Script

/-! # Running scenarios

Every step has a result. Besides, a report says what the step did: the calls to the code host, how
long was slept, which changesets and campaigns are new, changed or gone, how many leases there are
and what time it is.

Script items may hold steps that are made during a call to the code host, which may themselves call
it. As every call takes an item out of the script, calls are nested no deeper than there are items.
-/

namespace BatchChanges.Scenario

def resultOf {ε α : Type} (failure : ε → Json) (write : α → Json) (activity : Action Scene ε α)
    (world : World Scene) : Json × World Scene :=
  match activity world with
  | (.ok result, world) => (write result, world)
  | (.error interrupt, world) => (interrupt.toJson failure, world)

def resultOfAccess {ε α : Type} (failure : ε → Json) (write : α → Json) (activity : Access ε α)
    (backend : Backend) : Json × Backend :=
  match activity backend with
  | (.ok result, backend) => (write result, backend)
  | (.error error, backend) => (failure error, backend)

def resultOfCall {α : Type} (write : α → Json) (call : Access StoreError α) (world : World Scene) :
    Json × World Scene :=
  resultOf StoreError.toJson write (Action.access call) world

def noResult {α : Type} (_ : α) : Json := .null

def patched? (row : Changeset) (patch : Json) : Option Changeset :=
  (Json.overlay? row.toJson patch).bind Changeset.read?

def runTransactionStep (visible : Visibility) (step : TransactionStep) (backend : Backend) :
    Json × Backend :=
  let call {α : Type} (write : α → Json) (activity : Access StoreError α) : Json × Backend :=
    resultOfAccess StoreError.toJson write activity backend
  match step with
  | .getCampaign id =>
    call (.ofOption Campaign.toJson) (Access.readCampaign id)
  | .createCampaign campaign =>
    call (fun campaign => campaign.id.toJson) (Access.createCampaign campaign)
  | .updateCampaign campaign => call noResult (Access.updateCampaign campaign)
  | .mappingRows campaignSpec campaign =>
    call (fun rows => .array (rows.map MappingRow.toJson))
      (Access.readMapping campaignSpec campaign)
  | .getChangesets ids =>
    call (fun rows => .array (rows.map Changeset.toJson)) (Access.readChangesets ids)
  | .getChangesetSpecs ids =>
    call (fun rows => .array (rows.map ChangesetSpec.toJson)) (Access.readChangesetSpecs ids)
  | .getRepos ids =>
    call (fun repos => .array ((Store.pick repos ids).map Repo.toJson)) Access.readRepos
  | .listChangesets campaign =>
    call (fun rows => .array (rows.map (·.id.toJson))) (Access.listChangesets campaign)
  | .upsertChangeset changeset =>
    call (fun changeset => changeset.id.toJson) (Access.upsertChangeset changeset)
  | .patchChangeset id patch =>
    match Access.readChangesets [id] backend with
    | (.error error, backend) => (error.toJson, backend)
    | (.ok [], backend) => (.null, backend)
    | (.ok (row :: _), backend) =>
      match patched? row patch with
      | none => (BadField.toJson ⟨"patch"⟩, backend)
      | some row =>
        resultOfAccess StoreError.toJson (fun changeset => changeset.id.toJson)
          (Access.upsertChangeset row) backend
  | .deleteChangeset id => call noResult (Access.deleteChangeset id)
  | .hydrate rows actor =>
    resultOfAccess CampaignError.toJson (fun mappings => .array (mappings.map Mapping.toJson))
      (Mapping.hydrate visible actor rows) backend
  | .unreadable bad => (bad.toJson, backend)

/-- Makes the steps of a transaction; one that fails does not end it. -/
def runTransactionSteps (visible : Visibility) :
    List TransactionStep → Backend → List Json × Backend
  | [], backend => ([], backend)
  | step :: rest, backend =>
    let (result, backend) := runTransactionStep visible step backend
    let (results, backend) := runTransactionSteps visible rest backend
    (result :: results, backend)

def finishTransaction (before : Store) : Ending → Access StoreError Unit
  | .commit => Access.commit before
  | .rollback => Access.rollback before
  | .drop => Access.restore before

def runTransaction (visible : Visibility) (steps : List TransactionStep) (ending : Ending)
    (backend : Backend) : Json × Backend :=
  match Access.begin backend with
  | (.error error, backend) => (error.toJson, backend)
  | (.ok before, backend) =>
    let (results, backend) := runTransactionSteps visible steps backend
    let (result, backend) := resultOfAccess StoreError.toJson (fun _ => .text "ok")
      (finishTransaction before ending) backend
    (.object [("steps", .array results), ("end", result)], backend)

/-- A lease, or the same with a token that no lease has. -/
def presented (lease : Lease) (forged : Bool) : Lease :=
  if forged then { lease with token := "" } else lease

def claimAs (worker name : String) (length : Duration) (time : Time) :
    Action Scene StoreError Json := do
    match ← Action.claim worker time length with
    | none => return .null
    | some (row, lease) =>
      Action.change fun world => { world with host := world.host.keep name (row, lease) }
      return .object [("changeset", row.toJson), ("lease", lease.toPublicJson)]

def renewAs (name : String) (row : Changeset) (lease : Lease) (length : Duration) (time : Time)
    (forged : Bool) : Action Scene StoreError Json := do
  let (verdict, renewed) ←
    Action.timedAccess (Access.renew (presented lease forged) time length)
  unless forged do
    Action.change fun world => { world with host := world.host.keep name (row, renewed) }
  return .object [("result", verdict.toJson), ("lease", renewed.toPublicJson)]

/-- The number of changesets that one step drains at most. -/
def drainLimit : Nat := 50

/-- The number of attempts that a worker of a pool makes at most before it rests. -/
def poolLimit : Nat := 10000

def runStep (host : Host Scene) (step : Step) (world : World Scene) : Json × World Scene :=
  let scene := world.host
  let settings := scene.settings
  let now := world.clock.now
  let withScene (scene : Scene) : Json × World Scene := (.null, { world with host := scene })
  match step with
  | .advance duration => resultOf StoreError.toJson noResult (Action.advance duration) world
  | .script items => withScene { scene with script := scene.script ++ items }
  | .hide repos => withScene { scene with hidden := repos }
  | .configure settings => (settings.toJson, { world with host := { scene with settings } })
  | .fail call skip detail =>
    let faults := call.toList.map fun call => ⟨call, skip, detail⟩
    (.null,
      { world with backend := { world.backend with faults := world.backend.faults ++ faults } })
  | .putRepo repo =>
    resultOfCall noResult (Access.direct fun store => .ok ((), store.putRepo repo)) world
  | .addCampaignSpec spec =>
    resultOfCall CampaignSpec.toJson (Access.direct fun store => .ok (store.addCampaignSpec spec))
      world
  | .addChangesetSpec spec =>
    resultOfCall ChangesetSpec.toJson
      (Access.direct fun store => .ok (store.addChangesetSpec spec)) world
  | .putChangeset changeset =>
    resultOfCall (fun changeset => changeset.id.toJson)
      (Access.direct fun store => store.upsertChangeset changeset) world
  | .patchChangeset id patch =>
    match world.backend.store.changesets.find? id with
    | none => (.null, world)
    | some row =>
      match patched? row patch with
      | none => (BadField.toJson ⟨"patch"⟩, world)
      | some row =>
        resultOfCall (fun changeset => changeset.id.toJson)
          (Access.direct fun store => store.upsertChangeset row) world
  | .getCampaignSpec randId =>
    resultOfCall (.ofOption CampaignSpec.toJson) (Access.findCampaignSpec randId) world
  | .getCampaign id =>
    resultOfCall (.ofOption Campaign.toJson)
      (Access.look fun store => store.campaigns.find? id) world
  | .getCampaignByName space name =>
    resultOfCall (.ofOption Campaign.toJson) (Access.findCampaign space name) world
  | .getChangeset id =>
    resultOfCall (.ofOption Changeset.toJson)
      (Access.look fun store => store.changesets.find? id) world
  | .getChangesetSpec id =>
    resultOfCall (.ofOption ChangesetSpec.toJson) (Access.readChangesetSpec id) world
  | .getRepo id => resultOfCall (.ofOption Repo.toJson) (Access.readRepo id) world
  | .listChangesets campaign =>
    resultOfCall (fun rows => .array (rows.map (·.id.toJson)))
      (Access.look fun store => store.listChangesets campaign) world
  | .cancel campaign => resultOfCall Json.natural (Access.cancelQueued campaign) world
  | .lease worker name length time =>
    resultOf StoreError.toJson (fun result => result)
      (claimAs worker name length (time.getD now)) world
  | .renew name length time forged =>
    match scene.claims.lookup name with
    | none => (BadField.toJson ⟨"as"⟩, world)
    | some (row, lease) =>
      resultOf StoreError.toJson (fun result => result)
        (renewAs name row lease length (time.getD now) forged) world
  | .finish name patch forged =>
    match scene.claims.lookup name with
    | none => (BadField.toJson ⟨"as"⟩, world)
    | some (row, lease) =>
      match patched? row patch with
      | none => (BadField.toJson ⟨"patch"⟩, world)
      | some outcome =>
        resultOfCall Verdict.toJson (Access.finish (presented lease forged) outcome) world
  | .requeue maxAttempts time =>
    resultOfCall Json.natural (Access.requeueDue (time.getD now) maxAttempts) world
  | .resetExpired time =>
    resultOfCall Json.natural (Access.resetExpired (time.getD now)) world
  | .transaction steps ending =>
    let (result, backend) := runTransaction scene.visibility steps ending world.backend
    (result, { world with backend })
  | .apply application =>
    resultOf CampaignError.toJson Campaign.toJson
      (Action.access (application.run scene.visibility now)) world
  | .close closure =>
    resultOf CampaignError.toJson Campaign.toJson (Action.access (closure.run now)) world
  | .reconcile worker =>
    resultOf ReconcileError.toJson (.ofOption AttemptReport.toJson)
      (Reconcile.next host settings worker) world
  | .drain =>
    resultOf ReconcileError.toJson (fun reports => .array (reports.map AttemptReport.toJson))
      (Reconcile.drain host settings "w" drainLimit) world
  | .housekeeping =>
    resultOf ReconcileError.toJson
      (fun counts => .object [("requeued", .natural counts.1), ("reclaimed", .natural counts.2)])
      (Reconcile.housekeeping settings) world
  | .pool milliseconds =>
    (.text "stopped", Reconcile.pool host settings poolLimit milliseconds world)
  | .unreadable bad => (bad.toJson, world)

def runSteps (host : Host Scene) : Runner
  | [], world => ([], world)
  | step :: rest, world =>
    let (result, world) := runStep host step world
    let (results, world) := runSteps host rest world
    (result :: results, world)

/-- The simulated code host, whose calls are nested no deeper than `depth`. -/
def hostOfDepth : (depth : Nat) → Host Scene
  | 0 => host fun _ world => ([], world)
  | depth + 1 => host (runSteps (hostOfDepth depth))

def changedRows {kind : Kind} {α : Type} [DecidableEq α] (before after : Table kind α) : List α :=
  (after.filter fun id row => decide (before.find? id ≠ some row)).rows

/-- The identifiers of rows that are in no other table. -/
def goneIds {kind : Kind} {α : Type} (before after : Table kind α) : List (Id kind) :=
  before.ids.filter fun id => !after.contains id

def listField (items : List Json) : Option Json :=
  if items.isEmpty then none else some (.array items)

def report (before after : World Scene) (result : Json) : Json :=
  let store := after.backend.store
  .ofFields [("r", some result),
    ("calls", listField (after.host.calls.map .object)),
    ("slept_secs", listField ((after.clock.sleeps.drop before.clock.sleeps.length).map
      fun duration => .natural duration.wholeSeconds)),
    ("changed", listField
      ((changedRows before.backend.store.changesets store.changesets).map Changeset.toJson)),
    ("gone", listField
      ((goneIds before.backend.store.changesets store.changesets).map Id.toJson)),
    ("campaigns", listField
      ((changedRows before.backend.store.campaigns store.campaigns).map Campaign.toJson)),
    ("leases", some (.natural store.leases.size)),
    ("clock", some after.clock.now.toJson)]

def withoutCalls (world : World Scene) : World Scene :=
  { world with host := { world.host with calls := [] } }

def reports (host : Host Scene) : List Step → World Scene → List Json
  | [], _ => []
  | step :: rest, world =>
    let before := withoutCalls world
    let (result, after) := runStep host step before
    report before after result :: reports host rest after

def run (start : Time) (settings : Settings) (steps : List Step) : List Json :=
  reports (hostOfDepth (countSteps steps)) steps { clock := { now := start }, host := { settings } }

/-- A changeset and what operations are run on it with. -/
structure Bench where
  settings : Settings := {}
  repo : Repo
  push : Option BranchPush
  row : Changeset

/-- Runs operations one after the other, also after one that failed. Nothing is reported if time
runs out. -/
def executions? (host : Host Scene) (bench : Bench) :
    List Operation → World Scene → Option (List Json)
  | [], _ => some []
  | operation :: rest, world => do
    let activity : Action Scene ReconcileError (Option ReconcileError × Changeset) :=
      Reconcile.execute host bench.settings.sleepAfterPush operation bench.repo bench.push bench.row
    let (failure, row, after) ←
      match activity (withoutCalls world) with
      | (.ok (failure, row), after) => some (failure, row, after)
      | (.error _, _) => none
    let result := (failure.map ReconcileError.toJson).getD (.text "ok")
    let entry := .object [("op", .text operation.text), ("r", result),
      ("calls", .array (after.host.calls.map .object)), ("changeset", row.toJson),
      ("clock", after.clock.now.toJson)]
    let others ← executions? host { bench with row } rest after
    return entry :: others

/-- Runs operations from a time on, with a script for the code host. -/
def execute? (start : Time) (script : List ScriptItem) (bench : Bench)
    (operations : List Operation) : Option (List Json) :=
  executions? (hostOfDepth (countItems script)) bench operations
    { clock := { now := start }, host := { settings := bench.settings, script } }

end BatchChanges.Scenario
