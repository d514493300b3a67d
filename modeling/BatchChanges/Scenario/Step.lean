import BatchChanges.Campaign.Apply
import BatchChanges.Campaign.Close
import BatchChanges.Host
import BatchChanges.Request
import BatchChanges.Settings

/-! # Scenarios

A scenario is a list of steps, made one after the other on a store, a clock and a simulated code
host. A script tells the code host what to do at each call: let time pass, let more steps be made
before it answers, fail, or answer in some other way than it would by itself. Steps that cannot be
read are part of a scenario too; they change nothing.
-/

namespace BatchChanges.Scenario

/-- What a code host says in other words than by itself. -/
structure Reply where
  externalId : Option String := none
  branch : Option String := none
  state : Option HostState := none
  title : Option String := none
  diffStat : Option DiffStat := none
  updatedAt : Option Time := none
deriving DecidableEq

/-- How a transaction ends. -/
inductive Ending where
  | commit
  | rollback
  /-- The transaction is given up without a call. -/
  | drop
deriving DecidableEq

/-- A step inside of a transaction. -/
inductive TransactionStep where
  | getCampaign (id : CampaignId)
  | createCampaign (campaign : Campaign)
  | updateCampaign (campaign : Campaign)
  | mappingRows (campaignSpec : CampaignSpecId) (campaign : CampaignId)
  | getChangesets (ids : List ChangesetId)
  | getChangesetSpecs (ids : List ChangesetSpecId)
  | getRepos (ids : List RepoId)
  | listChangesets (campaign : CampaignId)
  | upsertChangeset (changeset : Changeset)
  | patchChangeset (id : ChangesetId) (patch : Json)
  | deleteChangeset (id : ChangesetId)
  | hydrate (rows : List MappingRow) (actor : Actor)
  | unreadable (bad : BadField)

mutual

/-- A step of a scenario. -/
inductive Step where
  | advance (duration : Duration)
  | script (items : List ScriptItem)
  /-- Hides repositories from all but site admins. -/
  | hide (repos : IdSet .repo)
  | configure (settings : Settings)
  /-- Lets a call fail later; no call at all if its name is unknown. -/
  | fail (call : Option StoreCall) (skip : Nat) (detail : String)
  | putRepo (repo : Repo)
  | addCampaignSpec (spec : CampaignSpec)
  | addChangesetSpec (spec : ChangesetSpec)
  | putChangeset (changeset : Changeset)
  | patchChangeset (id : ChangesetId) (patch : Json)
  | getCampaignSpec (randId : String)
  | getCampaign (id : CampaignId)
  | getCampaignByName (space : Namespace) (name : String)
  | getChangeset (id : ChangesetId)
  | getChangesetSpec (id : ChangesetSpecId)
  | getRepo (id : RepoId)
  | listChangesets (campaign : Option CampaignId)
  | cancel (campaign : CampaignId)
  /-- Claims the next changeset and keeps the lease under a name. -/
  | lease (worker name : String) (length : Duration) (time : Option Time)
  | renew (name : String) (length : Duration) (time : Option Time) (forged : Bool)
  | finish (name : String) (patch : Json) (forged : Bool)
  | requeue (maxAttempts : UInt32) (time : Option Time)
  | resetExpired (time : Option Time)
  | transaction (steps : List TransactionStep) (ending : Ending)
  | apply (application : Application)
  | close (closure : Closure)
  | reconcile (worker : String)
  | drain
  | housekeeping
  | pool (milliseconds : Nat)
  | unreadable (bad : BadField)

/-- What the code host does at a call. -/
inductive ScriptItem where
  | mk (wait : Option Duration) (meanwhile : Option (List Step)) (failure : Option HostError)
    (reply : Reply)

end

namespace ScriptItem

def plain : ScriptItem := mk none none none {}

instance : Inhabited ScriptItem := ⟨plain⟩

end ScriptItem

mutual

def Step.items : Step → Nat
  | .script items => countItems items
  | _ => 0

def countItems : List ScriptItem → Nat
  | [] => 0
  | item :: rest => item.items + countItems rest

def ScriptItem.items : ScriptItem → Nat
  | .mk _ meanwhile _ _ => 1 + countMeanwhile meanwhile

def countMeanwhile : Option (List Step) → Nat
  | none => 0
  | some steps => countSteps steps

def countSteps : List Step → Nat
  | [] => 0
  | step :: rest => step.items + countSteps rest

end

end BatchChanges.Scenario
