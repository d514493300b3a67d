import BatchChanges.Store.Mapping
import BatchChanges.Store.Queue

/-! # A store that may fail

Whoever works with the store has to reckon with calls that fail. A backend is a store together with
the failures that lie ahead: each strikes one call of its kind, before the call reaches the store.
`Access` is an activity that makes calls; every call is one step, between which others may make
theirs.

A transaction works on the store itself and remembers the store that it began with. Nobody else
makes calls before it has ended, so that going back to what it remembers undoes it.
-/

namespace BatchChanges

/-- The calls that can fail. -/
inductive StoreCall where
  | findCampaignSpec
  | findCampaign
  | cancelQueued
  | leaseNext
  | renew
  | finish
  | readChangesetSpec
  | readRepo
  | requeueDue
  | resetExpired
  | begin
  | createCampaign
  | readCampaign
  | updateCampaign
  | readMapping
  | readChangesets
  | readChangesetSpecs
  | readRepos
  | listChangesets
  | upsertChangeset
  | deleteChangeset
  | commit
  | rollback
deriving DecidableEq

/-- A failure ahead: it lets some calls pass and strikes the next one. -/
structure Fault where
  call : StoreCall
  skip : Nat
  detail : String
deriving DecidableEq

namespace Fault

/-- Lets a call meet the first failure of its kind. The failure has been used up if it strikes, and
comes closer if it does not. -/
def meet (call : StoreCall) : List Fault → Option String × List Fault
  | [] => (none, [])
  | fault :: rest =>
    if fault.call = call then
      if fault.skip = 0 then (some fault.detail, rest)
      else (none, { fault with skip := fault.skip - 1 } :: rest)
    else
      let (strikes, others) := meet call rest
      (strikes, fault :: others)

@[simp] theorem meet_nil (call : StoreCall) : meet call [] = (none, []) := rfl

end Fault

/-- A store and the failures ahead. -/
structure Backend where
  store : Store := ∅
  faults : List Fault := []
deriving DecidableEq

instance : Inhabited Backend := ⟨{}⟩

abbrev Access (ε α : Type) := ExceptT ε (StateM Backend) α

namespace Access

variable {ε δ α : Type}

/-- Makes a call that may fail; `wrap` turns a failure ahead into a failure of the call. -/
def callWith (wrap : StoreError → ε) (name : StoreCall) (run : Store → Except ε (α × Store)) :
    Access ε α := fun backend =>
  match Fault.meet name backend.faults with
  | (some detail, faults) => (.error (wrap (.backend detail)), { backend with faults })
  | (none, faults) =>
    match run backend.store with
    | .ok (result, store) => (.ok result, ⟨store, faults⟩)
    | .error error => (.error error, { backend with faults })

def call (name : StoreCall) (run : Store → Except StoreError (α × Store)) : Access StoreError α :=
  callWith (fun error => error) name run

/-- Works on the store past all failures ahead. -/
def direct (run : Store → Except ε (α × Store)) : Access ε α := fun backend =>
  match run backend.store with
  | .ok (result, store) => (.ok result, { backend with store })
  | .error error => (.error error, backend)

/-- Looks at the store past all failures ahead. Scenarios inspect a store like this; what
applications, closures and attempts read is a `call`. -/
def look (read : Store → α) : Access ε α := fun backend => (.ok (read backend.store), backend)

def restore (store : Store) : Access ε Unit := fun backend => (.ok (), { backend with store })

/-- Reports the failures of an activity as failures of another kind. -/
def wrapping (wrap : δ → ε) (activity : Access δ α) : Access ε α := fun backend =>
  match activity backend with
  | (.ok result, backend) => (.ok result, backend)
  | (.error error, backend) => (.error (wrap error), backend)

def attempt (activity : Access δ α) : Access ε (Except δ α) := fun backend =>
  match activity backend with
  | (result, backend) => (.ok result, backend)

def findCampaignSpec (randId : String) : Access StoreError (Option CampaignSpec) :=
  call .findCampaignSpec fun store => .ok (store.campaignSpecByRandId? randId, store)

def findCampaign (space : Namespace) (name : String) : Access StoreError (Option Campaign) :=
  call .findCampaign fun store => .ok (store.campaignByName? space name, store)

def cancelQueued (campaign : CampaignId) : Access StoreError Nat :=
  call .cancelQueued fun store => .ok (store.cancelQueued campaign)

def leaseNext (worker token : String) (now : Time) (length : Duration) :
    Access (Interrupt StoreError) (Option (Changeset × Lease)) :=
  callWith .failed .leaseNext fun store => store.leaseNext worker token now length

def renew (lease : Lease) (now : Time) (length : Duration) :
    Access (Interrupt StoreError) (Verdict × Lease) :=
  callWith .failed .renew fun store => store.renew lease now length

def finish (lease : Lease) (outcome : Changeset) : Access StoreError Verdict :=
  call .finish fun store => .ok (store.finish lease outcome)

def readChangesetSpec (id : ChangesetSpecId) : Access StoreError (Option ChangesetSpec) :=
  call .readChangesetSpec fun store =>
    .ok (store.changesetSpecs.find? id, store)

def readRepo (id : RepoId) : Access StoreError (Option Repo) :=
  call .readRepo fun store => .ok (store.repos.find? id, store)

def requeueDue (now : Time) (maxAttempts : UInt32) : Access StoreError Nat :=
  call .requeueDue fun store => .ok (store.requeueDue now maxAttempts)

def resetExpired (now : Time) : Access StoreError Nat :=
  call .resetExpired fun store => .ok (store.resetExpired now)

def createCampaign (campaign : Campaign) : Access StoreError Campaign :=
  call .createCampaign fun store => store.insertCampaign campaign

def readCampaign (id : CampaignId) : Access StoreError (Option Campaign) :=
  call .readCampaign fun store => .ok (store.campaigns.find? id, store)

def updateCampaign (campaign : Campaign) : Access StoreError Unit :=
  call .updateCampaign fun store => (store.replaceCampaign campaign).map ((), ·)

def readMapping (campaignSpec : CampaignSpecId) (campaign : CampaignId) :
    Access StoreError (List MappingRow) :=
  call .readMapping fun store => .ok (store.mappingRows campaignSpec campaign, store)

def readChangesets (ids : List ChangesetId) : Access StoreError (List Changeset) :=
  call .readChangesets fun store => .ok (Store.pick store.changesets ids, store)

def readChangesetSpecs (ids : List ChangesetSpecId) : Access StoreError (List ChangesetSpec) :=
  call .readChangesetSpecs fun store => .ok (Store.pick store.changesetSpecs ids, store)

def readRepos : Access StoreError (Table .repo Repo) :=
  call .readRepos fun store => .ok (store.repos, store)

def listChangesets (campaign : CampaignId) : Access StoreError (List Changeset) :=
  call .listChangesets fun store => .ok (store.changesetsOf campaign, store)

def upsertChangeset (changeset : Changeset) : Access StoreError Changeset :=
  call .upsertChangeset fun store => store.upsertChangeset changeset

def deleteChangeset (id : ChangesetId) : Access StoreError Unit :=
  call .deleteChangeset fun store =>
    (store.deleteChangeset id).map ((), ·)

/-- Begins a transaction and remembers the store. -/
def begin : Access StoreError Store :=
  call .begin fun store => .ok (store, store)

/-- Ends a transaction and keeps what it did; if that fails, all of it is undone. -/
def commit (before : Store) : Access StoreError Unit := fun backend =>
  match call .commit (fun store => .ok ((), store)) backend with
  | (.ok (), backend) => (.ok (), backend)
  | (.error error, backend) => (.error error, { backend with store := before })

/-- Ends a transaction and undoes what it did, even if the call fails. -/
def rollback (before : Store) : Access StoreError Unit := fun backend =>
  match call .rollback (fun store => .ok ((), store)) backend with
  | (result, backend) => (result, { backend with store := before })

end Access

end BatchChanges
