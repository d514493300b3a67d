import BatchChanges.Proofs.System.Sound

/-! # What an event does to one changeset

Seen from one changeset, an event either leaves its row and its lease alone, up to the lease's
expiry, or it is one of a few changes to them.
-/

namespace BatchChanges

def LeaseRecord.mark (record : LeaseRecord) : String × Bool :=
  (record.lease.token, record.closingAtClaim)

namespace System

/-- What becomes of the row and the lease of one changeset. -/
inductive Change (system : System) (event : Event) (next : System) (id : ChangesetId) :
    Option Changeset → Option LeaseRecord → Option Changeset → Option LeaseRecord → Prop
  | still {row : Option Changeset} {lease after : Option LeaseRecord}
      (same : after.map LeaseRecord.mark = lease.map LeaseRecord.mark) :
      Change system event next id row lease row after
  | claimed {worker : String} {length : Duration} {row : Changeset} {record : LeaseRecord}
      (happens : event = .claim worker length) (due : row.isDue system.now = true)
      (mark : record.mark = (leaseToken system.tokens, row.closing))
      (flies : ∃ flight, next.flights system.tokens = some flight ∧
        flight.claimed = { row with queueState := .processing }) :
      Change system event next id (some row) none (some { row with queueState := .processing })
        (some record)
  | concluded {number : Nat} {policy : RetryPolicy} {flight : Flight}
      {failure : Option ReconcileError} {outcome : Changeset} {row : Option Changeset}
      {record : LeaseRecord} (happens : event = .conclude number policy)
      (under : system.flights number = some flight)
      (stopped : flight.attempt.stage = .settled failure) (gone : next.flights number = none)
      (settled : flight.attempt.row.settled? policy failure system.now = some outcome)
      (here : flight.claimed.id = id)
      (token : record.lease.token = leaseToken number) :
      Change system event next id row (some record)
        (row.map (·.withOutcome outcome record.closingAtClaim)) none
  | canceled {row : Changeset} {lease : Option LeaseRecord} {campaign : CampaignId}
      (happens : event = .cancelQueued campaign ∨ ∃ number visible, event = .proceed number visible)
      (waiting : row.isCancelable campaign = true) :
      Change system event next id (some row) lease (some row.canceled) lease
  | requeued {row : Changeset} {lease : Option LeaseRecord} {maxAttempts : UInt32}
      (happens : event = .requeueDue maxAttempts)
      (due : row.isRetryDue system.now maxAttempts = true) :
      Change system event next id (some row) lease (some { row with queueState := .queued }) lease
  | reset {row : Option Changeset} {record : LeaseRecord}
      (happens : event = .resetExpired) (expired : record.lease.isExpired system.now = true) :
      Change system event next id row (some record) (row.map Changeset.released) none
  | rewired {number : Nat} {visible : Visibility} {applying : Applying}
      {row after : Option Changeset} {lease : Option LeaseRecord} (generation : Generation)
      (happens : event = .proceed number visible)
      (under : system.applications number = some applying)
      (makes : applying.Makes visible generation)
      (fate : generation.Fate system.store id row after)
      (fresh : applying.Numbers system.store.lastId generation) :
      Change system event next id row lease after lease
  | closed {closure : Closure} {row after : Option Changeset} {lease : Option LeaseRecord}
      (happens : event = .close closure) (fate : closure.Fate system.now row after) :
      Change system event next id row lease after lease

variable {system next : System} {event : Event}

/-- A write-back changes the changeset that its attempt claimed, if the lease still stands. -/
theorem Change.of_finish {number : Nat} {policy : RetryPolicy} {flight : Flight}
    {failure : Option ReconcileError} {outcome : Changeset} {id : ChangesetId}
    (mine : flight.Under system number) (under : system.flights number = some flight)
    (stopped : flight.attempt.stage = .settled failure)
    (settled : flight.attempt.row.settled? policy failure system.now = some outcome)
    (gone : next.flights number = none) :
    Change system (.conclude number policy) next id (system.store.changesets.find? id)
      (system.store.leases.find? id)
      ((system.store.finish flight.attempt.lease outcome).2.changesets.find? id)
      ((system.store.finish flight.attempt.lease outcome).2.leases.find? id) := by
  by_cases holds : system.store.Holds flight.attempt.lease
  · obtain ⟨record, found, same⟩ := holds
    rw [Store.finish_of_record found same]
    rw [mine.changesetId] at found ⊢
    by_cases here : flight.claimed.id = id
    · subst here
      have concluded : Change system (.conclude number policy) next flight.claimed.id
          (system.store.changesets.find? flight.claimed.id) (some record) _ none :=
        .concluded rfl under stopped gone settled rfl (same.trans mine.token)
      rw [found]
      cases row : system.store.changesets.find? flight.claimed.id with
      | none => simpa [row] using concluded
      | some stored => simpa [row] using concluded
    · cases system.store.changesets.find? flight.claimed.id with
      | none => simpa [here] using Change.still rfl
      | some stored => simpa [here] using Change.still rfl
  · rw [Store.finish_of_not_holds holds]
    exact .still rfl

/-- Every transition is one of these changes to each changeset. -/
theorem Transition.change (sound : system.Sound) (happens : Transition system event next)
    (id : ChangesetId) :
    Change system event next id (system.store.changesets.find? id) (system.store.leases.find? id)
      (next.store.changesets.find? id) (next.store.leases.find? id) := by
  cases happens with
  | quiet store tokens flights deliveries =>
    rw [store]
    exact .still rfl
  | repoPut repo => exact .still rfl
  | campaignSpecAdded spec => exact .still rfl
  | changesetSpecAdded spec => exact .still rfl
  | @claimed worker length row expiresAt _ found store tokens flights deliveries =>
    obtain ⟨-, due, free⟩ := Store.candidate?_eq_some found
    rw [store]
    simp only [Table.find?_insert]
    by_cases here : row.id = id
    · subst here
      simp only [if_true, sound.numbered.find?_candidate found, free]
      exact .claimed rfl due rfl ⟨_, by rw [flights, Function.update_self], rfl⟩
    · simp only [here, if_false]
      exact .still rfl
  | @asked number settings reply flight question resume answer _ under asks answered tokens flights
      deliveries =>
    obtain store | ⟨lease, record, expiresAt, -, found, -, store⟩ := store_of_answered answered
    · rw [store]
      exact .still rfl
    · rw [store]
      simp only [Table.find?_insert]
      split
      · next here =>
        subst here
        rw [found]
        exact .still rfl
      · exact .still rfl
  | @concluded number policy flight failure outcome _ under stopped settled store tokens flights
      deliveries =>
    rw [store]
    refine .of_finish (sound.flight under) under (Attempt.next_eq_settled_iff.mp stopped) settled ?_
    rw [flights, Function.update_self]
  | canceled campaign happens store tokens flights deliveries =>
    rw [store, Store.leases_cancelQueued, Store.cancelQueued, Store.find?_updateWhere]
    cases system.store.changesets.find? id with
    | none => exact .still rfl
    | some row =>
      simp only [Option.map_some]
      split
      · next waiting => exact .canceled happens waiting
      · exact .still rfl
  | requeued store tokens flights deliveries =>
    rw [store, Store.leases_requeueDue, Store.requeueDue, Store.find?_updateWhere]
    cases system.store.changesets.find? id with
    | none => exact .still rfl
    | some row =>
      simp only [Option.map_some]
      split
      · next due => exact .requeued rfl due
      · exact .still rfl
  | reset store tokens flights deliveries =>
    rw [store, Store.find?_resetExpired, Store.find?_leases_resetExpired]
    cases system.store.leases.find? id with
    | none => simpa using Change.still rfl
    | some record =>
      cases expired : record.lease.isExpired system.now with
      | true => simpa [Option.filter, expired] using Change.reset rfl expired
      | false => simpa [Option.filter, expired] using Change.still rfl
  | rewired generation under makes transacted tokens flights deliveries fresh =>
    rw [transacted.leases]
    exact .rewired generation rfl under makes (transacted.row id) fresh
  | closed transacted tokens flights deliveries =>
    rw [transacted.leases]
    exact .closed rfl (transacted.row id)

end System

end BatchChanges
