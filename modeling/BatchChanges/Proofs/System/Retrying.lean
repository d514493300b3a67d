import BatchChanges.Proofs.System.Resting

/-! # Retries

A failed changeset is tried again later if it has failed less often than the policy allows.
Housekeeping asks for both, the time and the number of failures, before it puts the changeset back
into the queue, so that nothing is forgotten that was to be tried again. Because only what has
attempts left is ever queued, a changeset fails no more often in a row than the policy allows; its
first attempt is made in any case.
-/

namespace BatchChanges

/-- Whether an event follows policies that give a changeset up after this many failures. -/
def Event.retriesUpTo (limit : UInt32) : Event → Bool
  | conclude _ policy => policy.maxAttempts == limit
  | _ => true

/-- One more failure on a changeset that has attempts left is counted in full. -/
theorem countFailure_toNat {failures limit : UInt32} (left : failures = 0 ∨ failures < limit) :
    (countFailure failures).toNat = failures.toNat + 1 := by
  have small : failures.toNat + 1 < UInt32.size := by
    rcases left with rfl | below
    · decide
    · exact Nat.lt_of_le_of_lt (UInt32.lt_iff_toNat_lt.mp below) limit.toNat_lt
  rw [toNat_countFailure]
  omega

namespace Changeset

variable {row after : Changeset} {limit : UInt32}

/-- The failures on record agree with the place in the queue: what is tried again has attempts left,
and so has what waits or is in processing, unless it has not failed. -/
structure Counted (limit : UInt32) (row : Changeset) : Prop where
  scheduled {time : Time} (waits : row.processAfter = some time) : row.failures < limit
  active (active : row.queueState = .queued ∨ row.queueState = .processing) :
    row.failures = 0 ∨ row.failures < limit
  bounded : row.failures.toNat ≤ max 1 limit.toNat

private theorem Counted.congr (counted : row.Counted limit) (same : after.place = row.place) :
    after.Counted limit := by
  simp only [place, Prod.mk.injEq] at same
  obtain ⟨state, -, failures, waits⟩ := same
  constructor
  · intro time scheduled
    rw [failures]
    exact counted.scheduled (waits.symm.trans scheduled)
  · rw [state, failures]
    exact counted.active
  · rw [failures]
    exact counted.bounded

private theorem counted_of_fresh (fresh : row.place = freshPlace) : row.Counted limit := by
  simp only [place, freshPlace, Prod.mk.injEq] at fresh
  obtain ⟨-, -, failures, waits⟩ := fresh
  constructor
  · intro time scheduled
    rw [waits] at scheduled
    cases scheduled
  · exact fun _ => .inl failures
  · simp [failures]

/-- A changeset with attempts left stays counted wherever it is put. -/
theorem Counted.of_active (counted : row.Counted limit) (state : QueueState)
    (left : row.failures = 0 ∨ row.failures < limit) :
    Counted limit { row with queueState := state } :=
  ⟨counted.scheduled, fun _ => left, counted.bounded⟩

private theorem Counted.canceled (counted : row.Counted limit) : row.canceled.Counted limit where
  scheduled waits := by cases waits
  active active := by rcases active with state | state <;> cases state
  bounded := counted.bounded

/-- An attempt was left for the one that has been made, and for the next one if there is one. -/
theorem Counted.of_settled {claimed outcome : Changeset} {policy : RetryPolicy}
    {failure : Option ReconcileError} {now : Time} (counted : row.Counted limit)
    (busy : row.queueState = .processing) (same : claimed.failures = row.failures)
    (follows : policy.maxAttempts = limit)
    (settled : claimed.settled? policy failure now = some outcome) : outcome.Counted limit := by
  have left := counted.active (.inr busy)
  have idle : outcome.queueState ≠ .queued ∧ outcome.queueState ≠ .processing := by
    rcases retry_of_settled settled with ⟨state, -⟩ | ⟨state, -⟩ <;> simp [state]
  refine ⟨?_, fun active => (active.elim idle.1 idle.2).elim, ?_⟩
  · intro time waits
    rcases retry_of_settled settled with ⟨-, -, never⟩ | ⟨-, -, retried⟩
    · rw [never] at waits
      cases waits
    · rw [← follows]
      exact (retried time waits).2
  · rcases retry_of_settled settled with ⟨-, clean, -⟩ | ⟨-, more, -⟩
    · simp [clean]
    · rw [more, same, countFailure_toNat left]
      rcases left with none | below
      · rw [none]
        exact Nat.le_max_left 1 _
      · exact Nat.le_trans (UInt32.lt_iff_toNat_lt.mp below) (Nat.le_max_right 1 _)

end Changeset

namespace System

variable {system next : System} {event : Event} {events : List Event} {id : ChangesetId}
  {row after : Changeset} {limit : UInt32} {time : Time}

private theorem Moves.counted (moves : system.Moves event id row after) (sound : system.Sound)
    (placed : system.Placed) (found : system.store.changesets.find? id = some row)
    (follows : event.retriesUpTo limit = true) (counted : row.Counted limit) :
    after.Counted limit := by
  cases moves with
  | stays place => exact counted.congr place
  | claimed due place =>
    exact (counted.of_active _ (counted.active (.inl (Changeset.queued_of_isDue due)))).congr place
  | settled happens under here leased token busy settled place =>
    subst here happens
    have stands := (sound.flight under).course.place.trans
      (placed.claimed under leased token found busy).symm
    have same : _ = row.failures := congrArg (·.2.2.1) stands
    exact (counted.of_settled busy same (beq_iff_eq.mp follows) settled).congr place
  | canceled waiting place => exact counted.canceled.congr place
  | retried due place =>
    obtain ⟨-, later, waits⟩ := Changeset.errored_of_isRetryDue due
    exact (counted.of_active _ (.inr (counted.scheduled waits))).congr place
  | released busy place =>
    exact (counted.of_active _ (counted.active (.inr busy))).congr place
  | requeued edits fresh => exact Changeset.counted_of_fresh fresh

/-- All failures on record are counted. -/
structure Counts (limit : UInt32) (system : System) : Prop where
  placed : system.Placed
  row {id : ChangesetId} {row : Changeset} (found : system.store.changesets.find? id = some row) :
    row.Counted limit

private theorem counts_start (faults : List Fault) (now : Time) :
    (start faults now).Counts limit where
  placed := placed_start faults now
  row found := by cases found

private theorem Counts.step (counts : system.Counts limit) (sound : system.Sound)
    (follows : event.retriesUpTo limit = true) : (system.step event).Counts limit := by
  have happens := System.transition sound.numbered event
  refine ⟨counts.placed.transition sound happens, ?_⟩
  intro id after stored
  cases found : system.store.changesets.find? id with
  | some row =>
    exact (happens.moves sound found stored).counted sound counts.placed found follows
      (counts.row found)
  | none =>
    have change := happens.change sound id
    rw [found, stored] at change
    obtain ⟨_, _, _, _, spec, repo, -, -, -, -, -, -, -, rfl⟩ := change.created
    exact Changeset.counted_of_fresh (Changeset.place_ofSpec _ _ repo spec id)

private theorem Counts.run (counts : system.Counts limit) (sound : system.Sound)
    (follows : ∀ event ∈ events, event.retriesUpTo limit = true) :
    (system.run events).Counts limit :=
  (along_of_mem fun event mem _ => follows event mem).keeps sound
    (fun sound follows counts => counts.step sound follows) counts

/-- Whether an event adds to the failures that a changeset has on record. -/
def addsFailure (id : ChangesetId) (system : System) (event : Event) : Bool :=
  match system.store.changesets.find? id, (system.step event).store.changesets.find? id with
  | some row, some after => decide (row.failures < after.failures)
  | _, _ => false

/-- How often a run adds to the failures that a changeset has on record. -/
def failuresAdded (id : ChangesetId) : System → List Event → Nat
  | _, [] => 0
  | system, event :: rest =>
    (addsFailure id system event).toNat + failuresAdded id (system.step event) rest

private theorem addsFailure_of_found (found : system.store.changesets.find? id = some row)
    (stored : (system.step event).store.changesets.find? id = some after) :
    addsFailure id system event = decide (row.failures < after.failures) := by
  simp only [addsFailure, found, stored]

private theorem addsFailure_of_absent (absent : system.store.changesets.find? id = none) :
    addsFailure id system event = false := by
  simp only [addsFailure, absent]

private theorem addsFailure_of_deleted
    (gone : (system.step event).store.changesets.find? id = none) :
    addsFailure id system event = false := by
  simp only [addsFailure, gone]
  split <;> simp_all

/-- The failures on record stay, or a campaign or a success clears them, or a write-back adds
one. -/
theorem Moves.failures (moves : system.Moves event id row after) (sound : system.Sound)
    (placed : system.Placed) (found : system.store.changesets.find? id = some row)
    (counted : row.Counted limit) :
    after.failures = row.failures ∨
      event.editsCampaign = true ∧ after.place = Changeset.freshPlace ∨
      (∃ number policy, event = .conclude number policy) ∧ row.queueState = .processing ∧
        (after.queueState = .completed ∧ after.failures = 0 ∨
          after.failures.toNat = row.failures.toNat + 1) := by
  cases moves with
  | requeued edits fresh => exact .inr (.inl ⟨edits, fresh⟩)
  | @settled _ _ flight _ outcome _ happens under here leased token busy settled place =>
    refine .inr (.inr ⟨⟨_, _, happens⟩, busy, ?_⟩)
    subst here
    have stands := (sound.flight under).course.place.trans
      (placed.claimed under leased token found busy).symm
    rcases Changeset.retry_of_settled settled with ⟨state, clean, -⟩ | ⟨-, more, -⟩
    · exact .inl ⟨(congrArg Prod.fst place).trans state, (congrArg (·.2.2.1) place).trans clean⟩
    · have taken : after.failures = outcome.failures := congrArg (·.2.2.1) place
      have known : flight.attempt.row.failures = row.failures := congrArg (·.2.2.1) stands
      rw [taken, more, known]
      exact .inr (countFailure_toNat (counted.active (.inr busy)))
  | stays place => exact .inl (congrArg (·.2.2.1) place)
  | claimed due place => exact .inl (congrArg (·.2.2.1) place)
  | canceled waiting place => exact .inl (congrArg (·.2.2.1) place)
  | retried due place => exact .inl (congrArg (·.2.2.1) place)
  | released busy place => exact .inl (congrArg (·.2.2.1) place)

private theorem Counts.concludes_of_addsFailure (counts : system.Counts limit)
    (sound : system.Sound) (adds : addsFailure id system event = true) :
    ∃ number policy, event = .conclude number policy := by
  cases found : system.store.changesets.find? id with
  | none =>
    rw [addsFailure_of_absent found] at adds
    cases adds
  | some row =>
    cases stored : (system.step event).store.changesets.find? id with
    | none =>
      rw [addsFailure_of_deleted stored] at adds
      cases adds
    | some after =>
      rw [addsFailure_of_found found stored, decide_eq_true_eq] at adds
      have moves := (System.transition sound.numbered event).moves sound found stored
      rcases moves.failures sound counts.placed found (counts.row found) with
        same | ⟨-, fresh⟩ | ⟨concludes, -⟩
      · rw [same] at adds
        exact absurd adds (UInt32.lt_irrefl _)
      · rw [show after.failures = 0 from congrArg (·.2.2.1) fresh] at adds
        exact absurd adds UInt32.not_lt_zero
      · exact concludes

/-- The failures on record grow with what is added, unless they are cleared. -/
theorem Counts.addsFailure_le (counts : system.Counts limit) (sound : system.Sound)
    (found : system.store.changesets.find? id = some row)
    (stored : (system.step event).store.changesets.find? id = some after)
    (keeps : ¬ Requeues id system event) (fails : ¬ Succeeds id system event) :
    row.failures.toNat + (addsFailure id system event).toNat ≤ after.failures.toNat := by
  have moves := (System.transition sound.numbered event).moves sound found stored
  rw [addsFailure_of_found found stored]
  have unmoved : after.failures = row.failures →
      row.failures.toNat + (decide (row.failures < after.failures)).toNat ≤
        after.failures.toNat := by
    intro same
    simp [same]
  rcases moves.failures sound counts.placed found (counts.row found) with
    same | ⟨edits, fresh⟩ | ⟨-, busy, ⟨completed, -⟩ | more⟩
  · exact unmoved same
  · exact unmoved (congrArg (·.2.2.1) (place_of_not_requeues found stored edits fresh keeps))
  · refine absurd ⟨?_, ?_⟩ fails
    · rw [place?_of_found found]
      simp [Changeset.place, busy]
    · rw [place?_of_found stored]
      simp [Changeset.place, completed]
  · rw [more]
    exact Nat.add_le_add_left (Bool.toNat_le _) _

private theorem failuresAdded_of_gone (sound : system.Sound) (old : id.value ≤ system.store.lastId)
    (gone : system.store.changesets.find? id = none) : failuresAdded id system events = 0 := by
  induction events generalizing system with
  | nil => rfl
  | cons event rest ih =>
    have happens := System.transition sound.numbered event
    rw [failuresAdded, addsFailure_of_absent gone, ih (sound.step event)
      (Int.le_trans old happens.lastId_le) (happens.gone sound old gone)]
    rfl

/-- What is added to the failures on record stays below the limit with them. -/
theorem Counts.add_failuresAdded_le (counts : system.Counts limit) (sound : system.Sound)
    (follows : ∀ event ∈ events, event.retriesUpTo limit = true)
    (along : system.Along (fun system event => ¬ Requeues id system event ∧
      ¬ Succeeds id system event) events)
    (found : system.store.changesets.find? id = some row) :
    row.failures.toNat + failuresAdded id system events ≤ max 1 limit.toNat := by
  induction events generalizing system row with
  | nil => exact (counts.row found).bounded
  | cons event rest ih =>
    rw [List.forall_mem_cons] at follows
    simp only [failuresAdded]
    cases stored : (system.step event).store.changesets.find? id with
    | none =>
      have old := (sound.numbered.changesets found).2.2
      have happens := System.transition sound.numbered event
      rw [addsFailure_of_deleted stored, failuresAdded_of_gone (sound.step event)
        (Int.le_trans old happens.lastId_le) stored]
      exact (counts.row found).bounded
    | some after =>
      have added := counts.addsFailure_le sound found stored along.1.1 along.1.2
      have rests := ih (counts.step sound follows.1) (sound.step event) follows.2 along.2 stored
      omega

/-- So no more failures are added to a changeset than the limit allows, be it new or not. -/
theorem Counts.failuresAdded_le (counts : system.Counts limit) (sound : system.Sound)
    (follows : ∀ event ∈ events, event.retriesUpTo limit = true)
    (along : system.Along (fun system event => ¬ Requeues id system event ∧
      ¬ Succeeds id system event) events) :
    failuresAdded id system events ≤ max 1 limit.toNat := by
  induction events generalizing system with
  | nil => exact Nat.zero_le _
  | cons event rest ih =>
    cases found : system.store.changesets.find? id with
    | some row =>
      exact Nat.le_trans (Nat.le_add_left _ _)
        (counts.add_failuresAdded_le sound follows along found)
    | none =>
      rw [List.forall_mem_cons] at follows
      rw [failuresAdded, addsFailure_of_absent found, Bool.toNat_false, Nat.zero_add]
      exact ih (counts.step sound follows.1) (sound.step event) follows.2 along.2

end System

/-- Housekeeping tries the failed changesets again that are due; then it looks for leases that have
ended, unless it has failed. -/
theorem Reconcile.housekeeping_world (settings : Settings) (world : World Unit) :
    (housekeeping settings world).2 =
      match Access.requeueDue world.clock.now settings.retry.maxAttempts world.backend with
      | (.ok _, backend) =>
        { world with backend := (Access.resetExpired world.clock.now backend).2 }
      | (.error _, backend) => { world with backend } := by
  have tried := Action.wrapping_access_of_ends ReconcileError.store world (Access.ends_self
    (Access.requeueDue world.clock.now settings.retry.maxAttempts) world.backend)
  simp only [housekeeping]
  rw [Action.now_bind]
  simp only [bind, ExceptT.bind, ExceptT.mk, StateT.bind]
  rw [tried]
  rcases (Access.requeueDue world.clock.now settings.retry.maxAttempts world.backend :
    Except StoreError Nat × Backend) with ⟨error | count, backend⟩
  · rfl
  · have reset := Action.wrapping_access_of_ends ReconcileError.store { world with backend }
      (Access.ends_self (Access.resetExpired world.clock.now) backend)
    simp only [Except.mapError, ExceptT.bindCont, StateT.bind]
    rw [reset]
    cases (Access.resetExpired world.clock.now backend).1 <;> rfl

namespace System

variable {system : System} {id : ChangesetId} {row : Changeset} {limit : UInt32} {time : Time}

/-- Housekeeping puts a failed changeset back into the queue when it is due, unless the store
fails. -/
theorem Counts.housekeeping (counts : system.Counts limit) (faithful : system.Faithful)
    (found : system.store.changesets.find? id = some row) (errored : row.queueState = .errored)
    (scheduled : row.processAfter = some time) {settings : Settings}
    (follows : settings.retry.maxAttempts = limit) (due : time ≤ system.now)
    (passes : (Fault.meet .requeueDue system.world.backend.faults).1 = none) :
    (Reconcile.housekeeping settings system.world).2.backend.store.changesets.find? id =
      some { row with queueState := .queued } := by
  have retried : row.isRetryDue system.now limit = true := by
    simp [Changeset.isRetryDue, errored, scheduled, due, (counts.row found).scheduled scheduled]
  have unleased : system.store.leases.find? id = none := by
    cases leased : system.store.leases.find? id with
    | none => rfl
    | some record =>
      have never := faithful.place leased found (by simp [errored])
      cases never.symm.trans scheduled
  have requeued : (system.store.requeueDue system.now limit).2.changesets.find? id =
      some { row with queueState := .queued } := by
    simp [Store.requeueDue, found, retried]
  have world := Reconcile.housekeeping_world settings system.world
  rw [follows, show Access.requeueDue system.world.clock.now limit system.world.backend = _ from
    Access.ends_call passes rfl] at world
  simp only at world
  rw [world]
  -- The changeset is under no lease, so that the reset passes it over.
  rcases Access.call_total (Access.ends_self (Access.resetExpired system.now)
    ⟨(system.store.requeueDue system.now limit).2,
      (Fault.meet .requeueDue system.world.backend.faults).2⟩) with reset | failed
  · refine (congrArg (·.changesets.find? id) reset).trans ?_
    simp only
    rw [Store.find?_resetExpired, requeued, Store.leases_requeueDue, unleased]
    rfl
  · exact (congrArg (·.changesets.find? id) failed).trans requeued

/-- In every run that starts with the empty store, whatever failures of the store lie ahead and
however the clock is moved, in which all write-backs follow policies of `limit` attempts: a
changeset that has a time for its next attempt has failed less often than that. Once it has failed
and has such a time, it comes under no lease before that time, unless an application or a closure
puts it back at the end of the queue, or the outcome of a later attempt is written back at a clock
that has been put back; if the clock never goes back, only applications and closures are excepted.
Housekeeping at that time or later puts the changeset into the queue if it is still as it was left,
unless the store fails. A changeset that has failed and has no such time comes under no lease until
an application or a closure puts it back. As long as they do not and no attempt succeeds, failures
are added to its record at most `limit` times, or once if `limit` is zero, and by write-backs
only. -/
theorem retries_bounded_and_on_time (faults : List Fault) (now : Time) (limit : UInt32)
    (events : List Event) (follows : ∀ event ∈ events, event.retriesUpTo limit = true)
    (id : ChangesetId) :
    (∀ row time, ((start faults now).run events).store.changesets.find? id = some row →
      row.processAfter = some time → row.failures < limit) ∧
    (∀ row time, ((start faults now).run events).store.changesets.find? id = some row →
      row.queueState = .errored → row.processAfter = some time →
      (∀ later event,
        ((start faults now).run events).Along (fun system event => ¬ Requeues id system event ∧
          (Settles id system event → time ≤ system.now)) later →
        Leases id ((start faults now).run (events ++ later)) event →
        time ≤ ((start faults now).run (events ++ later)).now) ∧
      (∀ later event,
        ((start faults now).run events).Along (fun system event => ¬ Requeues id system event ∧
          system.now ≤ (system.step event).now) later →
        Leases id ((start faults now).run (events ++ later)) event →
        time ≤ ((start faults now).run (events ++ later)).now) ∧
      ∀ settings : Settings, settings.retry.maxAttempts = limit →
        time ≤ ((start faults now).run events).now →
        (Fault.meet .requeueDue ((start faults now).run events).world.backend.faults).1 = none →
        (Reconcile.housekeeping settings
          ((start faults now).run events).world).2.backend.store.changesets.find? id =
            some { row with queueState := .queued }) ∧
    (∀ row, ((start faults now).run events).store.changesets.find? id = some row →
      row.queueState = .errored → row.processAfter = none → ∀ later event,
        ((start faults now).run events).Along (fun system event => ¬ Requeues id system event)
          later →
        ¬ Leases id ((start faults now).run (events ++ later)) event) ∧
    (∀ later, (∀ event ∈ later, event.retriesUpTo limit = true) →
      ((start faults now).run events).Along (fun system event => ¬ Requeues id system event ∧
        ¬ Succeeds id system event) later →
      failuresAdded id ((start faults now).run events) later ≤ max 1 limit.toNat) ∧
    ∀ event, addsFailure id ((start faults now).run events) event = true →
      ∃ number policy, event = .conclude number policy := by
  have sound := (sound_start faults now).run events
  have faithful := (faithful_start faults now).run (sound_start faults now) events
  have counts := (counts_start faults now).run (sound_start faults now) follows
  simp only [run_append]
  refine ⟨?_, ?_, ?_, ?_, fun event adds => counts.concludes_of_addsFailure sound adds⟩
  · exact fun row time found scheduled => (counts.row found).scheduled scheduled
  · intro row time found errored scheduled
    have rests : row.Rests time := .waiting scheduled (Time.le_refl time)
    have stays := stays_of_found sound found rests
    refine ⟨?_, ?_, ?_⟩
    · intro later event along leases
      exact (stays.rests_run sound along).le_of_leases (sound.run later) leases
    · intro later event along leases
      have idle : Idle id time ((start faults now).run events) := by
        refine ⟨stays, fun {record} leased => ?_⟩
        have never := faithful.place leased found (by simp [errored])
        cases never.symm.trans scheduled
      exact (idle.run sound along).stays.le_of_leases (sound.run later) leases
    · exact fun settings limited due passes =>
        counts.housekeeping faithful found errored scheduled limited due passes
  · intro row found errored never later event along leases
    have stays := (stays_of_found sound found ⟨errored, never⟩).abandoned_run sound along
    obtain ⟨row, present, due⟩ := leases.due (sound.run later)
    cases (stays.row present).1.symm.trans (Changeset.queued_of_isDue due)
  · exact fun later limited along => counts.failuresAdded_le sound limited along

end System

namespace Sample

/-- The code host wants to be asked less often. -/
def overloaded : HostReply := { reply with push := .error .rateLimited }

/-- An attempt that fails because of that. -/
def turnedAway (number : Nat) : List Event :=
  .claim "w" (.ofSeconds 60) :: List.replicate 3 (.ask number {} overloaded) ++
    [.conclude number {}]

/-- The first attempt has failed, and the time for the second one has come. -/
def waitingToRetry : List Event := setUp ++ turnedAway 0 ++ [.setClock (instant 10)]

end Sample

open Sample in
/-- Housekeeping puts the changeset into the queue, and it is claimed when its time has come. The
next attempt adds to its failures as often as the policy allows. -/
theorem System.retries_bounded_and_on_time_overloaded :
    ∃ row, ((start [] (instant 0)).run waitingToRetry).store.changesets.find? changeset =
        some row ∧
      row.queueState = .errored ∧ row.processAfter = some (instant 10) ∧ row.failures < 3 ∧
      (Reconcile.housekeeping {} ((start [] (instant 0)).run
        waitingToRetry).world).2.backend.store.changesets.find? changeset =
          some { row with queueState := .queued } ∧
      Leases changeset ((start [] (instant 0)).run (waitingToRetry ++ [.requeueDue 3]))
        (.claim "w" (.ofSeconds 60)) ∧
      instant 10 ≤ ((start [] (instant 0)).run (waitingToRetry ++ [.requeueDue 3])).now ∧
      failuresAdded changeset ((start [] (instant 0)).run waitingToRetry)
        (.requeueDue 3 :: turnedAway 1) ≤ 3 := by
  obtain ⟨counted, onTime, -, bounded, -⟩ :=
    retries_bounded_and_on_time [] (instant 0) 3 waitingToRetry (by decide) changeset
  obtain ⟨row, found, place⟩ := Option.map_eq_some_iff.mp (show
    (((start [] (instant 0)).run waitingToRetry).store.changesets.find? changeset).map (fun row =>
      (row.queueState, row.processAfter)) = some (.errored, some (instant 10)) by decide +kernel)
  simp only [Prod.mk.injEq] at place
  obtain ⟨errored, scheduled⟩ := place
  obtain ⟨early, -, housekeeping⟩ := onTime row (instant 10) found errored scheduled
  have claimed : Leases changeset ((start [] (instant 0)).run (waitingToRetry ++ [.requeueDue 3]))
      (.claim "w" (.ofSeconds 60)) := by decide +kernel
  refine ⟨row, found, errored, scheduled, counted row _ found scheduled,
    housekeeping {} rfl (by decide +kernel) (by decide +kernel), claimed,
    early [.requeueDue 3] _ ⟨⟨by decide +kernel, ?_⟩, trivial⟩ claimed,
    bounded _ (by decide) (by decide +kernel)⟩
  rintro ⟨⟨number, policy, happens⟩, -⟩
  cases happens

end BatchChanges
