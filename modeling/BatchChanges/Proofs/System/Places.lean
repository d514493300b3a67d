import BatchChanges.Proofs.System.Standing

/-! # Places in the queue

There are few ways for a changeset to move in the queue, with its record of failures: it is claimed
or given back, the outcome of its attempt is taken over, it is canceled or tried again, or a
campaign puts it at the end with a clean record. While it is in processing it stands where its
attempt has claimed it, so that an attempt that fails counts on from what is on record.
-/

namespace BatchChanges

namespace Changeset

/-- A new changeset is at the end of the queue. -/
theorem place_ofSpec (campaign : CampaignId) (now : Time) (repo : Repo) (spec : ChangesetSpec)
    (id : ChangesetId) : place { ofSpec campaign now repo spec with id } = freshPlace := by
  simp only [ofSpec]
  split <;> rfl

/-- What an attempt leaves behind is completed, or has one more failure on record. It is tried again
only later, and only if the policy allows another attempt. -/
theorem retry_of_settled {row outcome : Changeset} {policy : RetryPolicy}
    {failure : Option ReconcileError} {now : Time}
    (settled : row.settled? policy failure now = some outcome) :
    outcome.queueState = .completed ∧ outcome.failures = 0 ∧ outcome.processAfter = none ∨
      outcome.queueState = .errored ∧ outcome.failures = countFailure row.failures ∧
        ∀ time, outcome.processAfter = some time →
          now ≤ time ∧ outcome.failures < policy.maxAttempts := by
  cases failure with
  | none =>
    cases settled
    exact .inl ⟨rfl, rfl, rfl⟩
  | some error =>
    simp only [settled?] at settled
    split at settled
    · next retries =>
      obtain ⟨later, added, rfl⟩ := Option.map_eq_some_iff.mp settled
      simp only [RetryPolicy.retries, RetryPolicy.shouldRetry, Bool.and_eq_true,
        decide_eq_true_eq] at retries
      refine .inr ⟨rfl, rfl, ?_⟩
      rintro _ ⟨⟩
      exact ⟨Time.le_of_add? added, retries.2⟩
    · cases settled
      exact .inr ⟨rfl, rfl, fun _ none => by cases none⟩

/-- A changeset in processing takes over where the outcome of its attempt puts it. -/
theorem place_withOutcome_of_processing {row : Changeset} (busy : row.queueState = .processing)
    (outcome : Changeset) (closing : Bool) :
    (row.withOutcome outcome closing).place = outcome.place := by
  simp [place, withOutcome, busy]

end Changeset

/-- Operations leave it to the write-back where the changeset goes in the queue. -/
theorem Operation.Runs.place {push : Option BranchPush} {claimed row : Changeset}
    {run : List Operation} {told : List Effect} (runs : Runs push claimed run row told) :
    row.place = claimed.place := by
  refine runs.keeps (·.place = claimed.place) rfl (fun same => same) (fun _ same => same)
    fun {operation before} _ view _ same => ?_
  have stays : (operation.answered view before).place = before.place := by
    cases operation <;> rfl
  exact stays.trans same

theorem Flight.Course.place {specs : Table .changesetSpec ChangesetSpec} {flight : Flight}
    (course : flight.Course specs) : flight.attempt.row.place = flight.claimed.place := by
  cases course with
  | planned follows between acts => exact follows.runs.place
  | _ => rfl

namespace System

variable {system next : System} {event : Event} {id : ChangesetId} {row after : Changeset}

/-- How a changeset comes from one place in the queue to the next. -/
inductive Moves (system : System) (event : Event) (id : ChangesetId) (row after : Changeset) : Prop
  | stays (place : after.place = row.place)
  | claimed (due : row.isDue system.now = true)
      (place : after.place = { row with queueState := .processing }.place)
  | settled {number : Nat} {policy : RetryPolicy} {flight : Flight}
      {failure : Option ReconcileError} {outcome : Changeset} {record : LeaseRecord}
      (happens : event = .conclude number policy) (under : system.flights number = some flight)
      (here : flight.claimed.id = id) (leased : system.store.leases.find? id = some record)
      (token : record.lease.token = leaseToken number) (busy : row.queueState = .processing)
      (settled : flight.attempt.row.settled? policy failure system.now = some outcome)
      (place : after.place = outcome.place)
  | canceled {campaign : CampaignId} (waiting : row.isCancelable campaign = true)
      (place : after.place = row.canceled.place)
  | retried {maxAttempts : UInt32} (due : row.isRetryDue system.now maxAttempts = true)
      (place : after.place = { row with queueState := .queued }.place)
  | released (busy : row.queueState = .processing)
      (place : after.place = { row with queueState := .queued }.place)
  | requeued (edits : event.editsCampaign = true) (fresh : after.place = Changeset.freshPlace)

/-- Every transition moves a changeset so, as long as it exists. -/
theorem Transition.moves (happens : Transition system event next) (sound : system.Sound)
    (found : system.store.changesets.find? id = some row)
    (stored : next.store.changesets.find? id = some after) : system.Moves event id row after := by
  have change := happens.change sound id
  rw [found, stored] at change
  generalize held : system.store.leases.find? id = lease at change
  generalize next.store.leases.find? id = lease' at change
  generalize present : some after = later at change
  cases change with
  | still same =>
    cases present
    exact .stays rfl
  | claimed happens due mark =>
    cases present
    exact .claimed due rfl
  | concluded happens under stopped gone settled here token =>
    cases present
    by_cases busy : row.queueState = .processing
    · exact .settled happens under here held token busy settled
        (Changeset.place_withOutcome_of_processing busy _ _)
    · exact .stays (Changeset.place_withOutcome busy _ _)
  | canceled happens waiting =>
    cases present
    exact .canceled waiting rfl
  | requeued happens due =>
    cases present
    exact .retried due rfl
  | reset happens expired =>
    cases present
    simp only [Changeset.released]
    split
    · next busy => exact .released busy rfl
    · exact .stays rfl
  | rewired generation happens under makes fate =>
    subst present happens
    rcases fate.place with fresh | ⟨same, -⟩
    · exact .requeued rfl fresh
    · exact .stays same
  | closed happens fate =>
    subst present happens
    rcases fate.place with fresh | ⟨same, -⟩
    · exact .requeued rfl fresh
    · exact .stays same

/-- A changeset that is gone does not come back. -/
theorem Transition.gone (happens : Transition system event next) (sound : system.Sound)
    (old : id.value ≤ system.store.lastId) (gone : system.store.changesets.find? id = none) :
    next.store.changesets.find? id = none := by
  have change := happens.change sound id
  rw [gone] at change
  cases stored : next.store.changesets.find? id with
  | none => rfl
  | some after =>
    rw [stored] at change
    obtain ⟨_, _, _, _, _, _, -, -, -, -, -, -, new, -⟩ := change.created
    exact absurd old (Int.not_le.mpr new)

/-- In processing, a changeset stands where the attempt under its lease has claimed it. -/
structure Placed (system : System) : Prop where
  claimed {number : Nat} {flight : Flight} {record : LeaseRecord} {row : Changeset}
    (under : system.flights number = some flight)
    (leased : system.store.leases.find? flight.claimed.id = some record)
    (token : record.lease.token = leaseToken number)
    (found : system.store.changesets.find? flight.claimed.id = some row)
    (busy : row.queueState = .processing) : row.place = flight.claimed.place

theorem placed_start (faults : List Fault) (now : Time) : (start faults now).Placed where
  claimed under := by cases under

/-- Only a claim puts a changeset into processing. -/
theorem Placed.transition (placed : system.Placed) (sound : system.Sound)
    (happens : Transition system event next) : next.Placed := by
  refine ⟨?_⟩
  intro number flight record row under leased token found busy
  rcases (happens.flies under).claimed_eq with ⟨before, flying, same⟩ |
    ⟨claimed, expiresAt, worker, -, begins, stored, -⟩
  · have change := happens.change sound flight.claimed.id
    rw [leased] at change
    obtain ⟨held, leasedBefore, tokenBefore, -⟩ := change.held (sound.flight flying).number_lt token
    rw [leasedBefore] at change
    obtain ⟨earlier, foundBefore, fresh | ⟨place, -⟩ | rfl | ⟨-, -, queued⟩⟩ :=
      change.leased sound.numbered leasedBefore rfl found
    · rw [show row.queueState = .queued from congrArg Prod.fst fresh] at busy
      cases busy
    · rw [← same] at leasedBefore foundBefore ⊢
      exact place.trans (placed.claimed flying leasedBefore tokenBefore foundBefore
        ((congrArg Prod.fst place).symm.trans busy))
    · cases busy
    · rw [queued] at busy
      cases busy
  · have here : flight.claimed.id = claimed.id := by rw [begins]
    rw [here, stored] at found
    cases found
    rfl

/-- A changeset exists and meets a condition, or is gone for good. -/
structure Stays (id : ChangesetId) (condition : Changeset → Prop) (system : System) : Prop where
  old : id.value ≤ system.store.lastId
  row {row : Changeset} (found : system.store.changesets.find? id = some row) : condition row

theorem stays_of_found {condition : Changeset → Prop} (sound : system.Sound)
    (found : system.store.changesets.find? id = some row) (meets : condition row) :
    system.Stays id condition where
  old := (sound.numbered.changesets found).2.2
  row stored := by
    rw [found] at stored
    cases stored
    exact meets

/-- What every move of a changeset keeps, an event keeps. -/
theorem Stays.step {condition : Changeset → Prop} (stays : system.Stays id condition)
    (sound : system.Sound)
    (keeps : ∀ {row after : Changeset}, system.store.changesets.find? id = some row →
      (system.step event).store.changesets.find? id = some after →
      system.Moves event id row after → condition row → condition after) :
    (system.step event).Stays id condition := by
  have happens := System.transition sound.numbered event
  refine ⟨Int.le_trans stays.old happens.lastId_le, ?_⟩
  intro after stored
  cases found : system.store.changesets.find? id with
  | some row => exact keeps found stored (happens.moves sound found stored) (stays.row found)
  | none =>
    rw [happens.gone sound stays.old found] at stored
    cases stored

def place? (system : System) (id : ChangesetId) :
    Option (QueueState × Option String × UInt32 × Option Time) :=
  (system.store.changesets.find? id).map Changeset.place

/-- An application or a closure puts a changeset back at the end of the queue, with a clean
record. -/
def Requeues (id : ChangesetId) (system : System) (event : Event) : Prop :=
  event.editsCampaign = true ∧ system.place? id ≠ none ∧
    system.place? id ≠ some Changeset.freshPlace ∧
    (system.step event).place? id = some Changeset.freshPlace

instance : Decidable (Requeues id system event) := inferInstanceAs (Decidable (_ ∧ _))

/-- An outcome is written back that moves a changeset. -/
def Settles (id : ChangesetId) (system : System) (event : Event) : Prop :=
  (∃ number policy, event = .conclude number policy) ∧
    (system.step event).place? id ≠ system.place? id

/-- A changeset comes to be completed. -/
def Succeeds (id : ChangesetId) (system : System) (event : Event) : Prop :=
  (system.place? id).map Prod.fst ≠ some .completed ∧
    ((system.step event).place? id).map Prod.fst = some .completed

instance : Decidable (Succeeds id system event) := inferInstanceAs (Decidable (_ ∧ _))

/-- A changeset comes to be under a new lease. -/
def Leases (id : ChangesetId) (system : System) (event : Event) : Prop :=
  ((system.step event).store.leases.find? id).map (·.lease.token) = some (leaseToken system.tokens)

instance : Decidable (Leases id system event) := inferInstanceAs (Decidable (_ = _))

theorem place?_of_found (found : system.store.changesets.find? id = some row) :
    system.place? id = some row.place := by
  rw [place?, found, Option.map_some]

/-- Only who puts a changeset back moves it to the end of the queue with a clean record. -/
theorem place_of_not_requeues (found : system.store.changesets.find? id = some row)
    (stored : (system.step event).store.changesets.find? id = some after)
    (edits : event.editsCampaign = true) (fresh : after.place = Changeset.freshPlace)
    (keeps : ¬ Requeues id system event) : after.place = row.place := by
  by_contra moved
  refine keeps ⟨edits, ?_, ?_, ?_⟩
  · simp [place?_of_found found]
  · rw [place?_of_found found, ne_eq, Option.some_inj]
    exact fun same => moved (fresh.trans same.symm)
  · rw [place?_of_found stored, fresh]

/-- An outcome that moves a changeset is written back under a lease. -/
theorem Settles.leased (settles : Settles id system event) (sound : system.Sound) :
    ∃ record, system.store.leases.find? id = some record := by
  obtain ⟨⟨number, policy, rfl⟩, moved⟩ := settles
  have change := (System.transition sound.numbered (.conclude number policy)).change sound id
  simp only [place?] at moved
  generalize (system.step (.conclude number policy)).store.changesets.find? id = later
    at change moved
  generalize system.store.changesets.find? id = earlier at change moved
  generalize system.store.leases.find? id = lease at change ⊢
  generalize (system.step (.conclude number policy)).store.leases.find? id = lease' at change
  cases change with
  | still same => exact absurd rfl moved
  | claimed happens due mark => cases happens
  | concluded happens under stopped gone settled here token => exact ⟨_, rfl⟩
  | canceled happens waiting => rcases happens with happens | ⟨_, _, happens⟩ <;> cases happens
  | requeued happens due => cases happens
  | reset happens expired => cases happens
  | rewired generation happens under makes fate => cases happens
  | closed happens fate => cases happens

/-- A new lease is on a changeset that was due. -/
theorem Leases.due (leases : Leases id system event) (sound : system.Sound) :
    ∃ row, system.store.changesets.find? id = some row ∧ row.isDue system.now = true := by
  obtain ⟨record, leased, token⟩ := Option.map_eq_some_iff.mp leases
  have change := (System.transition sound.numbered event).change sound id
  rw [leased] at change
  rcases change.record with ⟨before, held, mark⟩ | ⟨free, -, -⟩
  · obtain ⟨number, below, given⟩ := sound.token held
    have same := (congrArg Prod.fst mark).symm.trans token
    rw [show before.mark.1 = before.lease.token from rfl, given] at same
    exact absurd (leaseToken_injective same) (Nat.ne_of_lt below)
  · rw [free] at change
    generalize system.store.changesets.find? id = row at change ⊢
    generalize (system.step event).store.changesets.find? id = after at change
    cases change with
    | still same => cases same
    | claimed happens due mark => exact ⟨_, rfl, due⟩

end System

end BatchChanges
