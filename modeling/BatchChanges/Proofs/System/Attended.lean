import BatchChanges.Proofs.System.Requeue

/-! # Changesets in processing

A changeset is in processing only as long as a lease on it is on record. The lease stays there
whatever becomes of its worker: it may die, run out of calendar or fail to write its outcome back.
Once the lease has ended, a reset gives the changeset back to the queue, and whoever claims next
after that comes to it in its turn.
-/

namespace BatchChanges

namespace Changeset

variable {row other third : Changeset}

theorem isServedBefore_iff : row.isServedBefore other = true ↔
    row.updatedAt < other.updatedAt ∨ row.updatedAt = other.updatedAt ∧ row.id ≤ other.id := by
  simp [isServedBefore]

private theorem isServedBefore_trans (first : row.isServedBefore other = true)
    (second : other.isServedBefore third = true) : row.isServedBefore third = true := by
  rw [isServedBefore_iff, Time.lt_def, Id.le_def] at first second ⊢
  rcases first with earlier | ⟨same, below⟩
  · rcases second with later | ⟨same, -⟩
    · left
      omega
    · left
      rwa [← same]
  · rw [same]
    rcases second with later | ⟨again, above⟩
    · exact .inl later
    · exact .inr ⟨again, Int.le_trans below above⟩

/-- Of two changesets, the one that is not served first is served second. -/
theorem isServedBefore_of_not (refused : ¬ row.isServedBefore other = true) :
    other.isServedBefore row = true := by
  rw [isServedBefore_iff, Time.lt_def, Id.le_def] at refused ⊢
  by_cases same : row.updatedAt = other.updatedAt
  · refine .inr ⟨same.symm, ?_⟩
    by_contra above
    exact refused (.inr ⟨same, by omega⟩)
  · left
    have apart : row.updatedAt.second ≠ other.updatedAt.second ∨
        row.updatedAt.nanosecond ≠ other.updatedAt.nanosecond := by
      by_contra equal
      push Not at equal
      exact same (Time.ext_parts equal.1 equal.2)
    push Not at refused
    omega

private theorem first?_serves {rows : List Changeset} (member : row ∈ rows) :
    ∃ first, first? rows = some first ∧ (first = row ∨ first.isServedBefore row = true) := by
  induction rows with
  | nil => cases member
  | cons head rest ih =>
    rcases List.mem_cons.mp member with rfl | later
    · cases served : first? rest with
      | none => exact ⟨row, by simp only [first?, served], .inl rfl⟩
      | some other =>
        by_cases before : row.isServedBefore other = true
        · exact ⟨row, by simp only [first?, served, before, if_true], .inl rfl⟩
        · exact ⟨other, by simp only [first?, served, if_neg before],
            .inr (isServedBefore_of_not before)⟩
    · obtain ⟨other, served, serves⟩ := ih later
      by_cases before : head.isServedBefore other = true
      · refine ⟨head, by simp only [first?, served, before, if_true], .inr ?_⟩
        rcases serves with rfl | serves
        · exact before
        · exact isServedBefore_trans before serves
      · exact ⟨other, by simp only [first?, served, if_neg before], serves⟩

end Changeset

namespace Store

variable {store : Store} {id : ChangesetId} {row : Changeset} {time : Time}

/-- A claim is granted on a changeset, or on one that is served before it. -/
def Offers (store : Store) (time : Time) (row : Changeset) : Prop :=
  ∃ first, (first = row ∨ first.isServedBefore row = true) ∧
    ∀ worker token length expiresAt, expiry time length = .ok expiresAt →
      ∃ next, store.leaseNext worker token time length =
        .ok (some ({ first with queueState := .processing },
          ⟨first.id, worker, token, expiresAt⟩), next)

/-- A changeset that is due and under no lease comes to its turn: it is the next candidate, or one
that is served before it is. -/
theorem exists_candidate (found : store.changesets.find? id = some row) (named : row.id = id)
    (due : row.isDue time = true) (free : store.leases.find? id = none) :
    ∃ first, store.candidate? time = some first ∧
      (first = row ∨ first.isServedBefore row = true) := by
  subst named
  have member : row ∈ store.changesets.rows.filter fun changeset =>
      changeset.isDue time && !store.leases.contains changeset.id := by
    refine List.mem_filter.mpr ⟨Table.mem_rows_iff.mpr ⟨row.id, found⟩, ?_⟩
    simp [due, Table.contains, free]
  exact Changeset.first?_serves member

private theorem offers_of_isDue (found : store.changesets.find? id = some row) (named : row.id = id)
    (due : row.isDue time = true) (free : store.leases.find? id = none) :
    store.Offers time row := by
  obtain ⟨first, candidate, serves⟩ := exists_candidate found named due free
  refine ⟨first, serves, ?_⟩
  intro worker token length expiresAt reached
  exact ⟨_, by simp only [leaseNext, candidate, reached]; rfl⟩

/-- The reset gives a changeset in processing back to the queue when its lease has ended. -/
theorem resetExpired_of_processing {record : LeaseRecord}
    (found : store.changesets.find? id = some row) (busy : row.queueState = .processing)
    (leased : store.leases.find? id = some record) (ended : record.lease.expiresAt ≤ time) :
    (store.resetExpired time).2.changesets.find? id = some { row with queueState := .queued } ∧
      (store.resetExpired time).2.leases.find? id = none := by
  have expired : record.lease.isExpired time = true := decide_eq_true ended
  constructor
  · rw [find?_resetExpired, found, leased]
    simp [expired, Changeset.released, busy]
  · rw [find?_leases_resetExpired, leased]
    simp [Option.filter, expired]

end Store

namespace System

variable {system next : System} {event : Event}

/-- Every changeset in processing is under a lease. -/
def Attended (system : System) : Prop :=
  ∀ id row, system.store.changesets.find? id = some row → row.queueState = .processing →
    ∃ record, system.store.leases.find? id = some record

/-- A changeset that is in processing after an event was just claimed, or was in processing before
and keeps its lease. -/
theorem Change.attended {id : ChangesetId} {row : Option Changeset} {after : Changeset}
    {lease lease' : Option LeaseRecord}
    (change : Change system event next id row lease (some after) lease')
    (attended : ∀ before, row = some before → before.queueState = .processing →
      ∃ record, lease = some record)
    (busy : after.queueState = .processing) : ∃ record, lease' = some record := by
  have placed : ∀ {before : Changeset}, row = some before →
      after.place = Changeset.freshPlace ∨ after.place = before.place ∧ after.wishes = before.wishes →
      ∃ record, lease = some record := by
    intro before same place
    rcases place with fresh | ⟨kept, -⟩
    · rw [show after.queueState = .queued from congrArg Prod.fst fresh] at busy
      cases busy
    · exact attended before same ((congrArg Prod.fst kept).symm.trans busy)
  generalize present : some after = later at change
  cases change with
  | still same =>
    obtain ⟨record, rfl⟩ := attended after present.symm busy
    obtain ⟨kept, stays, -⟩ := Option.map_eq_some_iff.mp same
    exact ⟨kept, stays⟩
  | claimed happens due mark => exact ⟨_, rfl⟩
  | concluded happens under stopped gone settled here token =>
    -- An outcome is completed or errored, and replaces a state of processing.
    obtain ⟨before, -, rfl⟩ := Option.map_eq_some_iff.mp present.symm
    simp only [Changeset.withOutcome] at busy
    split at busy
    · obtain ⟨-, rfl⟩ | ⟨error, retryAt, -, rfl⟩ := Changeset.settled?_eq_some settled
      · cases busy
      · cases busy
    · next idle => simp [busy] at idle
  | canceled happens waiting =>
    cases present
    cases busy
  | requeued happens due =>
    cases present
    cases busy
  | reset happens expired =>
    obtain ⟨before, -, rfl⟩ := Option.map_eq_some_iff.mp present.symm
    simp only [Changeset.released] at busy
    split at busy
    · cases busy
    · next idle => exact absurd busy idle
  | rewired generation happens under makes fate =>
    subst present
    cases row with
    | none =>
      cases fate with
      | @created spec repo paired located fresh =>
        simp only [Changeset.ofSpec] at busy
        split at busy <;> cases busy
    | some before => exact placed rfl fate.place
  | closed happens fate =>
    subst present
    cases row with
    | none => cases fate.none
    | some before => exact placed rfl fate.place

private theorem attended_start (faults : List Fault) (now : Time) :
    (start faults now).Attended := by
  intro id row found
  cases found

private theorem Attended.step (attended : system.Attended) (sound : system.Sound) (event : Event) :
    (system.step event).Attended := by
  intro id row found busy
  have change := (System.transition sound.numbered event).change sound id
  rw [found] at change
  exact change.attended (attended id) busy

private theorem Attended.run (attended : system.Attended) (sound : system.Sound)
    (events : List Event) : (system.run events).Attended :=
  sound.keeps Attended attended events fun sound event attended => attended.step sound event

/-- In every run that starts with the empty store, whatever failures of the store lie ahead and
wherever attempts are given up: a changeset in processing is under a lease, and a reset at any time
at which the lease has ended gives it back to the queue, under no lease, and to the claims that are
made once it is due. So is every changeset that is queued, due and under no lease one that claims
choose from. -/
theorem processing_attended_until_reset (faults : List Fault) (now : Time) (events : List Event) :
    (∀ id row, ((start faults now).run events).store.changesets.find? id = some row →
      row.queueState = .processing →
      ∃ record, ((start faults now).run events).store.leases.find? id = some record ∧
        record.lease.changesetId = id ∧
        ∀ time, record.lease.expiresAt ≤ time →
          (((start faults now).run events).store.resetExpired time).2.changesets.find? id =
            some { row with queueState := .queued } ∧
          (((start faults now).run events).store.resetExpired time).2.leases.find? id = none ∧
          ∀ later, (∀ retry, row.processAfter = some retry → retry ≤ later) →
            (((start faults now).run events).store.resetExpired time).2.Offers later
              { row with queueState := .queued }) ∧
    (∀ id row time, ((start faults now).run events).store.changesets.find? id = some row →
      row.queueState = .queued → (∀ retry, row.processAfter = some retry → retry ≤ time) →
      ((start faults now).run events).store.leases.find? id = none →
      ((start faults now).run events).store.Offers time row) := by
  have sound := (sound_start faults now).run events
  have attended := (attended_start faults now).run (sound_start faults now) events
  have isDue : ∀ {row : Changeset} {time : Time}, row.queueState = .queued →
      (∀ retry, row.processAfter = some retry → retry ≤ time) → row.isDue time = true := by
    intro row time queued ready
    simpa [Changeset.isDue, queued, Option.all_eq_true] using ready
  constructor
  · intro id row found busy
    obtain ⟨record, leased⟩ := attended id row found busy
    refine ⟨record, leased, (sound.numbered.leases leased).1, ?_⟩
    intro time ended
    obtain ⟨queued, free⟩ := Store.resetExpired_of_processing found busy leased ended
    refine ⟨queued, free, ?_⟩
    intro later ready
    exact Store.offers_of_isDue queued (sound.numbered.changesets found).1 (isDue rfl ready) free
  · intro id row time found queued ready free
    exact Store.offers_of_isDue found (sound.numbered.changesets found).1 (isDue queued ready) free

end System

namespace Sample

/-- A worker dies on the changeset it claimed. -/
def dying : List Event := setUp ++ [.claim "w" (.ofSeconds 60), .abandon 0]

end Sample

open Sample in
/-- A changeset that is applied waits for claims. A worker claims it and dies; the lease of one
minute has ended after a minute, and the changeset waits for claims again. -/
theorem System.processing_attended_until_reset_abandoned :
    (∃ row, ((start [] (instant 0)).run setUp).store.Offers (instant 0) row ∧
      row.id = changeset) ∧
    ∃ record row, ((start [] (instant 0)).run dying).store.leases.find? changeset =
          some record ∧
      record.lease.expiresAt = instant 60 ∧
      (((start [] (instant 0)).run dying).store.resetExpired
          (instant 60)).2.leases.find? changeset = none ∧
      (((start [] (instant 0)).run dying).store.resetExpired
          (instant 60)).2.Offers (instant 60) row ∧ row.id = changeset := by
  constructor
  · obtain ⟨row, found, same⟩ := Option.map_eq_some_iff.mp (show
      (((start [] (instant 0)).run setUp).store.changesets.find? changeset).map
        (fun row => (row.id, row.queueState, row.processAfter)) = some (changeset, .queued, none)
      by decide +kernel)
    simp only [Prod.mk.injEq] at same
    obtain ⟨named, queued, ready⟩ := same
    have free : ((start [] (instant 0)).run setUp).store.leases.find? changeset = none :=
      Option.isNone_iff_eq_none.mp (by decide +kernel)
    refine ⟨row, ?_, named⟩
    apply (processing_attended_until_reset [] (instant 0) setUp).2 changeset row _ found queued
    · intro retry waits
      rw [ready] at waits
      cases waits
    · exact free
  · obtain ⟨row, found, same⟩ := Option.map_eq_some_iff.mp (show
      (((start [] (instant 0)).run dying).store.changesets.find? changeset).map
          (fun row => (row.id, row.queueState, row.processAfter)) =
        some (changeset, .processing, none) by decide +kernel)
    simp only [Prod.mk.injEq] at same
    obtain ⟨named, busy, ready⟩ := same
    obtain ⟨record, leased, -, resets⟩ := (processing_attended_until_reset [] (instant 0) dying).1
      changeset row found busy
    have minute : (((start [] (instant 0)).run dying).store.leases.find? changeset).map
          (·.lease.expiresAt) = some (instant 60) := by decide +kernel
    rw [leased] at minute
    have expiry : record.lease.expiresAt = instant 60 := Option.some.inj minute
    have ended : record.lease.expiresAt ≤ instant 60 := by
      rw [expiry]
      exact Time.le_refl _
    obtain ⟨-, free, offers⟩ := resets (instant 60) ended
    refine ⟨record, _, leased, expiry, free, offers (instant 60) ?_, named⟩
    intro retry waits
    rw [ready] at waits
    cases waits

end BatchChanges
