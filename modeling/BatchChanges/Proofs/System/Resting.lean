import BatchChanges.Proofs.System.Places

/-! # Rest before the next attempt

A failed changeset that is to be tried again has a time to wait for. Housekeeping asks for that time
before it puts the changeset back into the queue, and a claim asks for it once more, so that it does
not matter which way the clock is moved in between. A changeset without such a time is out of the
queue until a campaign wants it again.
-/

namespace BatchChanges

namespace Changeset

variable {row after : Changeset} {time : Time}

/-- A changeset that is not processed before a time: it waits for a later one, or for a campaign. -/
inductive Rests (time : Time) (row : Changeset) : Prop
  | completed (state : row.queueState = .completed)
  | abandoned (state : row.queueState = .errored) (never : row.processAfter = none)
  | waiting {later : Time} (scheduled : row.processAfter = some later) (above : time ≤ later)

private theorem Rests.congr (rests : row.Rests time) (same : after.place = row.place) :
    after.Rests time := by
  simp only [place, Prod.mk.injEq] at same
  obtain ⟨state, -, -, waits⟩ := same
  cases rests with
  | completed completed => exact .completed (state.trans completed)
  | abandoned errored never => exact .abandoned (state.trans errored) (waits.trans never)
  | waiting scheduled above => exact .waiting (waits.trans scheduled) above

/-- A changeset in the queue or in processing rests because it has a time to wait for. -/
theorem Rests.scheduled (rests : row.Rests time)
    (active : row.queueState = .queued ∨ row.queueState = .processing) :
    ∃ later, row.processAfter = some later ∧ time ≤ later := by
  cases rests with
  | waiting scheduled above => exact ⟨_, scheduled, above⟩
  | _ state => rcases active with active | active <;> rw [state] at active <;> cases active

private theorem Rests.le_of_isDue (rests : row.Rests time) {now : Time}
    (due : row.isDue now = true) : time ≤ now := by
  obtain ⟨later, scheduled, above⟩ := rests.scheduled (.inl (queued_of_isDue due))
  simp only [isDue, scheduled, Option.all_some, Bool.and_eq_true, decide_eq_true_eq] at due
  exact Time.le_trans above due.2

/-- An attempt that ends after a time leaves its changeset to rest from then on. -/
theorem rests_of_settled {outcome : Changeset} {policy : RetryPolicy}
    {failure : Option ReconcileError} {now : Time} (late : time ≤ now)
    (settled : row.settled? policy failure now = some outcome) : outcome.Rests time := by
  rcases retry_of_settled settled with ⟨state, -⟩ | ⟨state, -, retried⟩
  · exact .completed state
  · cases waits : outcome.processAfter with
    | none => exact .abandoned state waits
    | some later => exact .waiting waits (Time.le_trans late (retried later waits).1)

end Changeset

namespace System

variable {system : System} {event : Event} {events : List Event} {id : ChangesetId}
  {row after : Changeset} {limit : UInt32} {time : Time}

/-- A changeset rests on, unless a campaign puts it back or an outcome is written back early. -/
theorem Moves.rests (moves : system.Moves event id row after)
    (found : system.store.changesets.find? id = some row)
    (stored : (system.step event).store.changesets.find? id = some after)
    (keeps : ¬ Requeues id system event) (late : Settles id system event → time ≤ system.now)
    (rests : row.Rests time) : after.Rests time := by
  cases moves with
  | stays place => exact rests.congr place
  | claimed due place =>
    obtain ⟨later, scheduled, above⟩ := rests.scheduled (.inl (Changeset.queued_of_isDue due))
    exact .waiting ((congrArg (·.2.2.2) place).trans scheduled) above
  | settled happens under here leased token busy settled place =>
    have moved : (system.step event).place? id ≠ system.place? id := by
      rw [place?_of_found found, place?_of_found stored, place, ne_eq, Option.some_inj]
      intro same
      have state := (congrArg Prod.fst same).trans busy
      rcases Changeset.retry_of_settled settled with ⟨done, -⟩ | ⟨done, -⟩ <;>
        exact absurd (done.symm.trans state) (by decide)
    exact (Changeset.rests_of_settled (late ⟨⟨_, _, happens⟩, moved⟩) settled).congr place
  | canceled waiting place => exact (Changeset.Rests.abandoned rfl rfl).congr place
  | retried due place =>
    obtain ⟨errored, other, waits⟩ := Changeset.errored_of_isRetryDue due
    cases rests with
    | waiting scheduled above =>
      exact .waiting ((congrArg (·.2.2.2) place).trans scheduled) above
    | completed state =>
      rw [errored] at state
      cases state
    | abandoned state never =>
      rw [waits] at never
      cases never
  | released busy place =>
    obtain ⟨later, scheduled, above⟩ := rests.scheduled (.inr busy)
    exact .waiting ((congrArg (·.2.2.2) place).trans scheduled) above
  | requeued edits fresh => exact rests.congr (place_of_not_requeues found stored edits fresh keeps)

/-- A changeset that rests is not claimed early. -/
theorem Stays.le_of_leases (stays : system.Stays id (·.Rests time)) (sound : system.Sound)
    (leases : Leases id system event) : time ≤ system.now := by
  obtain ⟨row, found, due⟩ := leases.due sound
  exact (stays.row found).le_of_isDue due

/-- A changeset rests until its time, if outcomes are written back after it. -/
theorem Stays.rests_run (stays : system.Stays id (·.Rests time)) (sound : system.Sound)
    (along : system.Along (fun system event => ¬ Requeues id system event ∧
      (Settles id system event → time ≤ system.now)) events) :
    (system.run events).Stays id (·.Rests time) :=
  along.keeps sound (fun sound meets stays => stays.step sound fun found stored moves =>
    moves.rests found stored meets.1 meets.2) stays

/-- Until its time a changeset is under no lease. -/
structure Idle (id : ChangesetId) (time : Time) (system : System) : Prop where
  stays : system.Stays id (·.Rests time)
  late {record : LeaseRecord} (leased : system.store.leases.find? id = some record) :
    time ≤ system.now

/-- Outcomes are written back after that time, if the clock never goes back. -/
theorem Idle.step (idle : system.Idle id time) (sound : system.Sound)
    (keeps : ¬ Requeues id system event) (onward : system.now ≤ (system.step event).now) :
    (system.step event).Idle id time := by
  constructor
  · exact idle.stays.step sound fun found stored moves => moves.rests found stored keeps
      fun settles => (settles.leased sound).elim fun _ leased => idle.late leased
  · intro record leased
    refine Time.le_trans ?_ onward
    have change := (System.transition sound.numbered event).change sound id
    rw [leased] at change
    rcases change.record with ⟨before, held, -⟩ | ⟨-, token, -⟩
    · exact idle.late held
    · exact idle.stays.le_of_leases sound (show Leases id system event by
        rw [Leases, leased, Option.map_some, token])

theorem Idle.run (idle : system.Idle id time) (sound : system.Sound)
    (along : system.Along (fun system event => ¬ Requeues id system event ∧
      system.now ≤ (system.step event).now) events) : (system.run events).Idle id time :=
  along.keeps sound (fun sound meets idle => idle.step sound meets.1 meets.2) idle

/-- A changeset that is given up stays so until a campaign puts it back. -/
theorem Moves.abandoned (moves : system.Moves event id row after)
    (found : system.store.changesets.find? id = some row)
    (stored : (system.step event).store.changesets.find? id = some after)
    (keeps : ¬ Requeues id system event)
    (abandoned : row.queueState = .errored ∧ row.processAfter = none) :
    after.queueState = .errored ∧ after.processAfter = none := by
  obtain ⟨errored, never⟩ := abandoned
  have congr : after.place = row.place → after.queueState = .errored ∧ after.processAfter = none :=
    fun same => ⟨(congrArg Prod.fst same).trans errored, (congrArg (·.2.2.2) same).trans never⟩
  cases moves with
  | stays place => exact congr place
  | claimed due place => cases errored.symm.trans (Changeset.queued_of_isDue due)
  | settled happens under here leased token busy settled place => cases errored.symm.trans busy
  | canceled waiting place => exact ⟨congrArg Prod.fst place, congrArg (·.2.2.2) place⟩
  | retried due place =>
    obtain ⟨-, later, waits⟩ := Changeset.errored_of_isRetryDue due
    cases never.symm.trans waits
  | released busy place => cases errored.symm.trans busy
  | requeued edits fresh => exact congr (place_of_not_requeues found stored edits fresh keeps)

theorem Stays.abandoned_run
    (stays : system.Stays id fun row => row.queueState = .errored ∧ row.processAfter = none)
    (sound : system.Sound)
    (along : system.Along (fun system event => ¬ Requeues id system event) events) :
    (system.run events).Stays id fun row => row.queueState = .errored ∧ row.processAfter = none :=
  along.keeps sound (fun sound keeps stays => stays.step sound fun found stored moves =>
    moves.abandoned found stored keeps) stays

end System

end BatchChanges
