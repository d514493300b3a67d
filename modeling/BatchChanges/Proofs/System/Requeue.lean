import BatchChanges.Proofs.System.Row

/-! # Completions and re-queues

What campaigns want of a changeset changes only together with its place in the queue: whoever edits
the wishes puts the changeset back into the queue. A claim is the only way back into processing, and
nothing is claimed under a lease. Hence a write-back that finds the changeset still in processing
finds the wishes that its attempt planned from, and one that finds it queued again leaves it there.
-/

namespace BatchChanges

namespace Changeset

/-- What campaigns want of a changeset. -/
def wishes (row : Changeset) : Option ChangesetSpecId × Option ChangesetSpecId × Bool :=
  (row.currentSpecId, row.previousSpecId, row.closing)

/-- Where a changeset stands in the queue, and with which record of failures. -/
def place (row : Changeset) : QueueState × Option String × UInt32 × Option Time :=
  (row.queueState, row.failureMessage, row.failures, row.processAfter)

/-- A changeset at the end of the queue, with a clean record. -/
def freshPlace : QueueState × Option String × UInt32 × Option Time := (.queued, none, 0, none)

/-- A write-back changes the place of a changeset in processing only. -/
theorem place_withOutcome {row : Changeset} (idle : row.queueState ≠ .processing)
    (outcome : Changeset) (closing : Bool) :
    (row.withOutcome outcome closing).place = row.place := by
  have off : (row.queueState == .processing) = false := by simpa using idle
  simp only [place, withOutcome, off, Bool.false_eq_true, if_false]

theorem queued_of_isDue {row : Changeset} {now : Time} (due : row.isDue now = true) :
    row.queueState = .queued := by
  simp only [isDue, Bool.and_eq_true, beq_iff_eq] at due
  exact due.1

theorem errored_of_isRetryDue {row : Changeset} {now : Time} {maxAttempts : UInt32}
    (due : row.isRetryDue now maxAttempts = true) :
    row.queueState = .errored ∧ ∃ time, row.processAfter = some time := by
  simp only [isRetryDue, Bool.and_eq_true, Option.any_eq_true, beq_iff_eq] at due
  obtain ⟨⟨errored, time, waiting, -⟩, -⟩ := due
  exact ⟨errored, time, waiting⟩

/-- Moving on to a spec queues a changeset again, or changes none of its wishes. -/
theorem place_following (row : Changeset) (campaign : CampaignId) (now : Time)
    (spec : ChangesetSpec) :
    (row.following campaign now spec).place = freshPlace ∨
      (row.following campaign now spec).place = row.place ∧
        (row.following campaign now spec).wishes = row.wishes := by
  simp only [following]
  split
  · split
    · exact .inl rfl
    · exact .inr ⟨rfl, rfl⟩
  · exact .inl rfl

end Changeset

/-- Leaving a campaign queues a changeset again, or changes none of its wishes. -/
theorem Placement.place_of_ofDropped {campaign : CampaignId} {now : Time}
    {row placed : Changeset} (decided : Placement.ofDropped campaign now row = .staged placed) :
    placed.place = Changeset.freshPlace ∨
      placed.place = row.place ∧ placed.wishes = row.wishes := by
  obtain ⟨-, rfl⟩ | ⟨-, rfl⟩ := Placement.ofDropped_eq_staged decided
  · exact .inl rfl
  · exact .inr ⟨rfl, rfl⟩

variable {id : ChangesetId} {row after : Changeset}

/-- An application queues a changeset again, or changes none of its wishes. -/
theorem Generation.Fate.place {generation : Generation} {store : Store}
    (fate : generation.Fate store id (some row) (some after)) :
    after.place = Changeset.freshPlace ∨ after.place = row.place ∧ after.wishes = row.wishes := by
  cases fate with
  | kept => exact .inr ⟨rfl, rfl⟩
  | left unwanted decided => exact Placement.place_of_ofDropped decided
  | followed paired => exact Changeset.place_following row _ _ _

/-- So does a closure. -/
theorem Closure.Fate.place {closure : Closure} {now : Time}
    (fate : closure.Fate now (some row) (some after)) :
    after.place = Changeset.freshPlace ∨ after.place = row.place ∧ after.wishes = row.wishes := by
  cases fate with
  | kept => exact .inr ⟨rfl, rfl⟩
  | closed attached opened => exact .inl rfl

/-- No application brings a changeset about under a number that a lease is on. -/
theorem Generation.Fate.none_of_leased {generation : Generation} {store : Store}
    {record : LeaseRecord} {result : Option Changeset} (numbered : store.Numbered)
    (found : store.leases.find? id = some record)
    (fate : generation.Fate store id none result) : result = none := by
  cases fate with
  | kept => rfl
  | created paired located fresh =>
    rw [numbered.find?_leases_of_lt fresh] at found
    cases found

theorem Closure.Fate.none {closure : Closure} {now : Time} {result : Option Changeset}
    (fate : closure.Fate now none result) : result = none := by
  cases fate
  rfl

/-- Whether an event is a call of an application, or a closure. -/
def Event.editsCampaign : Event → Bool
  | proceed _ _ | close _ => true
  | _ => false

namespace System

variable {system next : System} {event : Event}

/-- What is known of a changeset under a lease: in processing it has the wishes that were claimed,
and otherwise it waits for nothing. -/
structure Faithful (system : System) : Prop where
  claim {number : Nat} {flight : Flight} {record : LeaseRecord}
    (under : system.flights number = some flight)
    (found : system.store.leases.find? flight.claimed.id = some record)
    (token : record.lease.token = leaseToken number) :
    record.closingAtClaim = flight.claimed.closing ∧
      ∀ row, system.store.changesets.find? flight.claimed.id = some row →
        row.queueState = .processing → row.wishes = flight.claimed.wishes
  place {id : ChangesetId} {record : LeaseRecord} {row : Changeset}
    (leased : system.store.leases.find? id = some record)
    (found : system.store.changesets.find? id = some row)
    (idle : row.queueState ≠ .processing) : row.processAfter = none

theorem faithful_start (faults : List Fault) (now : Time) : (start faults now).Faithful where
  claim under := by cases under
  place leased := by cases leased

/-- A lease on record was on record before, with the same token and the same note on closing, or it
was just claimed, with a note on the changeset as it is. -/
theorem Change.record {id : ChangesetId} {row after : Option Changeset}
    {lease : Option LeaseRecord} {record : LeaseRecord}
    (change : Change system event next id row lease after (some record)) :
    (∃ before, lease = some before ∧ record.mark = before.mark) ∨
      lease = none ∧ record.lease.token = leaseToken system.tokens ∧
        ∃ claimed, after = some claimed ∧ claimed.queueState = .processing ∧
          record.closingAtClaim = claimed.closing := by
  cases change with
  | @still _ lease _ same =>
    cases lease with
    | none => cases same
    | some before => exact .inl ⟨before, rfl, Option.some.inj same⟩
  | claimed happens due mark =>
    exact .inr ⟨rfl, congrArg Prod.fst mark, _, rfl, rfl, congrArg Prod.snd mark⟩
  | canceled happens waiting => exact .inl ⟨record, rfl, rfl⟩
  | requeued happens due => exact .inl ⟨record, rfl, rfl⟩
  | rewired generation happens under makes fate => exact .inl ⟨record, rfl, rfl⟩
  | closed happens fate => exact .inl ⟨record, rfl, rfl⟩

/-- A lease that was granted before was on record before. -/
theorem Change.held {id : ChangesetId} {row after : Option Changeset} {lease : Option LeaseRecord}
    {record : LeaseRecord} {number : Nat}
    (change : Change system event next id row lease after (some record))
    (old : number < system.tokens) (token : record.lease.token = leaseToken number) :
    ∃ held, lease = some held ∧ held.lease.token = leaseToken number ∧
      record.closingAtClaim = held.closingAtClaim := by
  obtain ⟨held, leased, mark⟩ | ⟨-, fresh, -⟩ := change.record
  · exact ⟨held, leased, (congrArg Prod.fst mark).symm.trans token, congrArg Prod.snd mark⟩
  · rw [fresh] at token
    exact absurd (leaseToken_injective token).symm (Nat.ne_of_lt old)

/-- Applications and closures leave leases alone. -/
theorem Change.lease_of_edits {id : ChangesetId} {row after : Option Changeset}
    {lease stays : Option LeaseRecord} {record : LeaseRecord}
    (change : Change system event next id row lease after stays)
    (edits : event.editsCampaign = true)
    (leased : lease = some record) : ∃ held, stays = some held := by
  cases change with
  | still same =>
    subst leased
    cases stays with
    | none => cases same
    | some held => exact ⟨held, rfl⟩
  | claimed happens due mark => cases leased
  | concluded happens under stopped gone settled here token =>
    subst happens
    cases edits
  | canceled happens waiting => exact ⟨record, leased⟩
  | requeued happens due => exact ⟨record, leased⟩
  | reset happens expired =>
    subst happens
    cases edits
  | rewired generation happens under makes fate => exact ⟨record, leased⟩
  | closed happens fate => exact ⟨record, leased⟩

/-- A row whose lease stays is queued anew with a clean record, keeps its wishes and its place, or
was taken out of the queue or put back into it without being in processing. -/
theorem Change.leased {id : ChangesetId} {held record : LeaseRecord} {row after : Option Changeset}
    {lease : Option LeaseRecord} {revised : Changeset} (numbered : system.store.Numbered)
    (leased : system.store.leases.find? id = some held)
    (change : Change system event next id row (some held) after lease) (stays : lease = some record)
    (present : after = some revised) :
    ∃ earlier, row = some earlier ∧ (revised.place = Changeset.freshPlace ∨
      (revised.place = earlier.place ∧ revised.wishes = earlier.wishes) ∨
      revised = earlier.canceled ∨
      earlier.processAfter ≠ none ∧ earlier.queueState = .errored ∧
        revised.queueState = .queued) := by
  cases change with
  | still same => exact ⟨revised, present, .inr (.inl ⟨rfl, rfl⟩)⟩
  | concluded happens under stopped gone settled here token => cases stays
  | canceled happens waiting =>
    cases present
    exact ⟨_, rfl, .inr (.inr (.inl rfl))⟩
  | @requeued earlier _ maxAttempts happens due =>
    cases present
    obtain ⟨errored, time, waiting⟩ := Changeset.errored_of_isRetryDue due
    have waits : earlier.processAfter ≠ none := by
      rw [waiting]
      simp
    exact ⟨earlier, rfl, .inr (.inr (.inr ⟨waits, errored, rfl⟩))⟩
  | reset happens expired => cases stays
  | rewired generation happens under makes fate =>
    subst present
    cases row with
    | none => cases fate.none_of_leased numbered leased
    | some earlier =>
      rcases fate.place with fresh | kept
      · exact ⟨earlier, rfl, .inl fresh⟩
      · exact ⟨earlier, rfl, .inr (.inl kept)⟩
  | @closed closure _ _ _ happens fate =>
    subst present
    cases row with
    | none => cases fate.none
    | some earlier =>
      rcases fate.place with fresh | kept
      · exact ⟨earlier, rfl, .inl fresh⟩
      · exact ⟨earlier, rfl, .inr (.inl kept)⟩

/-- Every transition keeps what is known of changesets under a lease. -/
theorem Faithful.transition (faithful : system.Faithful) (sound : system.Sound)
    (happens : Transition system event next) : next.Faithful where
  claim {number flight record} under found token := by
    have change := happens.change sound flight.claimed.id
    rw [found] at change
    rcases (happens.flies under).claimed_eq with ⟨before, underBefore, same⟩ |
      ⟨row, expiresAt, worker, -, claimed, stored, leased⟩
    · rw [← same] at change found ⊢
      obtain ⟨held, leased, tokenHeld, noted⟩ :=
        change.held (sound.flight underBefore).number_lt token
      obtain ⟨closing, wishes⟩ := faithful.claim underBefore leased tokenHeld
      refine ⟨noted.trans closing, ?_⟩
      intro row stored busy
      rw [leased] at change
      obtain ⟨earlier, storedBefore, fresh | ⟨place, kept⟩ | rfl | ⟨-, -, queued⟩⟩ :=
        change.leased sound.numbered leased rfl stored
      · rw [show row.queueState = .queued from congrArg Prod.fst fresh] at busy
        cases busy
      · exact kept.trans
          (wishes earlier storedBefore ((congrArg Prod.fst place).symm.trans busy))
      · cases busy
      · rw [queued] at busy
        cases busy
    · rw [show flight.claimed.id = row.id by rw [claimed]] at found ⊢
      rw [leased] at found
      cases found
      refine ⟨by rw [claimed], ?_⟩
      intro other present busy
      rw [stored] at present
      cases present
      rfl
  place {id record row} leased found idle := by
    have change := happens.change sound id
    rw [leased] at change
    rcases change.record with ⟨held, leasedBefore, -⟩ | ⟨-, -, claimed, same, busy, -⟩
    · rw [leasedBefore] at change
      obtain ⟨earlier, stored, fresh | ⟨place, -⟩ | rfl | ⟨waiting, errored, -⟩⟩ :=
        change.leased sound.numbered leasedBefore rfl found
      · exact congrArg (·.2.2.2) fresh
      · have idleBefore : earlier.queueState ≠ .processing := by
          intro busy
          exact idle ((congrArg Prod.fst place).trans busy)
        have ready := faithful.place leasedBefore stored idleBefore
        exact (congrArg (·.2.2.2) place).trans ready
      · rfl
      · have idleBefore : earlier.queueState ≠ .processing := by
          rw [errored]
          decide
        exact absurd (faithful.place leasedBefore stored idleBefore) waiting
    · rw [found] at same
      cases same
      exact absurd busy idle

theorem Faithful.run (faithful : system.Faithful) (sound : system.Sound) (events : List Event) :
    (system.run events).Faithful :=
  sound.keeps Faithful faithful events fun sound event faithful =>
    faithful.transition sound (System.transition sound.numbered event)

/-- A write-back that moves a row finds it in processing, as its attempt claimed it. -/
theorem Faithful.conclude {number : Nat} {policy : RetryPolicy} {flight : Flight}
    {id : ChangesetId} {row after : Changeset} (faithful : system.Faithful) (sound : system.Sound)
    (under : system.flights number = some flight)
    (found : system.store.changesets.find? id = some row)
    (written : (system.step (.conclude number policy)).store.changesets.find? id = some after)
    (moved : after.queueState ≠ row.queueState) :
    flight.claimed.id = id ∧ row.queueState = .processing ∧ row.wishes = flight.claimed.wishes ∧
      ∃ failure outcome, flight.attempt.stage = .settled failure ∧
        flight.attempt.row.settled? policy failure system.now = some outcome ∧
        after.queueState = outcome.queueState := by
  have happens := System.transition sound.numbered (.conclude number policy)
  have change := happens.change sound id
  rw [found, written] at change
  generalize leased : system.store.leases.find? id = lease at change
  generalize (system.step (.conclude number policy)).store.leases.find? id = lease' at change
  cases change with
  | still same => exact absurd rfl moved
  | claimed happens due mark => cases happens
  | @concluded _ _ other failure outcome _ record happens underToo stopped gone settled here
      token =>
    cases happens
    rw [under] at underToo
    cases underToo
    have busy : row.queueState = .processing := by
      by_contra idle
      exact moved (congrArg Prod.fst
        (Changeset.place_withOutcome idle outcome record.closingAtClaim))
    subst here
    refine ⟨rfl, busy, (faithful.claim under leased token).2 row found busy, failure, outcome,
      stopped, settled, ?_⟩
    simp [Changeset.withOutcome, busy]
  | canceled happens waiting => rcases happens with happens | ⟨_, _, happens⟩ <;> cases happens
  | requeued happens due => cases happens
  | reset happens expired => cases happens
  | rewired generation happens under makes fate => cases happens
  | closed happens fate => cases happens

/-- The lease of this token, if it still stands on the changeset, does not find it in processing. -/
def Left (system : System) (id : ChangesetId) (token : String) : Prop :=
  ∀ record row, system.store.leases.find? id = some record → record.lease.token = token →
    system.store.changesets.find? id = some row → row.queueState ≠ .processing

/-- Nothing under a lease comes back into processing, and a new lease has a new token. -/
theorem Left.transition {id : ChangesetId} {number : Nat}
    (left : system.Left id (leaseToken number)) (old : number < system.tokens)
    (sound : system.Sound)
    (happens : Transition system event next) : next.Left id (leaseToken number) := by
  intro record row leased token found busy
  have change := happens.change sound id
  rw [leased] at change
  obtain ⟨held, leasedBefore, tokenHeld, -⟩ := change.held old token
  rw [leasedBefore] at change
  obtain ⟨earlier, stored, place | ⟨place, -⟩ | rfl | ⟨-, -, queued⟩⟩ :=
    change.leased sound.numbered leasedBefore rfl found
  · rw [show row.queueState = .queued from congrArg Prod.fst place] at busy
    cases busy
  · exact left held earlier leasedBefore tokenHeld stored
      ((congrArg Prod.fst place).symm.trans busy)
  · cases busy
  · rw [queued] at busy
    cases busy

private theorem Left.run {id : ChangesetId} {number : Nat}
    (left : system.Left id (leaseToken number)) (old : number < system.tokens)
    (sound : system.Sound) (events : List Event) :
    (system.run events).Left id (leaseToken number) := by
  induction events generalizing system with
  | nil => exact left
  | cons event rest ih =>
    have happens := System.transition sound.numbered event
    exact ih (left.transition old sound happens) (Nat.lt_of_lt_of_le old happens.tokens_le)
      (sound.step event)

/-- A write-back under a lease that does not find its changeset in processing leaves the changeset
where it stands in the queue. -/
theorem Left.finish {id : ChangesetId} {token : String} {presented : Lease} {row : Changeset}
    (left : system.Left id token) (here : presented.changesetId = id)
    (same : presented.token = token) (found : system.store.changesets.find? id = some row)
    (outcome : Changeset) :
    ∃ after, (system.store.finish presented outcome).2.changesets.find? id = some after ∧
      after.place = row.place := by
  by_cases holds : system.store.Holds presented
  · obtain ⟨record, leased, shown⟩ := holds
    subst here
    rw [Store.finish_of_record leased shown, found]
    refine ⟨row.withOutcome outcome record.closingAtClaim, by simp, ?_⟩
    exact Changeset.place_withOutcome (left record row leased (shown.trans same) found) outcome _
  · rw [Store.finish_of_not_holds holds]
    exact ⟨row, found, rfl⟩

/-- A changeset that waits to be claimed, at any time. -/
def Waits (system : System) (id : ChangesetId) : Prop :=
  ∃ row, system.store.changesets.find? id = some row ∧ row.queueState = .queued ∧
    row.processAfter = none

/-- What ends the wait of a changeset: a lease is granted on it, it is canceled, or it is
deleted. -/
inductive EndsWait (system : System) (event : Event) (id : ChangesetId) : Prop
  | granted {record : LeaseRecord} (free : system.store.leases.find? id = none)
      (leased : (system.step event).store.leases.find? id = some record)
      (fresh : record.lease.token = leaseToken system.tokens)
  | canceled {row : Changeset} (found : system.store.changesets.find? id = some row)
      (canceled : (system.step event).store.changesets.find? id = some row.canceled)
      (happens : (∃ campaign, event = .cancelQueued campaign) ∨
        ∃ number visible, event = .proceed number visible)
  | deleted (gone : (system.step event).store.changesets.find? id = none)
      (happens : ∃ number visible, event = .proceed number visible)

/-- A changeset that waits goes on waiting, unless the event ends its wait. -/
theorem Waits.step {id : ChangesetId} (waits : system.Waits id) (sound : system.Sound)
    (event : Event) : (system.step event).Waits id ∨ system.EndsWait event id := by
  obtain ⟨row, found, queued, ready⟩ := waits
  have change := (System.transition sound.numbered event).change sound id
  generalize stored : (system.step event).store.changesets.find? id = after at change
  generalize leased : (system.step event).store.leases.find? id = lease' at change
  generalize held : system.store.leases.find? id = lease at change
  rw [found] at change
  cases change with
  | still same => exact .inl ⟨row, stored, queued, ready⟩
  | claimed happens due mark => exact .inr (.granted held leased (congrArg Prod.fst mark))
  | @concluded _ _ _ _ outcome _ record happens under stopped gone settled here token =>
    have idle : row.queueState ≠ .processing := by
      rw [queued]
      decide
    have place := Changeset.place_withOutcome idle outcome record.closingAtClaim
    exact .inl ⟨_, stored, (congrArg Prod.fst place).trans queued,
      (congrArg (·.2.2.2) place).trans ready⟩
  | canceled happens waiting =>
    exact .inr (.canceled found stored (happens.imp (fun same => ⟨_, same⟩) fun same => same))
  | requeued happens due =>
    simp [Changeset.isRetryDue, queued] at due
  | reset happens expired =>
    have same : row.released = row := by simp [Changeset.released, queued]
    exact .inl ⟨row, stored.trans (congrArg some same), queued, ready⟩
  | rewired generation happens under makes fate =>
    cases after with
    | none => exact .inr (.deleted stored ⟨_, _, happens⟩)
    | some revised =>
      rcases fate.place with fresh | ⟨place, -⟩
      · exact .inl ⟨revised, stored, congrArg Prod.fst fresh, congrArg (·.2.2.2) fresh⟩
      · exact .inl ⟨revised, stored, (congrArg Prod.fst place).trans queued,
          (congrArg (·.2.2.2) place).trans ready⟩
  | closed happens fate =>
    cases fate with
    | kept => exact .inl ⟨row, stored, queued, ready⟩
    | closed attached opened => exact .inl ⟨_, stored, rfl, rfl⟩

private theorem Waits.run {id : ChangesetId} (waits : system.Waits id) (sound : system.Sound)
    (events : List Event) :
    (system.run events).Waits id ∨ ∃ earlier cause rest, events = earlier ++ cause :: rest ∧
      (system.run earlier).EndsWait cause id := by
  induction events generalizing system with
  | nil => exact .inl waits
  | cons event rest ih =>
    rcases waits.step sound event with waits | ends
    · rcases ih waits (sound.step event) with waits | ⟨earlier, cause, later, rfl, ends⟩
      · exact .inl waits
      · exact .inr ⟨event :: earlier, cause, later, rfl, ends⟩
    · exact .inr ⟨[], event, rest, rfl, ends⟩

/-- An attempt that settles completes its changeset or records a failure; unless it failed before
planning, it did so by a plan for the specs of the changeset that it claimed. -/
theorem Sound.settled (sound : system.Sound) {number : Nat} {policy : RetryPolicy}
    {flight : Flight} {failure : Option ReconcileError} {outcome : Changeset}
    (under : system.flights number = some flight)
    (stopped : flight.attempt.stage = .settled failure)
    (settled : flight.attempt.row.settled? policy failure system.now = some outcome) :
    outcome.queueState = .errored ∧ flight.attempt.planned = [] ∨
      (outcome.queueState = .errored ∨ outcome.queueState = .completed) ∧
      ∃ previous current plan,
        system.store.changesetSpecs.Names flight.claimed.previousSpecId previous ∧
        system.store.changesetSpecs.Names flight.claimed.currentSpecId current ∧
        Plan.determine previous current flight.claimed = .ok plan ∧
        flight.attempt.planned = plan.operations := by
  have course := (sound.flight under).course
  obtain ⟨rfl, rfl⟩ | ⟨error, retryAt, rfl, rfl⟩ := Changeset.settled?_eq_some settled
  · obtain ⟨previous, current, plan, run, left, follows, -⟩ | ⟨failed, -⟩ := course.settled stopped
    · exact .inr ⟨.inr rfl, previous, current, plan, follows.namesPrevious, follows.namesCurrent,
        follows.planned, follows.operations⟩
    · cases failed
  · obtain ⟨previous, current, plan, run, left, follows, -⟩ | ⟨-, nothing⟩ :=
      course.settled stopped
    · exact .inr ⟨.inl rfl, previous, current, plan, follows.namesPrevious, follows.namesCurrent,
        follows.planned, follows.operations⟩
    · exact .inl ⟨rfl, nothing⟩

/-- A changeset that is queued after an application or a closure, and under a lease, waits. -/
theorem Faithful.waits_of_edits (faithful : system.Faithful) (sound : system.Sound)
    {id : ChangesetId} {record : LeaseRecord} {row : Changeset}
    (edits : event.editsCampaign = true) (leased : system.store.leases.find? id = some record)
    (found : (system.step event).store.changesets.find? id = some row)
    (queued : row.queueState = .queued) : (system.step event).Waits id := by
  have happens := System.transition sound.numbered event
  have change := happens.change sound id
  rw [leased] at change
  obtain ⟨stays, held⟩ := change.lease_of_edits edits rfl
  have idle : row.queueState ≠ .processing := by
    rw [queued]
    decide
  exact ⟨row, found, queued, (faithful.transition sound happens).place held found idle⟩

private theorem Left.of_queued {id : ChangesetId} {row : Changeset} (token : String)
    (found : system.store.changesets.find? id = some row) (queued : row.queueState = .queued) :
    system.Left id token := by
  intro record stored _ _ present
  rw [found] at present
  cases present
  rw [queued]
  decide

/-- In every run that starts with the empty store, whatever failures of the store lie ahead: a
write-back that moves a changeset completes it or records a failure, and finds the two specs and the
wish to close that its attempt claimed and planned from. A changeset that an application or a
closure has left queued under a lease is not moved by any write-back of that lease, and is due for a
later claim at any time, until a lease is granted on it or an application cancels or deletes it. -/
theorem no_stale_completion_no_lost_requeue (faults : List Fault) (now : Time) :
    (∀ before number policy flight id row after,
      ((start faults now).run before).flights number = some flight →
      ((start faults now).run before).store.changesets.find? id = some row →
      (((start faults now).run before).step (.conclude number policy)).store.changesets.find? id =
        some after →
      after.queueState ≠ row.queueState →
      flight.claimed.id = id ∧ row.queueState = .processing ∧
        row.currentSpecId = flight.claimed.currentSpecId ∧
        row.previousSpecId = flight.claimed.previousSpecId ∧
        row.closing = flight.claimed.closing ∧
        (after.queueState = .errored ∧ flight.attempt.planned = [] ∨
          (after.queueState = .errored ∨ after.queueState = .completed) ∧
          ∃ previous current plan,
            ((start faults now).run before).store.changesetSpecs.Names row.previousSpecId previous ∧
            ((start faults now).run before).store.changesetSpecs.Names row.currentSpecId current ∧
            Plan.determine previous current flight.claimed = .ok plan ∧
            flight.attempt.planned = plan.operations)) ∧
    (∀ before event after id record row, event.editsCampaign = true →
      ((start faults now).run before).store.leases.find? id = some record →
      ((start faults now).run (before ++ [event])).store.changesets.find? id = some row →
      row.queueState = .queued →
      (∀ presented outcome stored, presented.changesetId = id →
        presented.token = record.lease.token →
        ((start faults now).run (before ++ event :: after)).store.changesets.find? id =
          some stored →
        ∃ written, (((start faults now).run (before ++ event :: after)).store.finish presented
            outcome).2.changesets.find? id = some written ∧
          written.queueState = stored.queueState ∧
          written.failureMessage = stored.failureMessage ∧
          written.failures = stored.failures ∧ written.processAfter = stored.processAfter) ∧
      ((∃ stored, ((start faults now).run (before ++ event :: after)).store.changesets.find? id =
          some stored ∧ ∀ time, stored.isDue time = true) ∨
        ∃ earlier cause rest, after = earlier ++ cause :: rest ∧
          ((start faults now).run (before ++ event :: earlier)).EndsWait cause id)) := by
  constructor
  · intro before number policy flight id row after under found written moved
    have sound := (sound_start faults now).run before
    have faithful := (faithful_start faults now).run (sound_start faults now) before
    obtain ⟨here, busy, wishes, failure, outcome, stopped, settled, state⟩ :=
      faithful.conclude sound under found written moved
    have current : row.currentSpecId = flight.claimed.currentSpecId := congrArg Prod.fst wishes
    have previous : row.previousSpecId = flight.claimed.previousSpecId := congrArg (·.2.1) wishes
    refine ⟨here, busy, current, previous, congrArg (·.2.2) wishes, ?_⟩
    rw [current, previous, state]
    exact sound.settled under stopped settled
  · intro before event after id record row edits leased found queued
    have sound := (sound_start faults now).run before
    have faithful := (faithful_start faults now).run (sound_start faults now) before
    obtain ⟨number, below, token⟩ := sound.token leased
    rw [run_append, run_cons, run_nil] at found
    simp only [run_append, run_cons]
    rw [token]
    have later := sound.step event
    constructor
    · intro presented outcome stored here same present
      have old := Nat.lt_of_lt_of_le below (System.transition sound.numbered event).tokens_le
      have left := (Left.of_queued (leaseToken number) found queued).run old later after
      obtain ⟨written, final, place⟩ := left.finish here same present outcome
      exact ⟨written, final, congrArg Prod.fst place, congrArg (·.2.1) place,
        congrArg (·.2.2.1) place, congrArg (·.2.2.2) place⟩
    · have waits := faithful.waits_of_edits sound edits leased found queued
      rcases waits.run later after with ⟨stored, present, place, due⟩ | ends
      · refine .inl ⟨stored, present, ?_⟩
        intro time
        simp [Changeset.isDue, place, due]
      · exact .inr ends

end System

-- There is one repository and one campaign, and one user applies spec after spec.
namespace Sample

/-- The instant some seconds after the start of 1970. -/
def instant (seconds : Nat) : Time := (Time.epoch.add? (.ofSeconds seconds)).getD .epoch

def repo : Repo := ⟨⟨1⟩, "github.com/acme/app", .github⟩

def campaignSpec (name : String) : CampaignSpec where
  id := .unsaved
  randId := name
  userId := ⟨1⟩
  space := .user ⟨1⟩
  name := "tidy"
  description := ""
  template := none
  createdAt := instant 0

def push (title message : String) : BranchPush where
  baseRef := "main"
  baseRev := "f00"
  headRef := "tidy"
  title
  body := ""
  commit := ⟨message, "", none, none⟩
  published := .published

def spec (campaignSpec : Int) (title message : String) : ChangesetSpec where
  id := .unsaved
  randId := message
  campaignSpecId := ⟨campaignSpec⟩
  repoId := ⟨1⟩
  userId := ⟨1⟩
  target := .branchPush (push title message)
  diffStat := none
  createdAt := instant 0

def visible : Visibility := fun _ _ => true

/-- All calls of an application in a row. -/
def apply (name : String) : List Event :=
  .apply 0 { randId := name, actor := ⟨⟨1⟩, false⟩ } :: List.replicate 4 (.proceed 0 visible)

/-- A code host that does what it is asked to. -/
def reply : HostReply where
  push := .ok ()
  request := .ok ⟨"101", "tidy", .opened, "", none, instant 0⟩

/-- A claim and the questions of an attempt, all of them answered. -/
def attempt (number questions : Nat) : List Event :=
  .claim "w" (.ofSeconds 60) :: List.replicate questions (.ask number {} reply)

/-- Two generations of the campaign, the first of them applied. -/
def setUp : List Event :=
  [.putRepo repo, .addCampaignSpec (campaignSpec "a"), .addChangesetSpec (spec 1 "a" "a"),
    .addCampaignSpec (campaignSpec "b"), .addChangesetSpec (spec 3 "b" "b")] ++ apply "a"

/-- The number of the only changeset. -/
def changeset : ChangesetId := ⟨6⟩

/-- An attempt up to its write-back. -/
def completing : List Event := setUp ++ attempt 0 5

/-- The second generation is applied, up to its transaction, while an attempt pushes the first. -/
def overtaken : List Event := setUp ++ attempt 0 3 ++ (apply "b").take 4

/-- The attempt goes on. -/
def asking : List Event := List.replicate 2 (.ask 0 {} reply)

end Sample

open Sample in
/-- An attempt that nobody overtakes completes its changeset as it was claimed; one that is
overtaken leaves it queued for the next generation. -/
theorem System.no_stale_completion_no_lost_requeue_overtaken :
    (∃ flight row after, ((start [] (instant 0)).run completing).flights 0 = some flight ∧
      ((start [] (instant 0)).run completing).store.changesets.find? changeset = some row ∧
      (((start [] (instant 0)).run completing).step (.conclude 0 {})).store.changesets.find?
        changeset = some after ∧
      after.queueState = .completed ∧ row.currentSpecId = flight.claimed.currentSpecId) ∧
    ∃ record row written,
      ((start [] (instant 0)).run overtaken).store.leases.find? changeset = some record ∧
      ((start [] (instant 0)).run
        (overtaken ++ .proceed 0 visible :: asking)).store.changesets.find? changeset = some row ∧
      (((start [] (instant 0)).run (overtaken ++ .proceed 0 visible :: asking)).store.finish
        record.lease { row with queueState := .completed }).2.changesets.find? changeset =
          some written ∧
      row.queueState = .queued ∧ written.queueState = .queued := by
  obtain ⟨moves, requeues⟩ := no_stale_completion_no_lost_requeue [] (instant 0)
  constructor
  · obtain ⟨flight, under⟩ : ∃ flight,
        ((start [] (instant 0)).run completing).flights 0 = some flight :=
      Option.isSome_iff_exists.mp (by decide +kernel)
    obtain ⟨row, found, busy⟩ := Option.map_eq_some_iff.mp (show
      (((start [] (instant 0)).run completing).store.changesets.find? changeset).map
        (·.queueState) = some .processing by decide +kernel)
    obtain ⟨after, written, completed⟩ := Option.map_eq_some_iff.mp (show
      ((((start [] (instant 0)).run completing).step (.conclude 0 {})).store.changesets.find?
        changeset).map (·.queueState) = some .completed by decide +kernel)
    have moved : after.queueState ≠ row.queueState := by
      rw [completed, busy]
      decide
    obtain ⟨-, -, current, -⟩ := moves completing 0 {} flight changeset row after under found
      written moved
    exact ⟨flight, row, after, under, found, written, completed, current⟩
  · obtain ⟨record, leased⟩ : ∃ record,
        ((start [] (instant 0)).run overtaken).store.leases.find? changeset = some record :=
      Option.isSome_iff_exists.mp (by decide +kernel)
    obtain ⟨queued, found, place⟩ := Option.map_eq_some_iff.mp (show
      (((start [] (instant 0)).run (overtaken ++ [.proceed 0 visible])).store.changesets.find?
        changeset).map (·.queueState) = some .queued by decide +kernel)
    obtain ⟨row, stored, waits⟩ := Option.map_eq_some_iff.mp (show
      (((start [] (instant 0)).run
        (overtaken ++ .proceed 0 visible :: asking)).store.changesets.find? changeset).map
          (·.queueState) = some .queued by decide +kernel)
    have here : record.lease.changesetId = changeset :=
      (((sound_start [] (instant 0)).run overtaken).numbered.leases leased).1
    obtain ⟨written, final, same, -⟩ := (requeues overtaken (.proceed 0 visible) asking changeset
      record queued rfl leased found place).1 record.lease { row with queueState := .completed } row
      here rfl stored
    exact ⟨record, row, written, leased, stored, final, waits, same.trans waits⟩

end BatchChanges
