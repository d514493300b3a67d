import BatchChanges.Proofs.System.Convergence

/-! # Attempts with one aim

As long as no campaign edits a changeset, every attempt on it is claimed with the same aim. If what
is known of its pull request stays fit for a plan, too, then all that the code host is told about it
comes from attempts that follow this plan, and the changeset is completed only by one of them that
has succeeded.
-/

namespace BatchChanges

namespace Changeset

def aim (row : Changeset) :
    (Option ChangesetSpecId × Option ChangesetSpecId × Bool) × Option CampaignId ×
      IdSet .campaign :=
  (row.wishes, row.ownerId, row.campaignIds)

variable {row moved : Changeset}

theorem closing_of_aim (same : row.aim = moved.aim) : row.closing = moved.closing :=
  congrArg (·.1.2.2) same

theorem currentSpecId_of_aim (same : row.aim = moved.aim) :
    row.currentSpecId = moved.currentSpecId :=
  congrArg (·.1.1) same

theorem previousSpecId_of_aim (same : row.aim = moved.aim) :
    row.previousSpecId = moved.previousSpecId :=
  congrArg (·.1.2.1) same

theorem held_of_aim (same : row.aim = moved.aim) :
    row.isOwnedAndAttached = moved.isOwnedAndAttached := by
  have owner : row.ownerId = moved.ownerId := congrArg (·.2.1) same
  have campaigns : row.campaignIds = moved.campaignIds := congrArg (·.2.2) same
  simp only [isOwnedAndAttached, isAttachedTo, owner, campaigns]

@[simp] theorem aim_released (row : Changeset) : row.released.aim = row.aim := by
  simp only [released]
  split <;> rfl

/-- A write-back fulfils at most a wish to close. -/
theorem aim_withOutcome (wanted : row.closing = false) (outcome : Changeset) (closing : Bool) :
    (row.withOutcome outcome closing).aim = row.aim := by
  simp only [aim, wishes, withOutcome, wanted, ite_self]

end Changeset

/-- An attempt was claimed with an aim and a fit pull request, and is on its course. -/
structure Flight.Pursues (specs : Table .changesetSpec ChangesetSpec) (moved : Changeset)
    (fits : Publication × Option HostState → Prop) (flight : Flight) : Prop where
  course : flight.Course specs
  aim : flight.claimed.aim = moved.aim
  fits : fits flight.claimed.standing

private theorem Flight.Pursues.mono {flight : Flight}
    {specs larger : Table .changesetSpec ChangesetSpec} {moved : Changeset}
    {fits : Publication × Option HostState → Prop} (pursues : flight.Pursues specs moved fits)
    (grown : ∀ {id spec}, specs.find? id = some spec → larger.find? id = some spec) :
    flight.Pursues larger moved fits :=
  ⟨pursues.course.mono grown, pursues.aim, pursues.fits⟩

namespace System

variable {system next : System} {event : Event} {events : List Event} {id : ChangesetId}
  {fits : Publication × Option HostState → Prop} {moved row after : Changeset}
  {sent news : List Effect}

/-- What is known of a changeset and of what the code host was told about it, since it got its
aim. -/
structure Pursuit (fits : Publication × Option HostState → Prop) (moved : Changeset)
    (system : System) (id : ChangesetId) (sent : List Effect) : Prop where
  row : ∃ row, system.store.changesets.find? id = some row ∧ row.aim = moved.aim ∧
    (row.queueState = .completed ∨ fits row.standing)
  flying {number : Nat} {flight : Flight} (under : system.flights number = some flight)
    (here : flight.claimed.id = id) :
    flight.Pursues system.store.changesetSpecs moved fits ∧
      ∀ effect ∈ flight.told, effect ∈ sent
  busy {number : Nat} {flight : Flight} {record : LeaseRecord} {row : Changeset}
    (under : system.flights number = some flight) (here : flight.claimed.id = id)
    (leased : system.store.leases.find? id = some record)
    (token : record.lease.token = leaseToken number)
    (found : system.store.changesets.find? id = some row) : row.queueState = .processing
  source {effect : Effect} (member : effect ∈ sent) :
    ∃ flight : Flight, flight.Pursues system.store.changesetSpecs moved fits ∧ effect ∈ flight.told
  completed {row : Changeset} (found : system.store.changesets.find? id = some row)
    (done : row.queueState = .completed) :
    ∃ flight : Flight, flight.Pursues system.store.changesetSpecs moved fits ∧
      flight.attempt.stage = .settled none ∧ ∀ effect ∈ flight.told, effect ∈ sent

/-- Before any attempt with the aim, nothing was told. -/
theorem Pursuit.start (found : system.store.changesets.find? id = some row)
    (aim : row.aim = moved.aim) (waits : row.queueState ≠ .completed) (fit : fits row.standing)
    (idle : ∀ {number flight}, system.flights number = some flight → flight.claimed.id ≠ id) :
    Pursuit fits moved system id [] where
  row := ⟨row, found, aim, .inr fit⟩
  flying under here := absurd here (idle under)
  busy under here := absurd here (idle under)
  source member := by cases member
  completed present done := by
    rw [found] at present
    cases present
    exact absurd done waits

/-- What an event makes of the row that is pursued, if no campaign edits it: it stays as it is, is
claimed, takes another place in the queue, or is written back. -/
inductive Pursued (system next : System) (id : ChangesetId) (row after : Changeset) : Prop
  | kept (same : after = row)
  | claimed (due : row.isDue system.now = true)
      (same : after = { row with queueState := .processing })
      (flies : ∃ flight, next.flights system.tokens = some flight ∧ flight.claimed = after)
  | placed (idle : row.queueState ≠ .completed)
      (waits : after.queueState = .queued ∨ after.queueState = .errored)
      (aim : after.aim = row.aim) (standing : after.standing = row.standing)
  | concluded {number : Nat} {policy : RetryPolicy} {flight : Flight}
      {failure : Option ReconcileError} {outcome : Changeset} {record : LeaseRecord}
      (under : system.flights number = some flight) (here : flight.claimed.id = id)
      (leased : system.store.leases.find? id = some record)
      (token : record.lease.token = leaseToken number)
      (stopped : flight.attempt.stage = .settled failure)
      (settled : flight.attempt.row.settled? policy failure system.now = some outcome)
      (same : after = row.withOutcome outcome record.closingAtClaim)

theorem Change.pursued {lease lease' : Option LeaseRecord} {later : Option Changeset}
    (change : Change system event next id (some row) lease later lease')
    (leased : system.store.leases.find? id = lease)
    (spares : event.editsCampaign = true → later = some row) :
    ∃ after, later = some after ∧ Pursued system next id row after := by
  cases change with
  | still same => exact ⟨row, rfl, .kept rfl⟩
  | claimed happens due mark flies => exact ⟨_, rfl, .claimed due rfl flies⟩
  | concluded happens under stopped gone settled here token =>
    exact ⟨_, rfl, .concluded under here leased token stopped settled rfl⟩
  | canceled happens waiting =>
    refine ⟨_, rfl, .placed ?_ (.inr rfl) rfl rfl⟩
    intro done
    simp [Changeset.isCancelable, done] at waiting
  | requeued happens due =>
    refine ⟨_, rfl, .placed ?_ (.inl rfl) rfl rfl⟩
    intro done
    simp [Changeset.isRetryDue, done] at due
  | reset happens expired =>
    refine ⟨_, rfl, ?_⟩
    by_cases busy : row.queueState = .processing
    · refine .placed (by simp [busy]) (.inl ?_) (row.aim_released) (row.standing_released)
      simp [Changeset.released, busy]
    · exact .kept (by simp [Changeset.released, busy])
  | rewired generation happens under makes fate =>
    exact ⟨row, spares (by rw [happens]; rfl), .kept rfl⟩
  | closed happens fate => exact ⟨row, spares (by rw [happens]; rfl), .kept rfl⟩

/-- A changeset in processing stays there while its lease stands. -/
theorem Change.busy {held record : LeaseRecord} {later : Option Changeset} {after : Changeset}
    (change : Change system event next id (some row) (some held) later (some record))
    (busy : row.queueState = .processing) (present : later = some after)
    (spares : event.editsCampaign = true → later = some row) :
    after.queueState = .processing := by
  cases change with
  | still same =>
    cases present
    exact busy
  | canceled happens waiting => simp [Changeset.isCancelable, busy] at waiting
  | requeued happens due => simp [Changeset.isRetryDue, busy] at due
  | rewired generation happens under makes fate =>
    cases present.symm.trans (spares (by rw [happens]; rfl))
    exact busy
  | closed happens fate =>
    cases present.symm.trans (spares (by rw [happens]; rfl))
    exact busy

/-- A new attempt on the changeset is claimed with its aim, while the pull request is fit. -/
theorem Pursuit.flies (pursuit : Pursuit fits moved system id sent) (sound : system.Sound)
    (happens : Transition system event next) (soundNext : next.Sound) {number : Nat}
    {flight : Flight} (under : next.flights number = some flight)
    (here : flight.claimed.id = id) :
    flight.Pursues next.store.changesetSpecs moved fits := by
  suffices known : flight.claimed.aim = moved.aim ∧ fits flight.claimed.standing from
    ⟨(soundNext.flight under).course, known.1, known.2⟩
  have stays : ∀ {before : Flight}, system.flights number = some before →
      before.claimed = flight.claimed →
      flight.claimed.aim = moved.aim ∧ fits flight.claimed.standing := by
    intro before flying same
    have pursues := (pursuit.flying flying (same ▸ here)).1
    exact same ▸ ⟨pursues.aim, pursues.fits⟩
  cases happens.flies under with
  | stays flying => exact stays flying rfl
  | asked happened flying asks moves answered deliveries same =>
    exact stays flying (by rw [same])
  | @claimed worker length row expiresAt happened new below found begins stored leased =>
    subst begins here
    obtain ⟨other, present, aim, known⟩ := pursuit.row
    rw [sound.numbered.find?_candidate found] at present
    cases present
    have queued := Changeset.queued_of_isDue (Store.candidate?_eq_some found).2.1
    refine ⟨aim, known.resolve_left ?_⟩
    simp [queued]

/-- The changeset of an attempt under its lease is still in processing after the event. -/
theorem Pursuit.under_lease (pursuit : Pursuit fits moved system id sent) (sound : system.Sound)
    (spares : Spares id system event) {number : Nat} {flight : Flight} {record : LeaseRecord}
    {after : Changeset} (under : (system.step event).flights number = some flight)
    (here : flight.claimed.id = id)
    (leased : (system.step event).store.leases.find? id = some record)
    (token : record.lease.token = leaseToken number)
    (stored : (system.step event).store.changesets.find? id = some after) :
    after.queueState = .processing := by
  have happens := System.transition sound.numbered event
  have change := happens.change sound id
  rw [leased] at change
  obtain ⟨held, leasedBefore, mark⟩ | ⟨-, -, claimed, same, busy, -⟩ := change.record
  · have tokenBefore : held.lease.token = leaseToken number :=
      (congrArg Prod.fst mark).symm.trans token
    obtain ⟨given, below, shown⟩ := sound.token leasedBefore
    obtain ⟨before, flying, same⟩ | ⟨_, _, _, new, -⟩ := (happens.flies under).claimed_eq
    · obtain ⟨row, found, -⟩ := pursuit.row
      have busy := pursuit.busy flying (same ▸ here) leasedBefore tokenBefore found
      rw [found, leasedBefore] at change
      exact change.busy busy stored fun edits => (spares edits).trans found
    · rw [leaseToken_injective (tokenBefore.symm.trans shown)] at new
      exact absurd new (Nat.ne_of_lt below)
  · cases stored.symm.trans same
    exact busy

/-- All attempts on the changeset that have not succeeded know of a fit pull request. -/
def Heeds (system : System) (fits : Publication × Option HostState → Prop) (id : ChangesetId) :
    Prop :=
  ∀ number flight, system.flights number = some flight → flight.claimed.id = id →
    flight.attempt.stage = .settled none ∨ fits flight.attempt.row.standing

/-- An attempt that is written back has succeeded and completes the changeset, or it knows of a fit
pull request. -/
theorem Pursuit.written {number : Nat} {policy : RetryPolicy} {flight : Flight}
    {failure : Option ReconcileError} {outcome : Changeset} {record : LeaseRecord}
    (pursuit : Pursuit fits moved system id sent) (heeds : system.Heeds fits id)
    (found : system.store.changesets.find? id = some row)
    (under : system.flights number = some flight) (here : flight.claimed.id = id)
    (leased : system.store.leases.find? id = some record)
    (token : record.lease.token = leaseToken number)
    (stopped : flight.attempt.stage = .settled failure)
    (settled : flight.attempt.row.settled? policy failure system.now = some outcome)
    (noted : Bool) :
    flight.attempt.stage = .settled none ∧
        (row.withOutcome outcome noted).queueState = .completed ∨
      fits (row.withOutcome outcome noted).standing ∧
        (row.withOutcome outcome noted).queueState ≠ .completed := by
  have busy := pursuit.busy under here leased token found
  rw [Changeset.standing_withOutcome, Changeset.standing_of_settled settled]
  obtain ⟨rfl, rfl⟩ | ⟨error, retryAt, rfl, rfl⟩ := Changeset.settled?_eq_some settled
  · exact .inl ⟨stopped, by simp [Changeset.withOutcome, busy, Changeset.completed]⟩
  · refine .inr ⟨(heeds number flight under here).resolve_left ?_, ?_⟩
    · simp [stopped]
    · simp [Changeset.withOutcome, busy, Changeset.errored]

/-- The row keeps its aim, and its pull request stays fit until an attempt has succeeded. -/
theorem Pursuit.aims (pursuit : Pursuit fits moved system id sent) (heeds : system.Heeds fits id)
    (wanted : moved.closing = false) (found : system.store.changesets.find? id = some row)
    (pursued : Pursued system next id row after) :
    after.aim = moved.aim ∧ (after.queueState = .completed ∨ fits after.standing) := by
  obtain ⟨other, present, aim, known⟩ := pursuit.row
  cases found.symm.trans present
  cases pursued with
  | kept same => exact same ▸ ⟨aim, known⟩
  | claimed due same flies =>
    subst same
    refine ⟨aim, .inr (known.resolve_left ?_)⟩
    simp [Changeset.queued_of_isDue due]
  | placed idle waits same standing =>
    rw [same, standing]
    exact ⟨aim, .inr (known.resolve_left idle)⟩
  | concluded under here leased token stopped settled same =>
    subst same
    rw [Changeset.aim_withOutcome ((Changeset.closing_of_aim aim).trans wanted)]
    refine ⟨aim, ?_⟩
    obtain ⟨-, completed⟩ | ⟨fit, -⟩ :=
      pursuit.written heeds found under here leased token stopped settled _
    · exact .inl completed
    · exact .inr fit

private theorem Pursuit.completes (pursuit : Pursuit fits moved system id sent)
    (heeds : system.Heeds fits id) (found : system.store.changesets.find? id = some row)
    (pursued : Pursued system next id row after) (done : after.queueState = .completed) :
    ∃ flight : Flight, flight.Pursues system.store.changesetSpecs moved fits ∧
      flight.attempt.stage = .settled none ∧ ∀ effect ∈ flight.told, effect ∈ sent := by
  cases pursued with
  | kept same => exact pursuit.completed found (same ▸ done)
  | claimed due same flies =>
    subst same
    cases done
  | placed idle waits same standing => simp [done] at waits
  | concluded under here leased token stopped settled same =>
    subst same
    obtain ⟨succeeded, -⟩ | ⟨-, unfinished⟩ :=
      pursuit.written heeds found under here leased token stopped settled _
    · obtain ⟨pursues, said⟩ := pursuit.flying under here
      exact ⟨_, pursues, succeeded, said⟩
    · exact absurd done unfinished

/-- What is known goes on to be known, if the event is no edit of the changeset and all attempts
that have not succeeded know of a fit pull request. -/
theorem Pursuit.step (pursuit : Pursuit fits moved system id sent) (sound : system.Sound)
    (wanted : moved.closing = false) (spares : Spares id system event)
    (heeds : system.Heeds fits id) :
    ∃ news, Pursuit fits moved (system.step event) id (news ++ sent) ∧
      (system.step event).effects id = news ++ system.effects id := by
  have happens := System.transition sound.numbered event
  have soundNext := sound.step event
  have grown : ∀ {id spec}, system.store.changesetSpecs.find? id = some spec →
      (system.step event).store.changesetSpecs.find? id = some spec :=
    fun found => happens.find?_changesetSpecs sound.numbered found
  obtain ⟨news, new⟩ := happens.news id
  obtain ⟨row, found, -⟩ := pursuit.row
  have change := happens.change sound id
  have kept : event.editsCampaign = true →
      (system.step event).store.changesets.find? id = some row :=
    fun edits => (spares edits).trans found
  rw [found] at change
  obtain ⟨after, stored, pursued⟩ := change.pursued rfl kept
  have flying : ∀ {number flight}, (system.step event).flights number = some flight →
      flight.claimed.id = id →
      flight.Pursues (system.step event).store.changesetSpecs moved fits ∧
        ∀ effect ∈ flight.told, effect ∈ news ++ sent := by
    intro number flight under here
    refine ⟨pursuit.flies sound happens soundNext under here, ?_⟩
    intro effect member
    rcases new.known under here member with recent | ⟨before, underBefore, same, said⟩
    · exact List.mem_append_left _ recent
    · exact List.mem_append_right _ ((pursuit.flying underBefore same).2 effect said)
  refine ⟨news, ⟨⟨after, stored, pursuit.aims heeds wanted found pursued⟩, flying, ?_, ?_, ?_⟩,
    new.effects⟩
  · exact fun under here leased token => pursuit.under_lease sound spares under here leased token
  · intro effect member
    rcases List.mem_append.mp member with recent | earlier
    · obtain ⟨number, flight, under, here, said⟩ := new.told recent
      exact ⟨flight, (flying under here).1, said⟩
    · obtain ⟨flight, pursues, said⟩ := pursuit.source earlier
      exact ⟨flight, pursues.mono grown, said⟩
  · intro other present done
    cases stored.symm.trans present
    obtain ⟨flight, pursues, stopped, said⟩ := pursuit.completes heeds found pursued done
    exact ⟨flight, pursues.mono grown, stopped, fun effect member =>
      List.mem_append_right _ (said effect member)⟩

/-- So it is along a run without edits of the changeset. -/
theorem Pursuit.run (pursuit : Pursuit fits moved system id sent) (sound : system.Sound)
    (wanted : moved.closing = false) (spared : system.Along (Spares id) events)
    (heeds : ∀ {earlier later number flight}, events = earlier ++ later →
      (system.run earlier).flights number = some flight →
      flight.Pursues (system.run earlier).store.changesetSpecs moved fits →
      flight.claimed.id = id →
      flight.attempt.stage = .settled none ∨ fits flight.attempt.row.standing) :
    ∃ news, Pursuit fits moved (system.run events) id (news ++ sent) ∧
      (system.run events).effects id = news ++ system.effects id := by
  induction events generalizing system sent with
  | nil => exact ⟨[], pursuit, rfl⟩
  | cons event rest ih =>
    obtain ⟨news, next, effects⟩ := pursuit.step sound wanted spared.1 fun number flight under here =>
      heeds (List.nil_append _).symm under (pursuit.flying under here).1 here
    have others : ∀ {earlier later : List Event}, rest = earlier ++ later →
        event :: rest = (event :: earlier) ++ later := by
      rintro earlier later rfl
      rfl
    obtain ⟨later, final, told⟩ := ih next (sound.step event) spared.2 fun split =>
      heeds (others split)
    refine ⟨later ++ news, ?_, ?_⟩
    · rw [List.append_assoc]
      exact final
    · rw [run_cons, told, effects, List.append_assoc]

end System

end BatchChanges
