import BatchChanges.Proofs.System.Transition

/-! # Tokens and attempts

Every lease on record has a token that was given out, and every attempt under way has the token of
its own number, so that no two attempts ever show the same one. An attempt stays on its course while
the others go on, because specs are never changed or removed.
-/

namespace BatchChanges

/-- Different leases have different tokens. -/
theorem leaseToken_injective {first second : Nat} (same : leaseToken first = leaseToken second) :
    first = second := by
  have digits : Text.Decimal.digits first = Text.Decimal.digits second := by
    simpa [leaseToken] using congrArg String.toList same
  rw [← Text.Decimal.value_digits first, digits, Text.Decimal.value_digits]

namespace Flight

/-- What an attempt runs on may grow. -/
theorem Course.mono {specs larger : Table .changesetSpec ChangesetSpec} {flight : Flight}
    (course : flight.Course specs)
    (grown : ∀ {id spec}, specs.find? id = some spec → larger.find? id = some spec) :
    flight.Course larger := by
  cases course with
  | readingPrevious named => exact .readingPrevious named
  | readingCurrent names named => exact .readingCurrent (names.mono grown) named
  | unplanned => exact .unplanned
  | planned follows between acts =>
    exact .planned ⟨follows.namesPrevious.mono grown, follows.namesCurrent.mono grown,
      follows.planned, follows.operations, follows.push, follows.split, follows.runs⟩ between acts

/-- An attempt has the lease of its number on a changeset of the store. -/
structure Under (system : System) (number : Nat) (flight : Flight) : Prop where
  number_lt : number < system.tokens
  token : flight.attempt.lease.token = leaseToken number
  changesetId : flight.attempt.lease.changesetId = flight.claimed.id
  claimed : flight.claimed.queueState = .processing
  id_le : flight.claimed.id.value ≤ system.store.lastId
  course : flight.Course system.store.changesetSpecs

private theorem Under.mono {system next : System} {number : Nat} {flight : Flight}
    (under : flight.Under system number) (tokens : system.tokens ≤ next.tokens)
    (last : system.store.lastId ≤ next.store.lastId)
    (grown : ∀ {id spec}, system.store.changesetSpecs.find? id = some spec →
      next.store.changesetSpecs.find? id = some spec) : flight.Under next number :=
  ⟨Nat.lt_of_lt_of_le under.number_lt tokens, under.token, under.changesetId, under.claimed,
    Int.le_trans under.id_le last, under.course.mono grown⟩

end Flight

namespace System

/-- What holds of leases and attempts at all times. -/
structure Sound (system : System) : Prop where
  numbered : system.store.Numbered
  token {id : ChangesetId} {record : LeaseRecord}
    (found : system.store.leases.find? id = some record) :
    ∃ number < system.tokens, record.lease.token = leaseToken number
  flight {number : Nat} {flight : Flight} (under : system.flights number = some flight) :
    flight.Under system number

theorem sound_start (faults : List Fault) (now : Time) : (start faults now).Sound where
  numbered := Store.numbered_empty
  token found := by cases found
  flight under := by cases under

variable {system next : System} {event : Event} {question : Question} {answer : question.Answer}
  {now : Time} {settings : Settings} {reply : HostReply}

/-- Answering a question changes at most the expiry of the lease that it is about. -/
theorem store_of_answered {store after : Store}
    (answered : question.Answered store now settings reply after answer) :
    after = store ∨ ∃ lease record expiresAt, question = .renewal lease ∧
      store.leases.find? lease.changesetId = some record ∧ record.lease.token = lease.token ∧
      after = { store with
        leases := store.leases.insert lease.changesetId
          { record with lease := { record.lease with expiresAt } } } := by
  cases question with
  | changesetSpec id => exact .inl answered.1
  | repo id => exact .inl answered.1
  | renewal lease =>
    obtain ⟨error, -, same⟩ | ⟨⟨verdict, renewed⟩, -, answer⟩ := answered
    · exact .inl same
    · obtain ⟨-, -, same⟩ | ⟨record, expiresAt, -, found, token, -, stored⟩ :=
        Store.renew_eq_ok answer
      · exact .inl same
      · exact .inr ⟨lease, record, expiresAt, rfl, found, token, stored⟩
  | push repo branch => exact .inl answered.1
  | request repo asked => exact .inl answered.1
  | pause => exact .inl answered

private theorem reads_of_answered {store after : Store}
    (answered : question.Answered store now settings reply after answer) :
    question.Reads store.changesetSpecs answer := by
  cases question with
  | changesetSpec id => exact answered.2
  | repo id => trivial
  | renewal lease => trivial
  | push repo branch => trivial
  | request repo asked => trivial
  | pause => trivial

/-- An attempt keeps its lease but for the expiry. -/
theorem lease_of_moves {store after : Store} {attempt following : Attempt}
    (moves : attempt.Moves question answer following)
    (answered : question.Answered store now settings reply after answer) :
    following.lease.token = attempt.lease.token ∧
      following.lease.changesetId = attempt.lease.changesetId := by
  cases moves with
  | failed error silent => exact ⟨rfl, rfl⟩
  | readPrevious stage => rw [Attempt.lease_seekCurrent]; exact ⟨rfl, rfl⟩
  | readCurrent stage => rw [Attempt.lease_plan]; exact ⟨rfl, rfl⟩
  | readRepo stage => rw [Attempt.lease_begin]; exact ⟨rfl, rfl⟩
  | renewed stage =>
    rw [Attempt.lease_begin]
    obtain ⟨error, told, -⟩ | ⟨told, same, answer⟩ := answered
    · cases told
    · cases same
      obtain ⟨-, same, -⟩ | ⟨record, expiresAt, -, -, -, same, -⟩ := Store.renew_eq_ok answer
      · rw [same]
        exact ⟨rfl, rfl⟩
      · rw [same]
        exact ⟨rfl, rfl⟩
  | acted stage absorbed => rw [Attempt.lease_proceed]; exact ⟨rfl, rfl⟩

/-- A write-back touches neither specs nor the counter, and no lease but its own. -/
theorem finish_keeps (store : Store) (lease : Lease) (outcome : Changeset) :
    (store.finish lease outcome).2.changesetSpecs = store.changesetSpecs ∧
      (store.finish lease outcome).2.lastId = store.lastId ∧
      ∀ {id record}, (store.finish lease outcome).2.leases.find? id = some record →
        store.leases.find? id = some record := by
  by_cases holds : store.Holds lease
  · obtain ⟨record, found, same⟩ := holds
    rw [Store.finish_of_record found same]
    split <;> exact ⟨rfl, rfl, fun present => (Table.find?_erase_eq_some.mp present).2⟩
  · rw [Store.finish_of_not_holds holds]
    exact ⟨rfl, rfl, fun found => found⟩

private theorem Transition.numbered (numbered : system.store.Numbered)
    (happens : Transition system event next) : next.store.Numbered := by
  cases happens with
  | quiet store tokens flights deliveries => exact store ▸ numbered
  | repoPut repo => exact numbered.putRepo repo
  | campaignSpecAdded spec =>
    exact numbered.skip _ fun found => Int.le_add_one (numbered.campaigns found)
  | changesetSpecAdded spec => exact numbered.addChangesetSpec spec
  | @claimed worker length row expiresAt _ found store tokens flights deliveries =>
    exact store ▸ numbered.claim found worker _ expiresAt
  | asked under asks answered tokens flights deliveries =>
    obtain store | ⟨lease, record, expiresAt, -, found, -, store⟩ := store_of_answered answered
    · exact store ▸ numbered
    · rw [store]
      exact numbered.renew found expiresAt
  | concluded under stopped settled store tokens flights deliveries =>
    exact store ▸ numbered.finish _ _
  | canceled campaign happens store tokens flights deliveries =>
    exact store ▸ numbered.cancelQueued campaign
  | requeued store tokens flights deliveries => exact store ▸ numbered.requeueDue _ _
  | reset store tokens flights deliveries => exact store ▸ numbered.resetExpired _
  | rewired generation under makes transacted tokens flights deliveries =>
    exact transacted.numbered
  | closed transacted tokens flights deliveries => exact transacted.numbered

/-- Numbers are only ever given out. -/
theorem Transition.lastId_le (happens : Transition system event next) :
    system.store.lastId ≤ next.store.lastId := by
  cases happens with
  | quiet store tokens flights deliveries => exact Int.le_of_eq (by rw [store])
  | repoPut repo => exact Int.le_refl _
  | campaignSpecAdded spec => exact Int.le_add_one (Int.le_refl _)
  | changesetSpecAdded spec => exact Int.le_add_one (Int.le_refl _)
  | claimed found store tokens flights deliveries => exact Int.le_of_eq (by rw [store])
  | asked under asks answered tokens flights deliveries =>
    obtain store | ⟨lease, record, expiresAt, -, -, -, store⟩ := store_of_answered answered
    · exact Int.le_of_eq (by rw [store])
    · exact Int.le_of_eq (by rw [store])
  | concluded under stopped settled store tokens flights deliveries =>
    exact Int.le_of_eq (by rw [store, (finish_keeps _ _ _).2.1])
  | canceled campaign happens store tokens flights deliveries =>
    exact Int.le_of_eq (by rw [store]; rfl)
  | requeued store tokens flights deliveries => exact Int.le_of_eq (by rw [store]; rfl)
  | reset store tokens flights deliveries => exact Int.le_of_eq (by rw [store]; rfl)
  | rewired generation under makes transacted tokens flights deliveries =>
    exact transacted.lastId_le
  | closed transacted tokens flights deliveries => exact transacted.lastId_le

/-- Tokens are only ever given out. -/
theorem Transition.tokens_le (happens : Transition system event next) :
    system.tokens ≤ next.tokens := by
  cases happens with
  | quiet store tokens flights deliveries => exact tokens
  | repoPut repo => exact Nat.le_refl _
  | campaignSpecAdded spec => exact Nat.le_refl _
  | changesetSpecAdded spec => exact Nat.le_refl _
  | claimed found store tokens flights deliveries => exact tokens ▸ Nat.le_succ _
  | asked under asks answered tokens flights deliveries => exact Nat.le_of_eq tokens.symm
  | concluded under stopped settled store tokens flights deliveries =>
    exact Nat.le_of_eq tokens.symm
  | canceled campaign happens store tokens flights deliveries => exact Nat.le_of_eq tokens.symm
  | requeued store tokens flights deliveries => exact Nat.le_of_eq tokens.symm
  | reset store tokens flights deliveries => exact Nat.le_of_eq tokens.symm
  | rewired generation under makes transacted tokens flights deliveries =>
    exact Nat.le_of_eq tokens.symm
  | closed transacted tokens flights deliveries => exact Nat.le_of_eq tokens.symm

/-- Specs are stored one by one, and stay. -/
theorem Transition.changesetSpecs (happens : Transition system event next) :
    next.store.changesetSpecs = system.store.changesetSpecs ∨ ∃ spec,
      event = .addChangesetSpec spec ∧ next.store = (system.store.addChangesetSpec spec).2 := by
  cases happens with
  | quiet store tokens flights deliveries => exact .inl (by rw [store])
  | repoPut repo => exact .inl rfl
  | campaignSpecAdded spec => exact .inl rfl
  | changesetSpecAdded spec => exact .inr ⟨spec, rfl, rfl⟩
  | claimed found store tokens flights deliveries => exact .inl (by rw [store])
  | asked under asks answered tokens flights deliveries =>
    obtain store | ⟨lease, record, expiresAt, -, -, -, store⟩ := store_of_answered answered
    · exact .inl (by rw [store])
    · exact .inl (by rw [store])
  | concluded under stopped settled store tokens flights deliveries =>
    exact .inl (by rw [store]; exact (finish_keeps _ _ _).1)
  | canceled campaign happens store tokens flights deliveries => exact .inl (by rw [store]; rfl)
  | requeued store tokens flights deliveries => exact .inl (by rw [store]; rfl)
  | reset store tokens flights deliveries => exact .inl (by rw [store]; rfl)
  | rewired generation under makes transacted tokens flights deliveries =>
    exact .inl transacted.changesetSpecs
  | closed transacted tokens flights deliveries => exact .inl transacted.changesetSpecs

theorem Transition.find?_changesetSpecs (numbered : system.store.Numbered)
    (happens : Transition system event next) {id : ChangesetSpecId} {spec : ChangesetSpec}
    (found : system.store.changesetSpecs.find? id = some spec) :
    next.store.changesetSpecs.find? id = some spec := by
  obtain same | ⟨added, -, store⟩ := happens.changesetSpecs
  · rw [same]
    exact found
  · rw [store]
    exact numbered.find?_addChangesetSpec added found

/-- A lease on record has the token that it had before, or the one that was just given out. -/
theorem Transition.token_eq (happens : Transition system event next) {id : ChangesetId}
    {record : LeaseRecord} (leased : next.store.leases.find? id = some record) :
    (∃ before, system.store.leases.find? id = some before ∧
      record.lease.token = before.lease.token) ∨
      record.lease.token = leaseToken system.tokens ∧ system.tokens < next.tokens := by
  have kept : system.store.leases.find? id = some record →
      (∃ before, system.store.leases.find? id = some before ∧
        record.lease.token = before.lease.token) ∨
        record.lease.token = leaseToken system.tokens ∧ system.tokens < next.tokens :=
    fun found => .inl ⟨record, found, rfl⟩
  cases happens with
  | quiet store tokens flights deliveries => exact kept (store ▸ leased)
  | repoPut repo => exact kept leased
  | campaignSpecAdded spec => exact kept leased
  | changesetSpecAdded spec => exact kept leased
  | claimed found store tokens flights deliveries =>
    rw [store] at leased
    rcases Table.find?_insert_eq_some.mp leased with ⟨rfl, rfl⟩ | ⟨-, leased⟩
    · exact .inr ⟨rfl, tokens ▸ Nat.lt_succ_self _⟩
    · exact kept leased
  | asked under asks answered tokens flights deliveries =>
    obtain store | ⟨lease, held, expiresAt, -, found, -, store⟩ := store_of_answered answered
    · exact kept (store ▸ leased)
    · rw [store] at leased
      rcases Table.find?_insert_eq_some.mp leased with ⟨rfl, rfl⟩ | ⟨-, leased⟩
      · exact .inl ⟨held, found, rfl⟩
      · exact kept leased
  | concluded under stopped settled store tokens flights deliveries =>
    rw [store] at leased
    exact kept ((finish_keeps _ _ _).2.2 leased)
  | canceled campaign happens store tokens flights deliveries =>
    rw [store, Store.leases_cancelQueued] at leased
    exact kept leased
  | requeued store tokens flights deliveries =>
    rw [store, Store.leases_requeueDue] at leased
    exact kept leased
  | reset store tokens flights deliveries =>
    rw [store, Store.find?_leases_resetExpired, Option.filter_eq_some_iff] at leased
    exact kept leased.1
  | rewired generation under makes transacted tokens flights deliveries =>
    exact kept (transacted.leases ▸ leased)
  | closed transacted tokens flights deliveries => exact kept (transacted.leases ▸ leased)

/-- Where an attempt under way comes from: it was there before, it asked a question, or it was just
claimed. -/
inductive Flies (system : System) (event : Event) (next : System) (number : Nat)
    (flight : Flight) : Prop
  | stays (under : system.flights number = some flight)
  | asked {before : Flight} {settings : Settings} {reply : HostReply} {question : Question}
      {answer : question.Answer} {attempt : Attempt}
      (happens : event = .ask number settings reply) (under : system.flights number = some before)
      (asks : ∃ resume, before.attempt.next = .ask question resume)
      (moves : before.attempt.Moves question answer attempt)
      (answered : question.Answered system.store system.now settings reply next.store answer)
      (deliveries : next.deliveries =
        (question.told? answer).toList.map (before.claimed.id, ·) ++ system.deliveries)
      (same : flight = { before with
        attempt, told := (question.told? answer).toList ++ before.told })
  | claimed {worker : String} {length : Duration} {row : Changeset} {expiresAt : Time}
      (happens : event = .claim worker length) (new : number = system.tokens)
      (below : number < next.tokens) (found : system.store.candidate? system.now = some row)
      (begins : flight =
        { claimed := { row with queueState := .processing }
          attempt := .start { row with queueState := .processing }
            ⟨row.id, worker, leaseToken number, expiresAt⟩ })
      (stored : next.store.changesets.find? row.id =
        some { row with queueState := .processing })
      (leased : next.store.leases.find? row.id =
        some ⟨⟨row.id, worker, leaseToken number, expiresAt⟩, row.closing⟩)

/-- Every attempt under way comes from somewhere. -/
theorem Transition.flies {number : Nat} {flight : Flight}
    (happens : Transition system event next) (under : next.flights number = some flight) :
    Flies system event next number flight := by
  cases happens with
  | quiet store tokens flights deliveries => exact .stays (flights under)
  | repoPut repo => exact .stays under
  | campaignSpecAdded spec => exact .stays under
  | changesetSpecAdded spec => exact .stays under
  | @claimed worker length row expiresAt _ found store tokens flights deliveries =>
    rw [flights, Function.update_apply] at under
    split at under
    · next same =>
      cases under
      subst same
      have below : system.tokens < next.tokens := tokens ▸ Nat.lt_succ_self _
      refine .claimed rfl rfl below found rfl ?_ ?_
      · rw [store, Table.find?_insert, if_pos rfl]
      · rw [store, Table.find?_insert, if_pos rfl]
    · exact .stays under
  | @asked asking settings reply before question resume answer _ asked asks answered tokens flights
      deliveries =>
    rw [flights, Function.update_apply] at under
    split at under
    · next same =>
      cases under
      subst same
      exact .asked rfl asked ⟨resume, asks⟩ (Attempt.moves_of_next asks answer) answered deliveries
        rfl
    · exact .stays under
  | concluded ended stopped settled store tokens flights deliveries =>
    rw [flights, Function.update_apply] at under
    split at under
    · cases under
    · exact .stays under
  | canceled campaign happens store tokens flights deliveries => exact .stays (flights ▸ under)
  | requeued store tokens flights deliveries => exact .stays (flights ▸ under)
  | reset store tokens flights deliveries => exact .stays (flights ▸ under)
  | rewired generation applying makes transacted tokens flights deliveries =>
    exact .stays (flights ▸ under)
  | closed transacted tokens flights deliveries => exact .stays (flights ▸ under)

/-- An attempt keeps the changeset that it claimed. -/
theorem Flies.claimed_eq {number : Nat} {flight : Flight}
    (flies : Flies system event next number flight) :
    (∃ before, system.flights number = some before ∧ before.claimed = flight.claimed) ∨
      ∃ (row : Changeset) (expiresAt : Time) (worker : String), number = system.tokens ∧
        flight.claimed = { row with queueState := .processing } ∧
        next.store.changesets.find? row.id = some flight.claimed ∧
        next.store.leases.find? row.id =
          some ⟨⟨row.id, worker, leaseToken number, expiresAt⟩, row.closing⟩ := by
  cases flies with
  | stays under => exact .inl ⟨flight, under, rfl⟩
  | asked happens under asks moves answered deliveries same =>
    exact .inl ⟨_, under, by rw [same]⟩
  | claimed happens new below found begins stored leased =>
    subst begins
    exact .inr ⟨_, _, _, new, rfl, stored, leased⟩

private theorem Flies.under {number : Nat} {flight : Flight} (sound : system.Sound)
    (happens : Transition system event next)
    (flies : Flies system event next number flight) : flight.Under next number := by
  have stays : ∀ {flight : Flight}, system.flights number = some flight →
      flight.Under next number := fun under =>
    (sound.flight under).mono happens.tokens_le happens.lastId_le
      fun found => happens.find?_changesetSpecs sound.numbered found
  cases flies with
  | stays under => exact stays under
  | asked event under asks moves answered deliveries same =>
    subst same
    have here := stays under
    obtain ⟨token, changesetId⟩ := lease_of_moves moves answered
    have course := (sound.flight under).course.moves moves (reads_of_answered answered)
    exact ⟨here.number_lt, token.trans here.token, changesetId.trans here.changesetId,
      here.claimed, here.id_le,
      course.mono fun found => happens.find?_changesetSpecs sound.numbered found⟩
  | claimed event new below found begins stored leased =>
    subst begins
    have kept := (sound.numbered.changesets (sound.numbered.find?_candidate found)).2.2
    exact ⟨below, by rw [Attempt.lease_start], by rw [Attempt.lease_start], rfl,
      Int.le_trans kept happens.lastId_le, Flight.course_start _ _⟩

private theorem Sound.transition (sound : system.Sound) (happens : Transition system event next) :
    next.Sound where
  numbered := happens.numbered sound.numbered
  token found := by
    rcases happens.token_eq found with ⟨before, stored, same⟩ | ⟨new, below⟩
    · obtain ⟨number, below, token⟩ := sound.token stored
      exact ⟨number, Nat.lt_of_lt_of_le below happens.tokens_le, same.trans token⟩
    · exact ⟨system.tokens, below, new⟩
  flight under := (happens.flies under).under sound happens

theorem Sound.step (sound : system.Sound) (event : Event) : (system.step event).Sound :=
  sound.transition (System.transition sound.numbered event)

theorem Sound.run (sound : system.Sound) (events : List Event) : (system.run events).Sound := by
  induction events generalizing system with
  | nil => exact sound
  | cons event rest ih => exact ih (sound.step event)

/-- What every event keeps, every run keeps. -/
theorem Sound.keeps (invariant : System → Prop) (sound : system.Sound) (holds : invariant system)
    (events : List Event)
    (keeps : ∀ {system : System}, system.Sound → ∀ event : Event, invariant system →
      invariant (system.step event)) : invariant (system.run events) := by
  induction events generalizing system with
  | nil => exact holds
  | cons event rest ih => exact ih (sound.step event) (keeps sound event holds)

/-- Specs that are stored stay. -/
theorem Sound.find?_changesetSpecs (sound : system.Sound) (events : List Event)
    {id : ChangesetSpecId} {spec : ChangesetSpec}
    (found : system.store.changesetSpecs.find? id = some spec) :
    (system.run events).store.changesetSpecs.find? id = some spec := by
  induction events generalizing system with
  | nil => exact found
  | cons event rest ih =>
    exact ih (sound.step event)
      ((System.transition sound.numbered event).find?_changesetSpecs sound.numbered found)

theorem Sound.tokens_le (sound : system.Sound) (events : List Event) :
    system.tokens ≤ (system.run events).tokens := by
  induction events generalizing system with
  | nil => exact Nat.le_refl _
  | cons event rest ih =>
    exact Nat.le_trans (System.transition sound.numbered event).tokens_le (ih (sound.step event))

/-- An attempt under way that is no newer than a run was under way when the run began. -/
theorem Sound.under_before (sound : system.Sound) {number : Nat} {flight : Flight}
    (events : List Event) (old : number < system.tokens)
    (under : (system.run events).flights number = some flight) :
    ∃ before, system.flights number = some before ∧ before.claimed = flight.claimed := by
  induction events generalizing system with
  | nil => exact ⟨flight, under, rfl⟩
  | cons event rest ih =>
    have happens := System.transition sound.numbered event
    obtain ⟨middle, flying, same⟩ :=
      ih (sound.step event) (Nat.lt_of_lt_of_le old happens.tokens_le) under
    rcases (happens.flies flying).claimed_eq with ⟨before, stayed, kept⟩ | ⟨_, _, _, new, -⟩
    · exact ⟨before, stayed, kept.trans same⟩
    · exact absurd new (Nat.ne_of_lt old)

end System

end BatchChanges
