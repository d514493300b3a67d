import BatchChanges.Proofs.Reconcile.Account
import BatchChanges.Proofs.Store.Reachable
import BatchChanges.Proofs.System.Attended
import Mathlib.Data.List.Perm.Subperm

/-! # Draining the queue

A worker that makes one attempt after the other takes, each time, the foremost of the changesets
that wait at that moment. The attempt takes it out of the queue and touches no other changeset, so
that no changeset is attempted twice and the worker comes to rest after as many attempts as there
were queued changesets at most. Time passes in the meantime, and changesets that have become due
have waited like the others: when the worker rests, none waits any more.
-/

namespace BatchChanges

variable {σ : Type}

namespace Store

variable {store : Store} {now later : Time} {row : Changeset}

/-- A changeset waits to be attempted: it is queued, under no lease, and due. -/
structure Waits (store : Store) (now : Time) (row : Changeset) : Prop where
  stored : store.changesets.find? row.id = some row
  queued : row.queueState = .queued
  free : store.leases.find? row.id = none
  due : ∀ time, row.processAfter = some time → time ≤ now

/-- Of those that wait, it has been unchanged for longest, and of these it has the smallest number.
-/
structure Foremost (store : Store) (now : Time) (row : Changeset) : Prop
    extends store.Waits now row where
  first : ∀ other, store.Waits now other →
    row.updatedAt < other.updatedAt ∨ row.updatedAt = other.updatedAt ∧ row.id ≤ other.id

private theorem Waits.candidate (waits : store.Waits now row) :
    ∃ first, store.candidate? now = some first ∧
      (first = row ∨ first.isServedBefore row = true) := by
  refine exists_candidate waits.stored rfl ?_ waits.free
  simpa [Changeset.isDue, waits.queued, Option.all_eq_true] using waits.due

private theorem Numbered.foremost (numbered : store.Numbered)
    (found : store.candidate? now = some row) : store.Foremost now row := by
  obtain ⟨-, due, free⟩ := candidate?_eq_some found
  simp only [Changeset.isDue, Bool.and_eq_true, beq_iff_eq, Option.all_eq_true,
    decide_eq_true_eq] at due
  refine ⟨⟨numbered.find?_candidate found, due.1, free, due.2⟩, ?_⟩
  intro other waits
  obtain ⟨first, same, serves⟩ := waits.candidate
  cases found.symm.trans same
  rcases serves with rfl | serves
  · exact .inr ⟨rfl, Int.le_refl _⟩
  · exact Changeset.isServedBefore_iff.mp serves

private theorem not_waits (none : store.candidate? now = none) (row : Changeset) :
    ¬ store.Waits now row := by
  intro waits
  obtain ⟨first, some, -⟩ := waits.candidate
  cases none.symm.trans some

/-- A claim goes without a changeset only if there is no candidate. -/
theorem candidate?_of_leaseNext {next : Store} {worker token : String} {length : Duration}
    (claimed : store.leaseNext worker token now length = .ok (none, next)) :
    store.candidate? now = none := by
  simp only [leaseNext] at claimed
  split at claimed
  · assumption
  · cases reached : expiry now length <;>
      simp [reached, bind, Except.bind, pure, Except.pure] at claimed

/-- A claim of some length fails only at the end of the calendar. -/
theorem interrupt_of_leaseNext {worker token : String} {length : Duration}
    {interrupt : Interrupt StoreError} (spans : length.isSpan = true)
    (failed : store.leaseNext worker token now length = .error interrupt) :
    interrupt = .overflow := by
  simp only [leaseNext] at failed
  split at failed
  · cases failed
  · simp only [expiry, spans, if_true] at failed
    split at failed
    · cases failed
    · cases failed
      rfl

end Store

/-- A code host that only answers: nothing changes but its own state. -/
structure Host.Answers (host : Host σ) : Prop where
  push {repo : Repo} {branch : BranchPush} {world next : World σ}
    {result : Except (Interrupt HostError) Unit}
    (ended : (host.push repo branch).Ends world result next) :
    next = { world with host := next.host }
  request {repo : Repo} {asked : HostRequest} {world next : World σ}
    {result : Except (Interrupt HostError) PullRequest}
    (ended : (host.request repo asked).Ends world result next) :
    next = { world with host := next.host }

private theorem Host.Answers.discreet {host : Host σ} (answers : host.Answers) : host.Discreet where
  push ended := by rw [answers.push ended]
  request ended := by rw [answers.request ended]

private theorem HostReply.answers (reply : HostReply) : reply.host.Answers where
  push ended := by
    cases ended
    rfl
  request ended := by
    cases ended
    rfl

/-- Nothing in the store has changed but one changeset and the lease on it, failures ahead were used
up, and time has passed. -/
structure World.KeepsTo (id : ChangesetId) (before after : World σ) : Prop where
  tables : after.backend.store = { before.backend.store with
    changesets := after.backend.store.changesets, leases := after.backend.store.leases }
  others {other : ChangesetId} (apart : other ≠ id) :
    after.backend.store.changesets.find? other = before.backend.store.changesets.find? other ∧
      after.backend.store.leases.find? other = before.backend.store.leases.find? other
  faultless : before.backend.faults = [] → after.backend.faults = []
  clock : before.clock.now ≤ after.clock.now

/-- An activity on a store without failures ahead brings none about. -/
theorem Access.Spends.faultless {ε α : Type} {activity : Access ε α} (spends : Spends activity)
    {backend next : Backend} {result : Except ε α} (ended : Ends activity backend result next)
    (none : backend.faults = []) : next.faults = [] := by
  have tells : backend.Tells fun _ => False := by
    intro fault member
    rw [none] at member
    cases member
  exact List.eq_nil_iff_forall_not_mem.mpr (spends ended tells)

namespace World.KeepsTo

variable {id : ChangesetId} {before middle after world next : World σ}

private theorem of_store (same : next.backend.store = world.backend.store)
    (faultless : world.backend.faults = [] → next.backend.faults = [])
    (clock : world.clock.now ≤ next.clock.now) : KeepsTo id world next :=
  ⟨by rw [same], fun _ => by rw [same]; exact ⟨rfl, rfl⟩, faultless, clock⟩

private theorem refl (id : ChangesetId) (world : World σ) : KeepsTo id world world :=
  of_store rfl (fun none => none) (Time.le_refl _)

private theorem trans (first : KeepsTo id before middle) (second : KeepsTo id middle after) :
    KeepsTo id before after where
  tables := by rw [second.tables, first.tables]
  others apart :=
    ⟨(second.others apart).1.trans (first.others apart).1,
      (second.others apart).2.trans (first.others apart).2⟩
  faultless none := second.faultless (first.faultless none)
  clock := Time.le_trans first.clock second.clock

private theorem of_since (id : ChangesetId) (since : world.Since next) : KeepsTo id world next := by
  refine of_store since.store (fun none => ?_) ?_
  · refine List.eq_nil_iff_forall_not_mem.mpr fun fault member => ?_
    obtain ⟨before, present, -⟩ := since.ahead ⟨fault, member, rfl, rfl⟩
    rw [none] at present
    cases present
  · rw [since.same]
    exact Time.le_refl _

private theorem of_answers {host : σ} (id : ChangesetId) (same : next = { world with host }) :
    KeepsTo id world next := by
  subst same
  exact of_store rfl (fun none => none) (Time.le_refl _)

variable {host : Host σ} {settings : Settings} {repo : Repo} {push : Option BranchPush}
  {claimed row : Changeset} {lease renewed last : Lease} {duty : Duty} {log : List Deed}

/-- A claim puts the changeset into processing and notes the lease. -/
theorem of_claim {worker : String} {time : Time} {length : Duration}
    (claims : (Action.claim worker time length).Ends world (.ok (some (claimed, lease))) next) :
    KeepsTo claimed.id world next := by
  obtain ⟨backend, called, rfl⟩ := Action.ends_claim.mp claims
  have faultless := (Access.spends_callWith _ _ _).faultless called
  obtain ⟨none, -⟩ | ⟨row, expiresAt, -, granted, stored⟩ :=
    Store.leaseNext_eq_ok (Access.callWith_ok called)
  · cases none
  · cases granted
    refine ⟨by rw [stored], fun apart => ?_, faultless, Time.le_refl _⟩
    rw [stored, Table.find?_insert, Table.find?_insert, if_neg (Ne.symm apart),
      if_neg (Ne.symm apart)]
    exact ⟨rfl, rfl⟩

private theorem of_renew {length : Duration}
    {result : Except (Interrupt StoreError) (Verdict × Lease)}
    (asked : Action.Ends (Action.timedAccess (Access.renew lease world.clock.now length)) world
      result next) : KeepsTo lease.changesetId world next := by
  obtain ⟨backend, called, rfl⟩ := Action.ends_timedAccess.mp asked
  have faultless := (Access.spends_callWith _ _ _).faultless called
  cases result with
  | error interrupt => exact of_store (Access.callWith_error called) faultless (Time.le_refl _)
  | ok told =>
    obtain ⟨-, -, kept⟩ | ⟨record, expiresAt, -, -, -, -, stored⟩ :=
      Store.renew_eq_ok (Access.callWith_ok called)
    · exact of_store kept faultless (Time.le_refl _)
    · refine ⟨by rw [stored], fun apart => ?_, faultless, Time.le_refl _⟩
      rw [stored, Table.find?_insert, if_neg (Ne.symm apart)]
      exact ⟨rfl, rfl⟩

private theorem of_sleep {ε : Type} {duration : Duration} {result : Except (Interrupt ε) Unit}
    (id : ChangesetId)
    (waited : Action.Ends (Action.sleep duration : Action σ ε Unit) world result next) :
    KeepsTo id world next := by
  have slept := (Action.sleep_eq world duration).symm.trans waited
  split at slept
  · next clock moved =>
    cases slept
    obtain ⟨now, added, rfl⟩ := Option.map_eq_some_iff.mp moved
    exact of_store rfl (fun none => none) (Time.le_of_add? added)
  · cases slept
    exact of_store rfl (fun none => none) (Time.le_refl _)

private theorem of_ends (answers : host.Answers) {result : Except ReconcileError Reply}
    (done : duty.Ends host settings repo push row lease world result renewed next) :
    KeepsTo lease.changesetId world next := by
  cases done with
  | renewed asked => exact of_renew asked
  | lost asked refused => exact of_renew asked
  | failed asked => exact of_renew asked
  | run ended =>
    cases ended with
    | unfit misses => exact refl _ world
    | idle rests => exact refl _ world
    | pushed acts asked => exact of_answers _ (answers.push asked)
    | unpushed acts asked => exact of_answers _ (answers.push asked)
    | told acts asked => exact of_answers _ (answers.request asked)
    | refused acts asked => exact of_answers _ (answers.request asked)
    | slept acts waited => exact of_sleep _ waited

private theorem of_log (answers : host.Answers) (awaits : world.backend.store.Awaits claimed lease)
    (happened : Log host settings repo push row lease world log last next) :
    KeepsTo claimed.id world next := by
  induction happened with
  | nothing => exact refl _ _
  | entry done rest ih =>
    have first := of_ends answers done
    rw [awaits.here] at first
    exact first.trans (ih (awaits.ends answers.discreet done))

private theorem of_attempted {planned : List Operation} {failure : Option ReconcileError}
    (answers : host.Answers) (awaits : world.backend.store.Awaits claimed lease)
    (attempted : Attempted host settings claimed lease world planned log failure last next) :
    KeepsTo claimed.id world next := by
  cases attempted with
  | unplanned cause since => exact of_since _ since
  | idle plans nothing since => exact of_since _ since
  | homeless plans some cause since => exact of_since _ since
  | carried plans located since carried =>
    exact (of_since _ since).trans
      (of_log answers (since.store.symm ▸ awaits) carried.happened)

private theorem of_finished {outcome : Changeset}
    (finished : after.backend.store = { before.backend.store with
      changesets := before.backend.store.changesets.insert id outcome
      leases := before.backend.store.leases.erase id })
    (faultless : after.backend.faults = []) (clock : after.clock = before.clock) :
    KeepsTo id before after := by
  refine ⟨by rw [finished], fun apart => ?_, fun _ => faultless, clock ▸ Time.le_refl _⟩
  rw [finished, Table.find?_insert, Table.find?_erase, if_neg (Ne.symm apart),
    if_neg (Ne.symm apart)]
  exact ⟨rfl, rfl⟩

/-- Numbers stay in order if the changeset keeps its number and the lease is gone. -/
theorem numbered (keeps : KeepsTo id before after) (numbered : before.backend.store.Numbered)
    (stored : before.backend.store.changesets.find? id = some row)
    (named : ∀ outcome, after.backend.store.changesets.find? id = some outcome → outcome.id = id)
    (free : after.backend.store.leases.find? id = none) : after.backend.store.Numbered := by
  refine numbered.congr ?_ ?_ (by rw [keeps.tables]) (by rw [keeps.tables]) (by rw [keeps.tables])
  · intro other outcome found
    by_cases same : other = id
    · subst same
      exact ⟨named outcome found, row, stored⟩
    · rw [(keeps.others same).1] at found
      exact ⟨(numbered.changesets found).1, outcome, found⟩
  · intro other record found
    by_cases same : other = id
    · subst same
      cases free.symm.trans found
    · rw [(keeps.others same).2] at found
      exact .inr ⟨record, found, rfl⟩

end World.KeepsTo

/-- Everything in the store is under its number, and no failure of the store is ahead. -/
structure World.Steady (world : World σ) : Prop where
  numbered : world.backend.store.Numbered
  faultless : world.backend.faults = []

/-- A changeset was attempted and is not queued any more; the others are as before. -/
structure World.Served (before : World σ) (id : ChangesetId) (after : World σ) : Prop
    extends World.KeepsTo id before after where
  steady : after.Steady
  settled : ∃ outcome, after.backend.store.changesets.find? id = some outcome ∧
    outcome.queueState ≠ .queued

private theorem Changeset.settled?_not_queued {row outcome : Changeset} {policy : RetryPolicy}
    {failure : Option ReconcileError} {now : Time}
    (settled : row.settled? policy failure now = some outcome) : outcome.queueState ≠ .queued := by
  obtain ⟨-, rfl⟩ | ⟨error, retryAt, -, rfl⟩ := settled?_eq_some settled <;> nofun

namespace Reconcile

variable {host : Host σ} {settings : Settings} {worker : String} {claimed : Changeset}
  {lease : Lease} {world begun ended after : World σ}
  {result : Except (Interrupt ReconcileError) (Option AttemptReport)}

/-- A conclusion changes nothing but the backend, and brings no failures about. -/
theorem keeps_conclude {policy : RetryPolicy} {attempt : Attempt} {failure : Option ReconcileError}
    {report : Except (Interrupt ReconcileError) AttemptReport}
    (faultless : world.backend.faults = [])
    (runs : (conclude policy attempt failure).Ends world report after) :
    after.clock = world.clock ∧ after.backend.faults = [] := by
  have same := (congrArg Prod.snd runs).symm.trans (conclude_world policy attempt failure world)
  simp only at same
  split at same
  · rw [same]
    exact ⟨rfl, faultless⟩
  · rw [same]
    exact ⟨rfl, (Access.spends_call _ _).faultless (Access.ends_self _ _) faultless⟩

/-- The outcome of an attempt that nobody has disturbed takes the place of the claimed changeset. -/
theorem served_of_conclude {attempt : Attempt} {log : List Deed} {failure : Option ReconcileError}
    {policy : RetryPolicy} {report : AttemptReport} (steady : world.Steady)
    (stored : ∃ row, world.backend.store.changesets.find? claimed.id = some row)
    (keeps : World.KeepsTo claimed.id world ended)
    (awaits : ended.backend.store.Awaits claimed attempt.lease)
    (known : attempt.row = log.foldl Deed.record claimed)
    (concluded : (conclude policy attempt failure).Ends ended (.ok report) after) :
    report.changesetId = claimed.id ∧ world.Served claimed.id after := by
  have faultless := keeps.faultless steady.faultless
  obtain ⟨outcome, settled, -, ⟨detail, -, told, -⟩ | ⟨verdict, wrote, told⟩⟩ :=
    ends_conclude concluded (by simp)
  · cases told
  · cases told
    rw [known] at settled
    have retains := (Changeset.recorded_of_settled settled).retains
    have here : outcome.id = claimed.id := congrArg Prod.fst retains.identity
    have finished := (awaits.finished retains wrote).2
    obtain ⟨clock, faults⟩ := keeps_conclude faultless concluded
    have whole := keeps.trans (.of_finished finished faults clock)
    have written : after.backend.store.changesets.find? claimed.id = some outcome := by
      rw [finished, Table.find?_insert, if_pos rfl]
    have free : after.backend.store.leases.find? claimed.id = none := by
      rw [finished, Table.find?_erase, if_pos rfl]
    obtain ⟨row, before⟩ := stored
    have numbered : after.backend.store.Numbered := by
      refine whole.numbered steady.numbered before (fun other found => ?_) free
      cases written.symm.trans found
      exact here
    exact ⟨here, whole, ⟨numbered, faults⟩, outcome, written,
      Changeset.settled?_not_queued settled⟩

/-- Whoever has claimed a changeset attempts it and writes the outcome back. -/
theorem served_of_claim (answers : host.Answers) (steady : world.Steady)
    (claims : (Action.claim worker world.clock.now settings.leaseDuration).Ends world
      (.ok (some (claimed, lease))) begun)
    (stored : ∃ row, world.backend.store.changesets.find? claimed.id = some row)
    (goes : Action.Ends (do
      let told ← run host settings (.start claimed lease)
      let report ← conclude settings.retry told.1 told.2
      return some report) begun result after)
    (timely : result ≠ .error .overflow) :
    ∃ report, result = .ok (some report) ∧ report.changesetId = claimed.id ∧
      world.Served claimed.id after := by
  obtain ⟨told, ended, ran, concludes⟩ | ⟨interrupt, rfl, failed⟩ := Action.ends_bind.mp goes
  · obtain ⟨log, failure, attempt, same, attempted, known⟩ := attempts_of_start ran (by simp)
    cases same
    have awaits := attempted.awaits answers.discreet (.of_claim claims)
    have keeps := (World.KeepsTo.of_claim claims).trans (.of_attempted answers (.of_claim claims)
      attempted)
    obtain ⟨report, final, concluded, tells⟩ | ⟨interrupt, rfl, struck⟩ :=
      Action.ends_bind.mp concludes
    · obtain ⟨rfl, rfl⟩ := Action.ends_pure.mp tells
      exact ⟨report, rfl, served_of_conclude steady stored keeps awaits known concluded⟩
    · -- Only a failure ahead of the store could keep the outcome from being written.
      obtain ⟨outcome, -, -, ⟨detail, ⟨fault, member, -⟩, -⟩ | ⟨verdict, -, told⟩⟩ :=
        ends_conclude struck fun same => timely (by rw [Except.error.inj same])
      · rw [keeps.faultless steady.faultless] at member
        cases member
      · cases told
  · obtain ⟨log, failure, attempt, same, -⟩ := attempts_of_start failed
      fun same => timely (by rw [Except.error.inj same])
    cases same

/-- A worker attempts the foremost changeset that waits, or rests if none waits. -/
theorem served_of_next (answers : host.Answers) (spans : settings.leaseDuration.isSpan = true)
    (steady : world.Steady) (runs : (next host settings worker).Ends world result after)
    (timely : result ≠ .error .overflow) :
    (result = .ok none ∧ after.backend.store = world.backend.store ∧ after.clock = world.clock ∧
        ∀ row, ¬ world.backend.store.Waits world.clock.now row) ∨
      ∃ row report, result = .ok (some report) ∧ report.changesetId = row.id ∧
        world.backend.store.Foremost world.clock.now row ∧ world.Served row.id after := by
  simp only [next] at runs
  rw [Action.Ends, Action.now_bind] at runs
  obtain ⟨claim, begun, claims, goes⟩ | ⟨interrupt, rfl, failed⟩ := Action.ends_bind.mp runs
  · have claimed := Action.ends_wrapping_ok.mp claims
    obtain ⟨backend, called, rfl⟩ := Action.ends_claim.mp claimed
    have reached := Access.callWith_ok called
    rcases claim with _ | ⟨row, lease⟩
    · obtain ⟨-, same⟩ | ⟨row, expiresAt, -, some, -⟩ := Store.leaseNext_eq_ok reached
      · obtain ⟨rfl, rfl⟩ := Action.ends_pure.mp goes
        exact .inl ⟨rfl, same, rfl, Store.not_waits (Store.candidate?_of_leaseNext reached)⟩
      · cases some
    · obtain ⟨none, -⟩ | ⟨row, expiresAt, found, granted, -⟩ := Store.leaseNext_eq_ok reached
      · cases none
      · cases granted
        dsimp only at goes
        have foremost := steady.numbered.foremost found
        obtain ⟨report, told, about, served⟩ :=
          served_of_claim answers steady claimed ⟨row, foremost.stored⟩ goes timely
        exact .inr ⟨row, report, told, about, foremost, served⟩
  · obtain ⟨cause, rfl, refuses⟩ := Action.ends_wrapping_error.mp failed
    obtain ⟨backend, called, -⟩ := Action.ends_claim.mp refuses
    obtain ⟨detail, strikes, -⟩ | refused := Access.callWith_struck called
    · rw [steady.faultless] at strikes
      cases strikes
    · cases Store.interrupt_of_leaseNext spans refused
      exact absurd rfl timely

end Reconcile

/-- Some changesets were queued and are not any more, each by an attempt of its own; the others are
as before. -/
structure World.Drained (before : World σ) (ids : List ChangesetId) (after : World σ) : Prop where
  steady : after.Steady
  clock : before.clock.now ≤ after.clock.now
  others {id : ChangesetId} (apart : id ∉ ids) :
    after.backend.store.changesets.find? id = before.backend.store.changesets.find? id ∧
      after.backend.store.leases.find? id = before.backend.store.leases.find? id
  settled {id : ChangesetId} (member : id ∈ ids) :
    ∃ outcome, after.backend.store.changesets.find? id = some outcome ∧
      outcome.queueState ≠ .queued
  queued {id : ChangesetId} (member : id ∈ ids) :
    ∃ row, before.backend.store.changesets.find? id = some row ∧ row.queueState = .queued
  distinct : ids.Nodup

namespace World

variable {before middle after : World σ} {row : Changeset} {ids : List ChangesetId}

private theorem Drained.nothing (steady : before.Steady) : before.Drained [] before where
  steady
  clock := Time.le_refl _
  others _ := ⟨rfl, rfl⟩
  settled := nofun
  queued := nofun
  distinct := .nil

/-- An attempt comes first. Its changeset has left the queue, so that it is none of the later ones.
-/
theorem Drained.cons (waits : before.backend.store.Waits before.clock.now row)
    (served : before.Served row.id middle) (later : middle.Drained ids after) :
    before.Drained (row.id :: ids) after := by
  obtain ⟨outcome, written, settles⟩ := served.settled
  -- What is attempted later is queued after this attempt, and its own changeset is not.
  have fresh : row.id ∉ ids := by
    intro member
    obtain ⟨again, found, queued⟩ := later.queued member
    cases written.symm.trans found
    exact settles queued
  exact {
    steady := later.steady
    clock := Time.le_trans served.clock later.clock
    others := by
      intro id apart
      rw [List.mem_cons, not_or] at apart
      have first := served.others apart.1
      have rest := later.others apart.2
      exact ⟨rest.1.trans first.1, rest.2.trans first.2⟩
    settled := by
      intro id member
      rcases List.mem_cons.mp member with rfl | member
      · exact ⟨outcome, (later.others fresh).1.trans written, settles⟩
      · exact later.settled member
    queued := by
      intro id member
      rcases List.mem_cons.mp member with rfl | member
      · exact ⟨row, waits.stored, waits.queued⟩
      · obtain ⟨other, found, queued⟩ := later.queued member
        have apart : id ≠ row.id := fun same => fresh (same ▸ member)
        exact ⟨other, (served.others apart).1.symm.trans found, queued⟩
    distinct := List.nodup_cons.mpr ⟨fresh, later.distinct⟩ }

private theorem Drained.length_le (drained : before.Drained ids after)
    (numbered : before.backend.store.Numbered) :
    ids.length ≤ before.backend.store.count (·.queueState == .queued) := by
  have within : ids ⊆ ((before.backend.store.changesets.rows.filter
      (·.queueState == .queued)).map (·.id)) := by
    intro id member
    obtain ⟨row, found, queued⟩ := drained.queued member
    refine List.mem_map.mpr ⟨row, List.mem_filter.mpr ⟨?_, ?_⟩, (numbered.changesets found).1⟩
    · exact Table.mem_rows_iff.mpr ⟨id, found⟩
    · simp [queued]
  simpa [Store.count] using (List.Nodup.subperm drained.distinct within).length_le

end World

namespace Reconcile

/-- Attempts that are made one after the other, each of the changeset that is foremost then. -/
inductive Serves (host : Host σ) (settings : Settings) (worker : String) :
    World σ → List (Changeset × AttemptReport) → World σ → Prop
  | nothing {world : World σ} : Serves host settings worker world [] world
  | attempt {world middle ended : World σ} {row : Changeset} {report : AttemptReport}
      {later : List (Changeset × AttemptReport)}
      (foremost : world.backend.store.Foremost world.clock.now row)
      (made : (next host settings worker).Ends world (.ok (some report)) middle)
      (about : report.changesetId = row.id)
      (rest : Serves host settings worker middle later ended) :
      Serves host settings worker world ((row, report) :: later) ended

variable {host : Host σ} {settings : Settings} {worker : String} {world ended : World σ}
  {served : List (Changeset × AttemptReport)}

private theorem Serves.drained (serves : Serves host settings worker world served ended)
    (answers : host.Answers) (spans : settings.leaseDuration.isSpan = true)
    (steady : world.Steady) : world.Drained (served.map (·.1.id)) ended := by
  induction serves with
  | nothing => exact .nothing steady
  | attempt foremost made about rest ih =>
    obtain ⟨none, -⟩ | ⟨row, report, told, same, -, served⟩ :=
      served_of_next answers spans steady made (by simp)
    · cases none
    · cases told
      rw [← same, about] at served
      exact .cons foremost.toWaits served (ih served.steady)

private theorem Serves.mem_of_waits {row : Changeset}
    (serves : Serves host settings worker world served ended) (answers : host.Answers)
    (spans : settings.leaseDuration.isSpan = true) (steady : world.Steady)
    (waits : world.backend.store.Waits world.clock.now row)
    (none : ¬ ended.backend.store.Waits ended.clock.now row) :
    ∃ report, (row, report) ∈ served := by
  induction serves with
  | nothing => exact absurd waits none
  | @attempt world middle ended first report later foremost made about rest ih =>
    obtain ⟨rested, -⟩ | ⟨other, _, told, same, -, served⟩ :=
      served_of_next answers spans steady made (by simp)
    · cases rested
    · cases told
      rw [← same, about] at served
      by_cases here : row.id = first.id
      · -- It is the one that is attempted now.
        have stored := waits.stored
        rw [here] at stored
        cases foremost.stored.symm.trans stored
        exact ⟨report, List.mem_cons_self⟩
      · -- It goes on waiting: nobody touches it, and it stays due as time passes.
        obtain ⟨kept, free⟩ := served.others here
        have waitsLater : middle.backend.store.Waits middle.clock.now row :=
          ⟨kept.trans waits.stored, waits.queued, free.trans waits.free,
            fun time retry => Time.le_trans (waits.due time retry) served.clock⟩
        obtain ⟨report, member⟩ := ih served.steady waitsLater none
        exact ⟨report, List.mem_cons_of_mem _ member⟩

/-- Draining makes attempts until a worker rests, or as many as it may. -/
theorem serves_of_drain {limit : Nat}
    {result : Except (Interrupt ReconcileError) (List AttemptReport)}
    (answers : host.Answers) (spans : settings.leaseDuration.isSpan = true) (steady : world.Steady)
    (drains : (drain host settings worker limit).Ends world result ended)
    (timely : result ≠ .error .overflow) :
    ∃ served middle, Serves host settings worker world served middle ∧
      result = .ok (served.map (·.2)) ∧
      (served.length = limit ∨ (next host settings worker).Ends middle (.ok none) ended) := by
  induction limit generalizing world result with
  | zero =>
    obtain ⟨rfl, rfl⟩ := Action.ends_pure.mp drains
    exact ⟨[], world, .nothing, rfl, .inl rfl⟩
  | succ limit ih =>
    simp only [drain] at drains
    obtain ⟨told, middle, made, goes⟩ | ⟨interrupt, rfl, failed⟩ := Action.ends_bind.mp drains
    · obtain ⟨none, -⟩ | ⟨row, report, same, about, foremost, served⟩ :=
        served_of_next answers spans steady made (by simp)
      · cases none
        obtain ⟨rfl, rfl⟩ := Action.ends_pure.mp goes
        exact ⟨[], world, .nothing, rfl, .inr made⟩
      · cases same
        obtain ⟨reports, last, drained, tells⟩ | ⟨interrupt, rfl, failed⟩ :=
          Action.ends_bind.mp goes
        · obtain ⟨rfl, rfl⟩ := Action.ends_pure.mp tells
          obtain ⟨later, rested, serves, same, ends⟩ := ih served.steady drained (by simp)
          cases same
          refine ⟨(row, report) :: later, rested, .attempt foremost made about serves, rfl, ?_⟩
          exact ends.imp_left (congrArg Nat.succ)
        · obtain ⟨later, rested, -, same, -⟩ := ih served.steady failed
            fun same => timely (by rw [Except.error.inj same])
          cases same
    · obtain ⟨same, -⟩ | ⟨row, report, same, -⟩ := served_of_next answers spans steady failed
        fun same => timely (by rw [Except.error.inj same])
      · cases same
      · cases same

/-- A worker that drains the queue of a store that can come about, whoever holds leases and whatever
the code host answers, comes to rest after as many attempts as there are queued changesets at most.
It attempts no changeset twice and each time the foremost of those that wait at that moment; whoever
has waited from the beginning is attempted, and at the end none waits. -/
theorem drain_serves_each_once {limit : Nat}
    {result : Except (Interrupt ReconcileError) (List AttemptReport)}
    (reachable : world.backend.store.Reachable) (faultless : world.backend.faults = [])
    (answers : host.Answers) (spans : settings.leaseDuration.isSpan = true)
    (enough : world.backend.store.count (·.queueState == .queued) < limit)
    (drains : (drain host settings worker limit).Ends world result ended)
    (timely : result ≠ .error .overflow) :
    ∃ served middle, Serves host settings worker world served middle ∧
      (next host settings worker).Ends middle (.ok none) ended ∧
      result = .ok (served.map (·.2)) ∧
      served.length ≤ world.backend.store.count (·.queueState == .queued) ∧
      (served.map (·.1.id)).Nodup ∧
      (∀ row, world.backend.store.Waits world.clock.now row → ∃ report, (row, report) ∈ served) ∧
      ∀ row, ¬ ended.backend.store.Waits ended.clock.now row := by
  have steady : world.Steady := ⟨reachable.numbered, faultless⟩
  obtain ⟨served, middle, serves, told, ends⟩ :=
    serves_of_drain answers spans steady drains timely
  have drained := serves.drained answers spans steady
  have short := drained.length_le steady.numbered
  rw [List.length_map] at short
  rcases ends with long | rests
  · omega
  · obtain ⟨-, same, clock, none⟩ | ⟨row, report, some, -⟩ :=
      served_of_next answers spans drained.steady rests (by simp)
    · refine ⟨served, middle, serves, rests, told, short, drained.distinct, ?_, ?_⟩
      · exact fun row waits => serves.mem_of_waits answers spans steady waits (none row)
      · rw [same, clock]
        exact none
    · cases some

end Reconcile

namespace Sample

/-- A published pull request that was not loaded yet and has been unchanged for some time. -/
def tracked (id : ChangesetId) (updated : Nat) : Changeset where
  id := id
  repoId := ⟨1⟩
  codeHost := .github
  externalId := some "101"
  publication := .published
  unsynced := true
  createdAt := instant 0
  updatedAt := instant updated

/-- What was called: one changeset was claimed and queued again, one is about a new commit, one is
in a repository that is missing, and one is not due yet. -/
def calls : List QueueCall :=
  [.commit [.upsertChangeset (tracked .unsaved 1)],
    .claim "v" "token" (instant 2) (.ofSeconds 300),
    .commit [.upsertChangeset (tracked ⟨3⟩ 1),
      .upsertChangeset { tracked .unsaved 50 with
        previousSpecId := some ⟨1⟩, currentSpecId := some ⟨2⟩ },
      .upsertChangeset { tracked .unsaved 20 with repoId := ⟨9⟩ },
      .upsertChangeset { tracked .unsaved 10 with processAfter := some (instant 102) }]]

def crowded : Store :=
  calls.foldl (fun store call => (call.perform store).2)
    ((((∅ : Store).putRepo repo).addChangesetSpec (spec 0 "a" "a")).2.addChangesetSpec
      (spec 0 "a" "b")).2

private theorem reachable_crowded : crowded.Reachable :=
  have specs := (Store.Reachable.empty.repoPut repo).changesetSpecAdded (spec 0 "a" "a")
  ((specs.changesetSpecAdded (spec 0 "a" "b")).called _ |>.called _).called _

/-- A worker comes to the queue. -/
def line : World Unit where
  backend := { store := crowded }
  clock := { now := instant 100 }
  host := ()

end Sample

open Sample in
/-- The changeset in the missing repository fails, the one with the new commit is pushed, and by
then the last one is due. The changeset under a lease is left alone. -/
theorem Reconcile.drain_serves_each_once_crowded :
    ∃ served middle ended, Reconcile.Serves reply.host {} "w" line served middle ∧
      (Reconcile.next reply.host {} "w").Ends middle (.ok none) ended ∧
      served.map (·.2.changesetId) = [⟨5⟩, ⟨4⟩, ⟨6⟩] ∧
      (∃ row, line.backend.store.changesets.find? ⟨3⟩ = some row ∧ row.queueState = .queued) ∧
      ∀ row, ¬ ended.backend.store.Waits ended.clock.now row := by
  have told : ((Reconcile.drain reply.host {} "w" 5 line : Except (Interrupt ReconcileError)
      (List AttemptReport) × World Unit).1.toOption.map (·.map (·.changesetId))) =
        some [⟨5⟩, ⟨4⟩, ⟨6⟩] := by
    decide +kernel
  have left : (line.backend.store.changesets.find? ⟨3⟩).map (·.queueState) = some .queued := by
    decide +kernel
  rcases runs : (Reconcile.drain reply.host {} "w" 5 line : Except (Interrupt ReconcileError)
    (List AttemptReport) × World Unit) with ⟨result, ended⟩
  rw [runs] at told
  have timely : result ≠ .error .overflow := by
    rintro rfl
    cases told
  obtain ⟨served, middle, serves, rests, rfl, -, -, -, none⟩ :=
    Reconcile.drain_serves_each_once reachable_crowded rfl reply.answers (by decide)
      (by decide +kernel) runs timely
  refine ⟨served, middle, ended, serves, rests, ?_, Option.map_eq_some_iff.mp left, none⟩
  simpa [Except.toOption, Function.comp_def] using told

end BatchChanges
