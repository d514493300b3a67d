import BatchChanges.Proofs.Attempt.Knowledge
import BatchChanges.Proofs.System.Transition

/-! # Where failures come from

A store fails because a failure was ahead of it, or because it refuses a call. Failures ahead are
used up and never come about: whatever details they had told at the beginning they tell for good.
Of the calls of attempts the store refuses one, the renewal of a lease for a length that is no span
of time.
-/

namespace BatchChanges

namespace Application

open Access

private theorem spends_readSpec (application : Application) : Spends application.readSpec := by
  refine spends_bind (spends_wrapping (spends_call _ _)) fun found => ?_
  cases found with
  | none => exact spends_throw _
  | some spec =>
    dsimp only
    split
    · exact spends_pure spec
    · exact spends_throw _

private theorem spends_readCampaign (application : Application) (spec : CampaignSpec) :
    Spends (application.readCampaign spec) := by
  refine spends_bind (spends_wrapping (spends_call _ _)) fun existing => ?_
  split
  · exact spends_throw _
  · exact spends_pure existing

private theorem spends_cancel (campaign : Campaign) : Spends (cancel campaign) := by
  simp only [cancel]
  split
  · exact spends_pure ()
  · exact spends_bind (spends_attempt (spends_call _ _)) fun _ => spends_pure ()

private theorem spends_delete (ids : List ChangesetId) : Spends (delete ids) := by
  induction ids with
  | nil => exact spends_pure ()
  | cons id rest ih => exact spends_bind (spends_call _ _) fun _ => ih

private theorem spends_write (changesets : List Changeset) (campaign : Campaign) :
    Spends (write campaign changesets) := by
  induction changesets generalizing campaign with
  | nil => exact spends_pure campaign
  | cons changeset rest ih =>
    refine spends_bind (spends_call _ _) fun stored => ?_
    split
    · exact ih _
    · exact ih campaign

private theorem spends_hydrate (visible : Visibility) (actor : Actor) (rows : List MappingRow) :
    Spends (Mapping.hydrate visible actor rows) :=
  spends_bind (spends_wrapping (spends_call _ _)) fun _ =>
    spends_bind (spends_wrapping (spends_call _ _)) fun _ =>
      spends_bind (spends_wrapping (spends_call _ _)) fun _ => spends_mk_pure _

private theorem spends_rewire (application : Application) (visible : Visibility)
    (spec : CampaignSpec) (campaign : Campaign) (now : Time) :
    Spends (application.rewire visible spec campaign now) := by
  rw [rewire_eq]
  refine spends_bind ?_ fun campaign => ?_
  · split
    · exact spends_wrapping (spends_call _ _)
    · exact spends_pure campaign
  · refine spends_bind (spends_wrapping (spends_call _ _)) fun rows => ?_
    refine spends_bind (spends_hydrate visible application.actor rows) fun mappings => ?_
    refine spends_bind (spends_mk_pure _) fun rewiring => ?_
    refine spends_bind (spends_wrapping (spends_delete _)) fun _ => ?_
    refine spends_bind (spends_wrapping (spends_write _ _)) fun written => ?_
    exact spends_bind (spends_wrapping (spends_call _ _)) fun _ => spends_pure written

private theorem spends_transact (application : Application) (visible : Visibility)
    (spec : CampaignSpec) (campaign : Campaign) (now : Time) :
    Spends (application.transact visible spec campaign now) := by
  refine spends_bind (spends_wrapping (spends_call _ _)) fun before => ?_
  refine spends_bind (spends_attempt (spends_rewire _ _ _ _ _)) fun outcome => ?_
  cases outcome with
  | ok applied =>
    exact spends_bind (spends_wrapping (spends_commit before)) fun _ => spends_pure applied
  | error error =>
    exact spends_bind (spends_attempt (spends_rollback before)) fun _ => spends_throw error

end Application

namespace Closure

open Access

private theorem spends_queue (now : Time) (changesets : List Changeset) :
    Spends (queue now changesets) := by
  induction changesets with
  | nil => exact spends_pure ()
  | cons changeset rest ih => exact spends_bind (spends_call _ _) fun _ => ih

theorem spends_close (closure : Closure) (campaign : Campaign) (now : Time) :
    Spends (closure.close campaign now) := by
  refine spends_bind (spends_call _ _) fun _ => ?_
  split
  · refine spends_bind (spends_call _ _) fun changesets => ?_
    exact spends_bind (spends_queue now _) fun _ => spends_pure _
  · exact spends_pure _

theorem spends_readCampaign (closure : Closure) : Spends closure.readCampaign := by
  refine spends_bind (spends_wrapping (spends_call _ _)) fun found => ?_
  cases found with
  | none => exact spends_throw _
  | some campaign =>
    dsimp only
    split
    · exact spends_pure campaign
    · exact spends_throw _

private theorem spends_run (closure : Closure) (now : Time) : Spends (closure.run now) := by
  refine spends_bind (spends_wrapping (spends_call _ _)) fun before => ?_
  refine spends_bind (spends_readCampaign closure) fun campaign => ?_
  · split
    · exact spends_pure campaign
    · refine spends_bind (spends_attempt (spends_close closure campaign now)) fun outcome => ?_
      cases outcome with
      | ok closed =>
        exact spends_bind (spends_wrapping (spends_commit before)) fun _ => spends_pure closed
      | error error => exact spends_bind (spends_restore before) fun _ => spends_throw _

end Closure

private theorem Applying.spends_proceed {details : String → Prop} {backend : Backend}
    (tells : backend.Tells details) (visible : Visibility) (now : Time) (applying : Applying) :
    (applying.proceed visible now backend).2.Tells details := by
  cases applying with
  | reading application =>
    have kept := application.spends_readSpec (Access.ends_self _ backend) tells
    simp only [proceed]
    split
    · next read => rwa [read] at kept
    · next read => rwa [read] at kept
  | resolving application spec =>
    have kept := application.spends_readCampaign spec (Access.ends_self _ backend) tells
    simp only [proceed]
    split
    · next read =>
      rw [read] at kept
      split <;> exact kept
    · next read => rwa [read] at kept
  | canceling application spec campaign now =>
    exact Application.spends_cancel campaign (Access.ends_self _ backend) tells
  | rewiring application spec campaign now =>
    exact application.spends_transact visible spec campaign now (Access.ends_self _ backend) tells

private theorem Store.expiry_eq_error {now : Time} {length : Duration} {error : StoreError}
    (refused : expiry now length = .error (.failed error)) :
    length.isSpan = false ∧ ∃ detail, error = .backend detail := by
  simp only [expiry] at refused
  split at refused
  · split at refused <;> cases refused
  · next long =>
    cases refused
    exact ⟨Bool.not_eq_true _ ▸ long, _, rfl⟩

private theorem Store.isSpan_of_expiry {now expiresAt : Time} {length : Duration}
    (reached : expiry now length = .ok expiresAt) : length.isSpan = true := by
  simp only [expiry] at reached
  split at reached
  · next span => exact span
  · cases reached

private theorem Store.isSpan_of_leaseNext {store next : Store} {worker token : String} {now : Time}
    {length : Duration} {claim : Changeset × Lease}
    (granted : store.leaseNext worker token now length = .ok (some claim, next)) :
    length.isSpan = true := by
  simp only [leaseNext] at granted
  split at granted
  · cases granted
  · cases reached : expiry now length with
    | ok expiresAt => exact isSpan_of_expiry reached
    | error interrupt =>
      rw [reached] at granted
      cases granted

private theorem Store.renew_eq_error {store : Store} {lease : Lease} {now : Time}
    {length : Duration} {error : StoreError}
    (refused : store.renew lease now length = .error (.failed error)) :
    length.isSpan = false ∧ ∃ detail, error = .backend detail := by
  simp only [renew] at refused
  split at refused
  · split at refused
    · cases refused
    · split at refused
      · cases reached : expiry now length with
        | ok expiresAt =>
          rw [reached] at refused
          cases refused
        | error interrupt =>
          rw [reached] at refused
          cases refused
          exact expiry_eq_error reached
      · cases refused
  · cases refused

/-- A renewal fails with what is ahead of it, or because it is for no span of time. -/
theorem Access.renew_refused {lease : Lease} {now : Time} {length : Duration} {error : StoreError}
    {backend next : Backend} {details : String → Prop} (tells : backend.Tells details)
    (ended : Ends (renew lease now length) backend (.error (.failed error)) next) :
    ∃ detail, error = .backend detail ∧ (details detail ∨ length.isSpan = false) := by
  obtain ⟨detail, ahead, failed⟩ | refused := callWith_refused tells ended
  · cases failed
    exact ⟨detail, rfl, .inl ahead⟩
  · obtain ⟨long, detail, same⟩ := Store.renew_eq_error refused
    exact ⟨detail, same, .inr long⟩

/-- The details that failures of the store tell an attempt. -/
def Question.Excuses (details : String → Prop) (length : Duration) (question : Question)
    (answer : question.Answer) : Prop :=
  ∀ error, question.refusal? answer = some error →
    ∃ detail, error = .backend detail ∧ (details detail ∨ length.isSpan = false)

namespace System

variable {system : System} {details : String → Prop}

/-- A question uses failures up. What the store refuses to answer is ahead of it, unless it is a
renewal for no span of time. -/
theorem answer_excuses (tells : system.world.backend.Tells details) (question : Question)
    (settings : Settings) (reply : HostReply)
    {result : Except (Interrupt ReconcileError) question.Answer} {world : World Unit}
    (ran : @Eq (Except (Interrupt ReconcileError) question.Answer × World Unit)
      (Action.answer reply.host settings question system.world) (result, world)) :
    world.backend.Tells details ∧ ∀ answer, result = .ok answer →
      question.Excuses details settings.leaseDuration answer := by
  have read : ∀ {α : Type} {name : StoreCall} {read : Store → α} {next : Backend}
      {outcome : Except StoreError α} {error : StoreError},
      Access.Ends (Access.call name fun store => .ok (read store, store)) system.world.backend
        outcome next → outcome = .error error →
      ∃ detail, error = .backend detail ∧
        (details detail ∨ settings.leaseDuration.isSpan = false) := by
    rintro α name read next outcome error ended rfl
    obtain ⟨detail, same, ahead⟩ := Access.call_refused tells ended
    exact ⟨detail, same, .inl ahead⟩
  cases question with
  | changesetSpec id =>
    have ended := Access.ends_self (Access.readChangesetSpec id) system.world.backend
    cases (Action.attempt_access_of_ends system.world ended).symm.trans ran
    refine ⟨Access.spends_call _ _ ended tells, ?_⟩
    rintro answer ⟨⟩ error refused
    refine read ended ?_
    generalize (Access.readChangesetSpec id system.world.backend).1 = outcome at refused
    cases outcome with
    | ok found => cases refused
    | error cause => rw [Option.some.inj refused]
  | repo id =>
    have ended := Access.ends_self (Access.readRepo id) system.world.backend
    cases (Action.attempt_access_of_ends system.world ended).symm.trans ran
    refine ⟨Access.spends_call _ _ ended tells, ?_⟩
    rintro answer ⟨⟩ error refused
    refine read ended ?_
    generalize (Access.readRepo id system.world.backend).1 = outcome at refused
    cases outcome with
    | ok found => cases refused
    | error cause => rw [Option.some.inj refused]
  | renewal lease =>
    have ended := Access.ends_self (Access.renew lease system.now settings.leaseDuration)
      system.world.backend
    generalize (Access.renew lease system.now settings.leaseDuration system.world.backend).1 =
      outcome at ended
    generalize (Access.renew lease system.now settings.leaseDuration system.world.backend).2 =
      backend at ended
    cases ((Action.answer_renewal _ _ _ _).trans
      (Action.attempt_timedAccess_of_ends _ ended)).symm.trans ran
    refine ⟨Access.spends_callWith _ _ _ ended tells, ?_⟩
    intro answer same error refused
    rcases outcome with (cause | _) | told
    · cases same
      cases refused
      exact Access.renew_refused tells ended
    · cases same
    · cases same
      cases refused
  | push repo branch =>
    obtain ⟨pushed, requested⟩ := reply
    cases pushed <;> cases ran <;> exact ⟨tells, fun _ _ _ refused => by cases refused⟩
  | request repo asked =>
    obtain ⟨pushed, requested⟩ := reply
    cases requested <;> cases ran <;> exact ⟨tells, fun _ _ _ refused => by cases refused⟩
  | pause =>
    have slept : @Eq (Except (Interrupt ReconcileError) Unit × World Unit)
        (Action.answer reply.host settings .pause system.world) _ :=
      Action.sleep_eq system.world settings.sleepAfterPush
    generalize (system.world.clock.noting settings.sleepAfterPush).advance?
      settings.sleepAfterPush = moved at slept
    cases moved <;> cases slept.symm.trans ran <;>
      exact ⟨tells, fun _ _ _ refused => by cases refused⟩

/-- An attempt that goes on has been given an answer. -/
theorem ask_answered {number : Nat} {flight following : Flight} {settings : Settings}
    {reply : HostReply} {question : Question} {resume : question.Answer → Attempt}
    (tells : system.world.backend.Tells details)
    (asks : flight.attempt.next = .ask question resume)
    (goes : (system.ask number flight settings reply).flights number = some following) :
    ∃ answer, following = { flight with
        attempt := resume answer, told := (question.told? answer).toList ++ flight.told } ∧
      question.Answered system.store system.now settings reply
        (system.ask number flight settings reply).store answer ∧
      question.Excuses details settings.leaseDuration answer := by
  obtain ⟨result, world, ran, -, told⟩ := answered system question settings reply
  have excuses := (answer_excuses tells question settings reply ran).2
  simp only [ask, asks] at goes ⊢
  rw [ran] at goes ⊢
  cases result with
  | ok answer =>
    simp only [Function.update_self, Option.some.injEq] at goes
    exact ⟨answer, goes.symm, told, excuses answer rfl⟩
  | error interrupt =>
    simp only [Function.update_self] at goes
    cases goes

/-- Only leases for a span of time are granted. -/
theorem isSpan_of_claim {worker : String} {length : Duration} {flight : Flight}
    (new : system.flights system.tokens = none)
    (goes : (system.claim worker length).flights system.tokens = some flight) :
    length.isSpan = true := by
  rw [claim_eq] at goes
  rcases ran : (Access.leaseNext worker (leaseToken system.tokens) system.now length
    system.world.backend : Except (Interrupt StoreError) _ × Backend) with ⟨result, backend⟩
  rw [ran] at goes
  rcases result with error | ⟨_ | ⟨row, lease⟩⟩
  · rw [new] at goes
    cases goes
  · rw [new] at goes
    cases goes
  · exact Store.isSpan_of_leaseNext (Access.callWith_ok ran)

/-- Every event uses failures up. -/
theorem tells_step (tells : system.world.backend.Tells details) (event : Event) :
    (system.step event).world.backend.Tells details := by
  cases event with
  | putRepo repo => exact tells
  | addCampaignSpec spec => exact tells
  | addChangesetSpec spec => exact tells
  | setClock now => exact tells
  | claim worker length =>
    rcases ran : (Access.leaseNext worker (leaseToken system.tokens) system.now length
      system.world.backend : Except (Interrupt StoreError) _ × Backend) with ⟨result, backend⟩
    have kept : backend.Tells details := Access.spends_callWith _ _ _ ran tells
    simp only [step, claim_eq]
    rw [ran]
    rcases result with error | ⟨_ | ⟨row, lease⟩⟩ <;> exact kept
  | ask number settings reply =>
    simp only [step]
    split
    · next flight under =>
      simp only [ask]
      split
      · exact tells
      · next question resume asks =>
        obtain ⟨result, world, ran, -⟩ := answered system question settings reply
        have kept := (answer_excuses tells question settings reply ran).1
        rw [ran]
        cases result <;> exact kept
    · exact tells
  | conclude number policy =>
    simp only [step]
    split
    · next flight under =>
      simp only [conclude]
      split
      · exact tells
      · next failure stopped =>
        rw [Reconcile.conclude_world]
        split
        · exact tells
        · exact Access.spends_call _ _ (Access.ends_self _ _) tells
    · exact tells
  | abandon number => exact tells
  | cancelQueued campaign => exact Access.spends_call _ _ (Access.ends_self _ _) tells
  | requeueDue maxAttempts => exact Access.spends_call _ _ (Access.ends_self _ _) tells
  | resetExpired => exact Access.spends_call _ _ (Access.ends_self _ _) tells
  | apply number application => exact tells
  | proceed number visible =>
    simp only [step]
    split
    · next applying under => exact Applying.spends_proceed tells visible system.now applying
    · exact tells
  | close closure => exact closure.spends_run system.now (Access.ends_self _ _) tells

end System

end BatchChanges
