import BatchChanges.Proofs.Action
import BatchChanges.Proofs.Campaign.Transaction
import BatchChanges.Proofs.System.Step

/-! # What an event can do

Every event is one of few kinds of transitions: each says what becomes of the store, of the attempts
under way and of what code hosts were told. All that is shown of runs is shown for these kinds.
-/

namespace BatchChanges

/-- How a question is answered: the store tells what it holds, and only a renewal changes it. -/
def Question.Answered (store : Store) (now : Time) (settings : Settings) (reply : HostReply)
    (next : Store) : (question : Question) → question.Answer → Prop
  | .changesetSpec id, answer =>
    next = store ∧ ∀ spec, answer = .ok spec → store.changesetSpecs.find? id = spec
  | .repo id, answer => next = store ∧ ∀ repo, answer = .ok repo → store.repos.find? id = repo
  | .renewal lease, answer =>
    (∃ error, answer = .error error ∧ next = store) ∨ ∃ told, answer = .ok told ∧
      store.renew lease now settings.leaseDuration = .ok (told, next)
  | .push _ _, answer => next = store ∧ answer = reply.push
  | .request _ _, answer => next = store ∧ answer = reply.request
  | .pause, _ => next = store

/-- An application is before its transaction, which is about a generation. A campaign that is not
stored yet gets its number in the transaction. -/
def Applying.Makes (visible : Visibility) (generation : Generation) : Applying → Prop
  | .rewiring application spec campaign now =>
    (campaign.id.isUnsaved = false → generation.campaign = campaign.id) ∧
      generation.visible = visible ∧ generation.actor = application.actor ∧
      generation.spec = spec.id ∧ generation.now = now
  | _ => False

/-- The number of a campaign that is not stored yet is a new one. -/
def Applying.Numbers (last : Int) (generation : Generation) : Applying → Prop
  | .rewiring _ _ campaign _ => campaign.id.isUnsaved = true → last < generation.campaign.value
  | _ => True

namespace System

/-- The kinds of transitions. -/
inductive Transition (system : System) : Event → System → Prop
  /-- Nothing is stored, and at most attempts are over. -/
  | quiet {event : Event} {next : System} (store : next.store = system.store)
      (tokens : system.tokens ≤ next.tokens)
      (flights : ∀ {number flight}, next.flights number = some flight →
        system.flights number = some flight)
      (deliveries : next.deliveries = system.deliveries) : Transition system event next
  | repoPut (repo : Repo) :
      Transition system (.putRepo repo) (system.withStore (system.store.putRepo repo))
  | campaignSpecAdded (spec : CampaignSpec) :
      Transition system (.addCampaignSpec spec)
        (system.withStore (system.store.addCampaignSpec spec).2)
  | changesetSpecAdded (spec : ChangesetSpec) :
      Transition system (.addChangesetSpec spec)
        (system.withStore (system.store.addChangesetSpec spec).2)
  | claimed {worker : String} {length : Duration} {row : Changeset} {expiresAt : Time}
      {next : System} (found : system.store.candidate? system.now = some row)
      (store : next.store = { system.store with
        changesets := system.store.changesets.insert row.id { row with queueState := .processing }
        leases := system.store.leases.insert row.id
          ⟨⟨row.id, worker, leaseToken system.tokens, expiresAt⟩, row.closing⟩ })
      (tokens : next.tokens = system.tokens + 1)
      (flights : next.flights = Function.update system.flights system.tokens (some
        { claimed := { row with queueState := .processing }
          attempt := .start { row with queueState := .processing }
            ⟨row.id, worker, leaseToken system.tokens, expiresAt⟩ }))
      (deliveries : next.deliveries = system.deliveries) :
      Transition system (.claim worker length) next
  | asked {number : Nat} {settings : Settings} {reply : HostReply} {flight : Flight}
      {question : Question} {resume : question.Answer → Attempt} {answer : question.Answer}
      {next : System} (under : system.flights number = some flight)
      (asks : flight.attempt.next = .ask question resume)
      (answered : question.Answered system.store system.now settings reply next.store answer)
      (tokens : next.tokens = system.tokens)
      (flights : next.flights = Function.update system.flights number (some
        { flight with
          attempt := resume answer, told := (question.told? answer).toList ++ flight.told }))
      (deliveries : next.deliveries =
        (question.told? answer).toList.map (flight.claimed.id, ·) ++ system.deliveries) :
      Transition system (.ask number settings reply) next
  | concluded {number : Nat} {policy : RetryPolicy} {flight : Flight}
      {failure : Option ReconcileError} {outcome : Changeset} {next : System}
      (under : system.flights number = some flight)
      (stopped : flight.attempt.next = .settled failure)
      (settled : flight.attempt.row.settled? policy failure system.now = some outcome)
      (store : next.store = (system.store.finish flight.attempt.lease outcome).2)
      (tokens : next.tokens = system.tokens)
      (flights : next.flights = Function.update system.flights number none)
      (deliveries : next.deliveries = system.deliveries) :
      Transition system (.conclude number policy) next
  | canceled {event : Event} {next : System} (campaign : CampaignId)
      (happens : event = .cancelQueued campaign ∨ ∃ number visible, event = .proceed number visible)
      (store : next.store = (system.store.cancelQueued campaign).2)
      (tokens : next.tokens = system.tokens) (flights : next.flights = system.flights)
      (deliveries : next.deliveries = system.deliveries) : Transition system event next
  | requeued {maxAttempts : UInt32} {next : System}
      (store : next.store = (system.store.requeueDue system.now maxAttempts).2)
      (tokens : next.tokens = system.tokens) (flights : next.flights = system.flights)
      (deliveries : next.deliveries = system.deliveries) :
      Transition system (.requeueDue maxAttempts) next
  | reset {next : System} (store : next.store = (system.store.resetExpired system.now).2)
      (tokens : next.tokens = system.tokens) (flights : next.flights = system.flights)
      (deliveries : next.deliveries = system.deliveries) : Transition system .resetExpired next
  | rewired {number : Nat} {visible : Visibility} {next : System} {applying : Applying}
      (generation : Generation) (under : system.applications number = some applying)
      (makes : applying.Makes visible generation)
      (transacted : system.store.Transacted next.store (generation.Fate system.store))
      (tokens : next.tokens = system.tokens) (flights : next.flights = system.flights)
      (deliveries : next.deliveries = system.deliveries)
      (fresh : applying.Numbers system.store.lastId generation) :
      Transition system (.proceed number visible) next
  | closed {closure : Closure} {next : System}
      (transacted : system.store.Transacted next.store fun _ => closure.Fate system.now)
      (tokens : next.tokens = system.tokens) (flights : next.flights = system.flights)
      (deliveries : next.deliveries = system.deliveries) : Transition system (.close closure) next

variable {system : System}

theorem claim_eq (worker : String) (length : Duration) :
    system.claim worker length =
      let (result, backend) := Access.leaseNext worker (leaseToken system.tokens) system.now length
        system.world.backend
      let world := { system.world with tokens := system.tokens + 1, backend }
      match result with
      | .ok (some (row, lease)) =>
        { system with
          world
          flights := Function.update system.flights system.tokens
            (some { claimed := row, attempt := .start row lease }) }
      | _ => { system with world } := by
  rcases ran : (Access.leaseNext worker (leaseToken system.tokens) system.now length
    system.world.backend : Except (Interrupt StoreError) _ × Backend) with ⟨result, backend⟩
  have claimed : (Action.claim worker system.now length system.world :
      Except (Interrupt StoreError) (Option (Changeset × Lease)) × World Unit) =
      (result, { system.world with tokens := system.tokens + 1, backend }) :=
    Action.timedAccess_of_ends { system.world with tokens := system.tokens + 1 } ran
  simp only [claim]
  rw [claimed]
  rcases result with error | ⟨_ | ⟨row, lease⟩⟩ <;> rfl

private theorem transition_claim (worker : String) (length : Duration) :
    Transition system (.claim worker length) (system.claim worker length) := by
  rw [claim_eq]
  rcases ran : (Access.leaseNext worker (leaseToken system.tokens) system.now length
    system.world.backend : Except (Interrupt StoreError) _ × Backend) with ⟨result, backend⟩
  cases result with
  | error error =>
    exact .quiet (Access.callWith_error ran) (Nat.le_succ _) (fun found => found) rfl
  | ok claim =>
    obtain ⟨rfl, same⟩ | ⟨row, expiresAt, found, rfl, stored⟩ :=
      Store.leaseNext_eq_ok (Access.callWith_ok ran)
    · exact .quiet same (Nat.le_succ _) (fun found => found) rfl
    · exact .claimed found stored rfl rfl rfl

/-- Questions to the store are answered by the store, those to the code host by the host. If the
calendar ends, nothing has changed. -/
theorem answered (system : System) (question : Question) (settings : Settings)
    (reply : HostReply) :
    ∃ result world, @Eq (Except (Interrupt ReconcileError) question.Answer × World Unit)
        (Action.answer reply.host settings question system.world) (result, world) ∧
      world.tokens = system.tokens ∧
      match result with
      | .ok answer => question.Answered system.store system.now settings reply world.backend.store
          answer
      | .error _ => world.backend.store = system.store := by
  cases question with
  | changesetSpec id =>
    have ended := Access.ends_self (Access.readChangesetSpec id) system.world.backend
    refine ⟨_, _, Action.attempt_access_of_ends _ ended, rfl, Access.call_read_store ended, ?_⟩
    intro spec told
    rw [told] at ended
    exact (Access.call_read_ok ended).1
  | repo id =>
    have ended := Access.ends_self (Access.readRepo id) system.world.backend
    refine ⟨_, _, Action.attempt_access_of_ends _ ended, rfl, Access.call_read_store ended, ?_⟩
    intro repo told
    rw [told] at ended
    exact (Access.call_read_ok ended).1
  | renewal lease =>
    have ended := Access.ends_self (Access.renew lease system.now settings.leaseDuration)
      system.world.backend
    generalize (Access.renew lease system.now settings.leaseDuration system.world.backend).1 =
      outcome at ended
    generalize (Access.renew lease system.now settings.leaseDuration system.world.backend).2 =
      backend at ended
    have ran : @Eq (Except (Interrupt ReconcileError) (Except StoreError (Verdict × Lease)) ×
        World Unit) (Action.answer reply.host settings (.renewal lease) system.world)
        (Action.caught outcome, { system.world with backend }) :=
      (Action.answer_renewal _ _ _ _).trans (Action.attempt_timedAccess_of_ends _ ended)
    rcases outcome with (error | _) | told
    · exact ⟨_, _, ran, rfl, .inl ⟨error, rfl, Access.callWith_error ended⟩⟩
    · exact ⟨_, _, ran, rfl, Access.callWith_error ended⟩
    · exact ⟨_, _, ran, rfl, .inr ⟨told, rfl, Access.callWith_ok ended⟩⟩
  | push repo branch =>
    obtain ⟨pushed, requested⟩ := reply
    exact ⟨.ok pushed, system.world, by cases pushed <;> rfl, rfl, rfl, rfl⟩
  | request repo asked =>
    obtain ⟨pushed, requested⟩ := reply
    exact ⟨.ok requested, system.world, by cases requested <;> rfl, rfl, rfl, rfl⟩
  | pause =>
    have ran : @Eq (Except (Interrupt ReconcileError) Unit × World Unit)
        (Action.answer reply.host settings .pause system.world) _ :=
      Action.sleep_eq system.world settings.sleepAfterPush
    generalize (system.world.clock.noting settings.sleepAfterPush).advance?
      settings.sleepAfterPush = moved at ran
    cases moved with
    | some clock => exact ⟨_, _, ran, rfl, rfl⟩
    | none => exact ⟨_, _, ran, rfl, rfl⟩

private theorem transition_ask {number : Nat} {flight : Flight}
    (under : system.flights number = some flight) (settings : Settings) (reply : HostReply) :
    Transition system (.ask number settings reply) (system.ask number flight settings reply) := by
  simp only [ask]
  split
  · exact .quiet rfl (Nat.le_refl _) (fun found => found) rfl
  · next question resume asks =>
    obtain ⟨result, world, ran, tokens, told⟩ := answered system question settings reply
    rw [ran]
    cases result with
    | ok answer => exact .asked under asks told tokens rfl rfl
    | error interrupt =>
      refine .quiet told (Nat.le_of_eq tokens.symm) ?_ rfl
      intro other flight found
      simp only [Function.update_apply] at found
      split at found
      · cases found
      · exact found

/-- An attempt goes on with what the code host answers to its request. -/
theorem flights_of_answered {number : Nat} {flight : Flight} {repo : Repo} {operation : Operation}
    {asked : HostRequest} {rest : List Operation} {reply : HostReply} {view : PullRequest}
    (settings : Settings) (under : system.flights number = some flight)
    (stage : flight.attempt.stage = .acting repo operation (.request asked) rest)
    (replied : reply.request = .ok view) :
    (system.step (.ask number settings reply)).flights number = some
      { flight with
        attempt := Attempt.proceed
          { flight.attempt with row := operation.answered view flight.attempt.row } repo rest
        told := .request asked :: flight.told } := by
  obtain ⟨pushed, requested⟩ := reply
  cases replied
  simp only [step, under, ask, Attempt.next, stage]
  exact Function.update_self ..

private theorem transition_conclude {number : Nat} {flight : Flight}
    (under : system.flights number = some flight) (policy : RetryPolicy) :
    Transition system (.conclude number policy) (system.conclude number flight policy) := by
  have fewer : ∀ {other found}, Function.update system.flights number none other = some found →
      system.flights other = some found := by
    intro other found present
    simp only [Function.update_apply] at present
    split at present
    · cases present
    · exact present
  simp only [conclude]
  split
  · exact .quiet rfl (Nat.le_refl _) (fun found => found) rfl
  · next failure stopped =>
    have world := Reconcile.conclude_world policy flight.attempt failure system.world
    cases settled : flight.attempt.row.settled? policy failure system.now with
    | none =>
      rw [show flight.attempt.row.settled? policy failure system.world.clock.now = none
        from settled] at world
      refine .quiet ?_ ?_ fewer rfl
      · simp only [store, world]
      · simp only [tokens, world, Nat.le_refl]
    | some outcome =>
      rw [show flight.attempt.row.settled? policy failure system.world.clock.now = some outcome
        from settled] at world
      rcases Access.call_total (Access.ends_self (Access.finish flight.attempt.lease outcome)
        system.world.backend) with written | failed
      · refine .concluded under stopped settled ?_ ?_ rfl rfl
        · simp only [store, world]
          exact written
        · simp only [tokens, world]
      · refine .quiet ?_ ?_ fewer rfl
        · simp only [store, world]
          exact failed
        · simp only [tokens, world, Nat.le_refl]

/-- An application reads, then cancels, and then rewires the campaign. -/
theorem transition_proceed (numbered : system.store.Numbered) {applying : Applying} {number : Nat}
    (under : system.applications number = some applying) (visible : Visibility) :
    Transition system (.proceed number visible)
      { system.withBackend (applying.proceed visible system.now system.world.backend).2 with
        applications := Function.update system.applications number
          (applying.proceed visible system.now system.world.backend).1 } := by
  have reading : ∀ {backend : Backend} {rest : Option Applying},
      backend.store = system.store → Transition system (.proceed number visible)
        { system.withBackend backend with
          applications := Function.update system.applications number rest } :=
    fun same => .quiet same (Nat.le_refl _) (fun found => found) rfl
  cases applying with
  | reading application =>
    simp only [Applying.proceed]
    split
    · next spec backend read => exact reading (Application.readSpec_store read)
    · next error backend read => exact reading (Application.readSpec_store read)
  | resolving application spec =>
    simp only [Applying.proceed]
    split
    · next existing backend read =>
      split <;> exact reading (Application.readCampaign_store read)
    · next error backend read => exact reading (Application.readCampaign_store read)
  | canceling application spec campaign now =>
    rcases Application.cancel_store (Access.ends_self (Application.cancel campaign)
      system.world.backend) with canceled | failed
    · exact .canceled campaign.id (.inr ⟨number, visible, rfl⟩) canceled rfl rfl rfl
    · exact reading failed
  | rewiring application spec campaign now =>
    have ended := Access.ends_self (application.transact visible spec campaign now)
      system.world.backend
    cases outcome : (application.transact visible spec campaign now system.world.backend).1 with
    | ok applied =>
      rw [outcome] at ended
      obtain ⟨saved, fresh, transacted⟩ := Application.transact_ok numbered ended
      exact .rewired _ under ⟨saved, rfl, rfl, rfl, rfl⟩ transacted rfl rfl rfl fresh
    | error error =>
      rw [outcome] at ended
      exact reading (Application.transact_error ended)

/-- Every event is a transition of one of the kinds. -/
theorem transition (numbered : system.store.Numbered) (event : Event) :
    Transition system event (system.step event) := by
  cases event with
  | putRepo repo => exact .repoPut repo
  | addCampaignSpec spec => exact .campaignSpecAdded spec
  | addChangesetSpec spec => exact .changesetSpecAdded spec
  | setClock now => exact .quiet rfl (Nat.le_refl _) (fun found => found) rfl
  | claim worker length => exact transition_claim worker length
  | ask number settings reply =>
    simp only [step]
    split
    · next flight under => exact transition_ask under settings reply
    · exact .quiet rfl (Nat.le_refl _) (fun found => found) rfl
  | conclude number policy =>
    simp only [step]
    split
    · next flight under => exact transition_conclude under policy
    · exact .quiet rfl (Nat.le_refl _) (fun found => found) rfl
  | abandon number =>
    refine .quiet rfl (Nat.le_refl _) ?_ rfl
    intro other flight found
    simp only [step, Function.update_apply] at found
    split at found
    · cases found
    · exact found
  | cancelQueued campaign =>
    rcases Access.call_total (Access.ends_self (Access.cancelQueued campaign)
      system.world.backend) with canceled | failed
    · exact .canceled campaign (.inl rfl) canceled rfl rfl rfl
    · exact .quiet failed (Nat.le_refl _) (fun found => found) rfl
  | requeueDue maxAttempts =>
    rcases Access.call_total (Access.ends_self (Access.requeueDue system.now maxAttempts)
      system.world.backend) with requeued | failed
    · exact .requeued requeued rfl rfl rfl
    · exact .quiet failed (Nat.le_refl _) (fun found => found) rfl
  | resetExpired =>
    rcases Access.call_total (Access.ends_self (Access.resetExpired system.now)
      system.world.backend) with reset | failed
    · exact .reset reset rfl rfl rfl
    · exact .quiet failed (Nat.le_refl _) (fun found => found) rfl
  | apply number application => exact .quiet rfl (Nat.le_refl _) (fun found => found) rfl
  | proceed number visible =>
    simp only [step]
    split
    · next applying under => exact transition_proceed numbered under visible
    · exact .quiet rfl (Nat.le_refl _) (fun found => found) rfl
  | close closure =>
    exact .closed (Closure.run_store numbered (Access.ends_self _ _)) rfl rfl rfl

end System

end BatchChanges
