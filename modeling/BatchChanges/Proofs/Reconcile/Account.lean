import BatchChanges.Proofs.Reconcile.Undisturbed

/-! # What an attempt leaves on record

A worker that has claimed a changeset makes a plan from what the store has, carries it out as far as
it gets, and writes down what came of it. If nobody else makes calls in the meantime, the changeset
is then stored with what the successful operations brought in, completed if the plan was carried
out, and otherwise with the failure that ended the attempt.
-/

namespace BatchChanges

variable {σ : Type}

/-- Nothing has changed in a world, but that failures ahead were used up. -/
structure World.Since (world next : World σ) : Prop where
  same : next = { world with backend := { world.backend with faults := next.backend.faults } }
  ahead {call : StoreCall} {detail : String} (ahead : Fault.Ahead next.backend.faults call detail) :
    Fault.Ahead world.backend.faults call detail

namespace World.Since

variable {world middle next : World σ}

private theorem refl (world : World σ) : world.Since world := ⟨rfl, fun ahead => ahead⟩

private theorem trans (first : world.Since middle) (second : middle.Since next) :
    world.Since next where
  same := by
    rw [second.same, first.same]
  ahead ahead := first.ahead (second.ahead ahead)

theorem store (since : world.Since next) : next.backend.store = world.backend.store := by
  rw [since.same]

end World.Since

/-- A call that only reads tells what the store has, or is struck by a failure ahead. -/
theorem Action.ends_read {ε α : Type} {name : StoreCall} {read : Store → α}
    {answer : Except StoreError α} {world next : World σ}
    (ended : Ends (attempt (access (Access.call name fun store => .ok (read store, store))) :
      Action σ ε (Except StoreError α)) world (.ok answer) next) :
    world.Since next ∧ match answer with
      | .ok found => read world.backend.store = found
      | .error error => ∃ detail, error = .backend detail ∧
          Fault.Ahead world.backend.faults name detail := by
  have met := Fault.ahead_meet name world.backend.faults
  have told := (attempt_access_of_ends world (Access.ends_self
    (Access.call name fun store => .ok (read store, store)) world.backend)).symm.trans ended
  simp only [Access.call, Access.callWith] at told
  split at told
  · next detail faults strikes =>
    cases told
    rw [strikes] at met
    exact ⟨⟨rfl, met.1 _ _⟩, detail, rfl, met.2 detail rfl⟩
  · next faults passes =>
    cases told
    rw [passes] at met
    exact ⟨⟨rfl, met.1 _ _⟩, rfl⟩

/-- The plan that the specs of a store make for a changeset, and the branch push that applies. -/
inductive Store.Plans (store : Store) (row : Changeset) : Plan → Option BranchPush → Prop
  | specs {previous current : Option ChangesetSpec} {plan : Plan}
      (namesPrevious : store.changesetSpecs.Names row.previousSpecId previous)
      (namesCurrent : store.changesetSpecs.Names row.currentSpecId current)
      (determined : Plan.determine previous current row = .ok plan) :
      Plans store row plan (current.bind ChangesetSpec.branchPush?)

/-- Why there is no plan: the store fails, a spec is missing, or the specs make no plan. -/
inductive Backend.Unplanned (backend : Backend) (row : Changeset) : ReconcileError → Prop
  | unread {detail : String} (ahead : Fault.Ahead backend.faults .readChangesetSpec detail) :
      Unplanned backend row (.store (.backend detail))
  | missing {id : ChangesetSpecId}
      (named : row.previousSpecId = some id ∨ row.currentSpecId = some id)
      (absent : backend.store.changesetSpecs.find? id = none) :
      Unplanned backend row (.specNotFound id)
  | refused {previous current : Option ChangesetSpec} {cause : MissingCurrentSpec}
      (namesPrevious : backend.store.changesetSpecs.Names row.previousSpecId previous)
      (namesCurrent : backend.store.changesetSpecs.Names row.currentSpecId current)
      (refused : Plan.determine previous current row = .error cause) :
      Unplanned backend row (.missingCurrentSpec cause)

/-- Why there is no repository: the store fails, or it has none. -/
inductive Backend.Homeless (backend : Backend) (row : Changeset) : ReconcileError → Prop
  | unread {detail : String} (ahead : Fault.Ahead backend.faults .readRepo detail) :
      Homeless backend row (.store (.backend detail))
  | missing (absent : backend.store.repos.find? row.repoId = none) :
      Homeless backend row (.repoNotFound row.repoId)

/-- What becomes of a changeset from its claim until its attempt has settled: which operations were
planned, what was done, and whether the attempt has failed. -/
inductive Attempted (host : Host σ) (settings : Settings) (claimed : Changeset) (lease : Lease)
    (begun : World σ) : List Operation → List Deed → Option ReconcileError → Lease → World σ → Prop
  | unplanned {error : ReconcileError} {ended : World σ}
      (cause : begun.backend.Unplanned claimed error) (since : begun.Since ended) :
      Attempted host settings claimed lease begun [] [] (some error) lease ended
  | idle {plan : Plan} {push : Option BranchPush} {ended : World σ}
      (plans : begun.backend.store.Plans claimed plan push) (nothing : plan.operations = [])
      (since : begun.Since ended) :
      Attempted host settings claimed lease begun [] [] none lease ended
  | homeless {plan : Plan} {push : Option BranchPush} {error : ReconcileError} {ended : World σ}
      (plans : begun.backend.store.Plans claimed plan push) (some : plan.operations ≠ [])
      (cause : begun.backend.Homeless claimed error) (since : begun.Since ended) :
      Attempted host settings claimed lease begun plan.operations [] (.some error) lease ended
  | carried {plan : Plan} {push : Option BranchPush} {repo : Repo} {log : List Deed}
      {failure : Option ReconcileError} {last : Lease} {middle ended : World σ}
      (plans : begun.backend.store.Plans claimed plan push)
      (located : begun.backend.store.repos.find? claimed.repoId = some repo)
      (since : begun.Since middle)
      (carried : Carried host settings repo push (Duty.schedule plan.operations) claimed lease
        middle log failure last ended) :
      Attempted host settings claimed lease begun plan.operations log failure last ended

namespace Reconcile

variable {host : Host σ} {settings : Settings} {claimed : Changeset} {lease : Lease}
  {stage : Stage} {begun world ended : World σ}
  {result : Except (Interrupt ReconcileError) (Attempt × Option ReconcileError)}

/-- An attempt ends as one that was made after the claim of a changeset. -/
def Attempts (host : Host σ) (settings : Settings) (claimed : Changeset) (lease : Lease)
    (begun : World σ)
    (result : Except (Interrupt ReconcileError) (Attempt × Option ReconcileError))
    (ended : World σ) : Prop :=
  ∃ log failure final, result = .ok (final, failure) ∧
    Attempted host settings claimed lease begun final.planned log failure final.lease ended ∧
    final.row = log.foldl Deed.record claimed

/-- With the specs at hand, an attempt makes its plan and reads the repository. -/
theorem attempts_of_plan {previous current : Option ChangesetSpec} (since : begun.Since world)
    (namesPrevious : begun.backend.store.changesetSpecs.Names claimed.previousSpecId previous)
    (namesCurrent : begun.backend.store.changesetSpecs.Names claimed.currentSpecId current)
    (runs : Action.Ends (run host settings
      (Attempt.plan { row := claimed, lease, stage } previous current)) world result ended)
    (timely : result ≠ .error .overflow) :
    Attempts host settings claimed lease begun result ended := by
  simp only [Attempt.plan] at runs
  split at runs
  · next cause refused =>
    obtain ⟨rfl, rfl⟩ := ends_run_settled rfl runs
    exact ⟨[], _, _, rfl, .unplanned (.refused namesPrevious namesCurrent refused) since, rfl⟩
  · next plan determined =>
    have plans := Store.Plans.specs namesPrevious namesCurrent determined
    split at runs
    · next nothing =>
      obtain ⟨rfl, rfl⟩ := ends_run_settled rfl runs
      exact ⟨[], _, _, rfl, .idle plans nothing since, rfl⟩
    · next first rest operations =>
      obtain ⟨answer, middle, answered, goes⟩ := ends_run_ask rfl runs timely
      obtain ⟨spent, told⟩ := Action.ends_read answered
      have later := since.trans spent
      have some : plan.operations ≠ [] := by
        rw [operations]
        exact List.cons_ne_nil first rest
      rcases answer with error | _ | repo
      · obtain ⟨detail, rfl, ahead⟩ := told
        obtain ⟨rfl, rfl⟩ := ends_run_settled rfl goes
        exact ⟨[], _, _, rfl, .homeless plans some (.unread (since.ahead ahead)) later, rfl⟩
      · obtain ⟨rfl, rfl⟩ := ends_run_settled rfl goes
        have absent : begun.backend.store.repos.find? claimed.repoId = none := by
          rw [← since.store]
          exact told
        exact ⟨[], _, _, rfl, .homeless plans some (.missing absent) later, rfl⟩
      · obtain ⟨log, failure, final, rfl, carried, known, planned⟩ :=
          carries_of_begin (proceeds host settings repo rest) goes timely
        have located : begun.backend.store.repos.find? claimed.repoId = .some repo := by
          rw [← since.store]
          exact told
        rw [show Duty.run first :: rest.flatMap Duty.renewed = Duty.schedule plan.operations by
          rw [operations, Duty.schedule]] at carried
        exact ⟨log, failure, final, rfl, planned ▸ .carried plans located later carried, known⟩

/-- A spec that the changeset names is read before, unless the store fails or does not have it. -/
theorem attempts_of_read {id : ChangesetSpecId}
    {resume : (Question.changesetSpec id).Answer → Attempt} (since : begun.Since world)
    (named : claimed.previousSpecId = some id ∨ claimed.currentSpecId = some id)
    (asks : Attempt.next { row := claimed, lease, stage } = .ask (.changesetSpec id) resume)
    (unread : ∀ error, resume (.error error) =
      Attempt.settle { row := claimed, lease, stage } (some (.store error)))
    (absent : resume (.ok none) =
      Attempt.settle { row := claimed, lease, stage } (some (.specNotFound id)))
    (goesOn : ∀ {spec : ChangesetSpec} {later : World σ}, begun.Since later →
      begun.backend.store.changesetSpecs.find? id = some spec →
      Action.Ends (run host settings (resume (.ok (some spec)))) later result ended →
      Attempts host settings claimed lease begun result ended)
    (runs : Action.Ends (run host settings { row := claimed, lease, stage }) world result ended)
    (timely : result ≠ .error .overflow) :
    Attempts host settings claimed lease begun result ended := by
  obtain ⟨answer, middle, answered, goes⟩ := ends_run_ask asks runs timely
  obtain ⟨spent, told⟩ := Action.ends_read answered
  have later := since.trans spent
  rcases answer with error | _ | spec
  · obtain ⟨detail, rfl, ahead⟩ := told
    rw [unread] at goes
    obtain ⟨rfl, rfl⟩ := ends_run_settled rfl goes
    exact ⟨[], _, _, rfl, .unplanned (.unread (since.ahead ahead)) later, rfl⟩
  · rw [absent] at goes
    obtain ⟨rfl, rfl⟩ := ends_run_settled rfl goes
    rw [since.store] at told
    exact ⟨[], _, _, rfl, .unplanned (.missing named told) later, rfl⟩
  · rw [since.store] at told
    exact goesOn later told goes

/-- The current spec is read if the changeset names one. -/
theorem attempts_of_seekCurrent {previous : Option ChangesetSpec} (since : begun.Since world)
    (namesPrevious : begun.backend.store.changesetSpecs.Names claimed.previousSpecId previous)
    (runs : Action.Ends (run host settings
      (Attempt.seekCurrent { row := claimed, lease, stage } previous)) world result ended)
    (timely : result ≠ .error .overflow) :
    Attempts host settings claimed lease begun result ended := by
  simp only [Attempt.seekCurrent] at runs
  split at runs
  · next id named =>
    refine attempts_of_read since (.inr named) rfl (fun _ => rfl) rfl ?_ runs timely
    exact fun later found goes =>
      attempts_of_plan later namesPrevious (named ▸ .row found) goes timely
  · next unnamed => exact attempts_of_plan since namesPrevious (unnamed ▸ .nothing) runs timely

/-- So is the previous one before that. -/
theorem attempts_of_start
    (runs : Action.Ends (run host settings (.start claimed lease)) begun result ended)
    (timely : result ≠ .error .overflow) :
    Attempts host settings claimed lease begun result ended := by
  simp only [Attempt.start] at runs
  split at runs
  · next id named =>
    refine attempts_of_read (.refl begun) (.inl named) rfl (fun _ => rfl) rfl ?_ runs timely
    exact fun later found goes =>
      attempts_of_seekCurrent later (named ▸ .row found) goes timely
  · next unnamed =>
    exact attempts_of_seekCurrent (.refl begun) (unnamed ▸ .nothing) runs timely

end Reconcile

namespace Reconcile

variable {host : Host σ} {settings : Settings} {world next : World σ}

/-- An attempt that is over settles its row and writes it back under its lease, unless a failure
ahead strikes the write-back. -/
theorem ends_conclude {policy : RetryPolicy} {attempt : Attempt} {failure : Option ReconcileError}
    {result : Except (Interrupt ReconcileError) AttemptReport}
    (runs : Action.Ends (conclude policy attempt failure) world result next)
    (timely : result ≠ .error .overflow) :
    ∃ outcome, attempt.row.settled? policy failure world.clock.now = some outcome ∧
      next = { world with backend := next.backend } ∧
      ((∃ detail, Fault.Ahead world.backend.faults .finish detail ∧
        result = .error (.failed (.store (.backend detail))) ∧
        next.backend.store = world.backend.store) ∨
      ∃ verdict, world.backend.store.finish attempt.lease outcome = (verdict, next.backend.store) ∧
        result = .ok {
          changesetId := outcome.id
          operations := attempt.planned
          state := outcome.queueState
          failureMessage := outcome.failureMessage
          retryAt := outcome.processAfter
          writeBack := verdict }) := by
  simp only [conclude] at runs
  rw [Action.Ends, Action.now_bind] at runs
  cases settled : attempt.row.settled? policy failure world.clock.now with
  | none =>
    rw [settled] at runs
    cases runs
    exact absurd rfl timely
  | some outcome =>
    refine ⟨outcome, rfl, ?_⟩
    rw [settled] at runs
    rcases ran : (Access.finish attempt.lease outcome world.backend :
      Except StoreError Verdict × Backend) with ⟨written, backend⟩
    have called : Access.Ends (Access.call .finish fun store =>
        .ok (store.finish attempt.lease outcome)) world.backend written backend := ran
    have wrapped := Action.wrapping_access_of_ends ReconcileError.store world ran
    obtain ⟨detail, ahead, rfl, kept⟩ | ⟨verdict, rfl, made⟩ := Access.call_struck_or_made called
    · obtain ⟨verdict, middle, wrote, -⟩ | ⟨interrupt, rfl, failed⟩ := Action.ends_bind.mp runs
      · cases wrapped.symm.trans wrote
      · cases wrapped.symm.trans failed
        exact ⟨rfl, .inl ⟨detail, ahead, rfl, kept⟩⟩
    · obtain ⟨told, middle, wrote, tells⟩ | ⟨interrupt, -, failed⟩ := Action.ends_bind.mp runs
      · cases wrapped.symm.trans wrote
        obtain ⟨rfl, rfl⟩ := Action.ends_pure.mp tells
        exact ⟨rfl, .inr ⟨verdict, made, rfl⟩⟩
      · cases wrapped.symm.trans failed

end Reconcile

/-- What is written down of a claimed changeset: what the successful operations brought in, and
whether the attempt has failed. -/
structure Changeset.Recorded (claimed : Changeset) (log : List Deed)
    (failure : Option ReconcileError) (now : Time) (outcome : Changeset) : Prop where
  columns : outcome = { log.foldl Deed.record claimed with
    queueState := outcome.queueState, failureMessage := outcome.failureMessage
    failures := outcome.failures, processAfter := outcome.processAfter, updatedAt := now }
  /-- Only without a failure the changeset is completed, with nothing on record. -/
  completed : outcome.place = (.completed, none, 0, none) ↔ failure = none
  errored {error : ReconcileError} (failed : failure = some error) :
    outcome.queueState = .errored ∧ outcome.failureMessage = some error.message ∧
      outcome.failures.toNat = min (claimed.failures.toNat + 1) (UInt32.size - 1)

namespace Changeset

variable {claimed outcome : Changeset} {log : List Deed} {failure : Option ReconcileError}
  {now : Time}

theorem recorded_of_settled {policy : RetryPolicy}
    (settled : (log.foldl Deed.record claimed).settled? policy failure now = some outcome) :
    claimed.Recorded log failure now outcome := by
  obtain ⟨rfl, rfl⟩ | ⟨error, retryAt, rfl, rfl⟩ := settled?_eq_some settled
  · exact ⟨rfl, by simp [place, Changeset.completed], fun failed => by cases failed⟩
  · refine ⟨rfl, by simp [place, Changeset.errored], ?_⟩
    rintro _ ⟨⟩
    have counted := congrArg (·.2.2.1) (Deed.retains_foldl claimed log).2
    refine ⟨rfl, rfl, ?_⟩
    rw [← toNat_countFailure, ← show _ = claimed.failures from counted]
    rfl

theorem Recorded.retains (recorded : claimed.Recorded log failure now outcome) :
    claimed.Retains outcome := by
  obtain ⟨identity, campaignIds, current, previous, closing, diffStat⟩ :=
    (Deed.retains_foldl claimed log).1
  rw [recorded.columns]
  exact ⟨identity, campaignIds, current, previous, closing, diffStat⟩

end Changeset

/-- What a worker has to account for after an attempt. -/
structure Reconcile.Accounted (host : Host σ) (settings : Settings) (claimed : Changeset)
    (lease : Lease) (begun : World σ) (planned : List Operation) (log : List Deed)
    (failure : Option ReconcileError) (last : Lease) (ended : World σ) (outcome : Changeset) :
    Prop where
  attempted : Attempted host settings claimed lease begun planned log failure last ended
  /-- The operations that were run are the first of the plan, in its order. -/
  ordered : log.filterMap (·.duty.operation?) <+: planned
  /-- Each but the first was run directly after its lease was renewed. -/
  guarded {operation : Operation} {deed : Deed} {before after : List Deed}
    (split : log = before ++ deed :: after) (runs : deed.duty = .run operation)
    (later : before ≠ []) :
    ∃ earlier renewal, before = earlier ++ [renewal] ∧ renewal.duty = .renewal operation ∧
      renewal.error? = none
  /-- Without a failure the whole plan was carried out. -/
  succeeded (succeeds : failure = none) :
    log.map Deed.duty = Duty.schedule planned ∧ ∀ deed ∈ log, deed.error? = none
  /-- A failure kept the attempt from making or beginning its plan, or was that of the last deed. -/
  failed {error : ReconcileError} (fails : failure = some error) :
    log = [] ∧ (begun.backend.Unplanned claimed error ∨ begun.backend.Homeless claimed error) ∨
      ∃ earlier deed, log = earlier ++ [deed] ∧ deed.error? = some error
  recorded : claimed.Recorded log failure ended.clock.now outcome

namespace Attempted

variable {host : Host σ} {settings : Settings} {claimed outcome : Changeset} {lease last : Lease}
  {begun ended : World σ} {planned : List Operation} {log : List Deed}
  {failure : Option ReconcileError}

private theorem accounted
    (attempted : Attempted host settings claimed lease begun planned log failure last ended)
    (recorded : claimed.Recorded log failure ended.clock.now outcome) :
    Reconcile.Accounted host settings claimed lease begun planned log failure last ended
      outcome := by
  have none_run {operation : Operation} {deed : Deed} {before after : List Deed} {goal : Prop}
      (split : [] = before ++ deed :: after) (_ : deed.duty = .run operation) (_ : before ≠ []) :
      goal := by
    cases before <;> cases split
  have kept := attempted
  cases attempted with
  | unplanned cause since => exact {
      attempted := kept
      ordered := List.nil_prefix
      guarded := none_run
      succeeded := nofun
      failed := by
        rintro _ ⟨⟩
        exact .inl ⟨rfl, .inl cause⟩
      recorded }
  | idle plans nothing since => exact {
      attempted := kept
      ordered := List.nil_prefix
      guarded := none_run
      succeeded _ := ⟨rfl, fun deed member => by cases member⟩
      failed := nofun
      recorded }
  | homeless plans some cause since => exact {
      attempted := kept
      ordered := List.nil_prefix
      guarded := none_run
      succeeded := nofun
      failed := by
        rintro _ ⟨⟩
        exact .inl ⟨rfl, .inr cause⟩
      recorded }
  | carried plans located since carried => exact {
      attempted := kept
      ordered := carried.ordered
      guarded := carried.guarded
      succeeded := by
        rintro rfl
        exact ⟨carried.finished rfl, carried.successes⟩
      failed := by
        rintro error rfl
        exact .inr carried.failed
      recorded }

/-- If nobody else makes calls, the store still has the changeset as it was claimed. -/
theorem awaits
    (attempted : Attempted host settings claimed lease begun planned log failure last ended)
    (discreet : host.Discreet) (awaits : begun.backend.store.Awaits claimed lease) :
    ended.backend.store.Awaits claimed last := by
  cases attempted with
  | unplanned cause since => exact since.store ▸ awaits
  | idle plans nothing since => exact since.store ▸ awaits
  | homeless plans some cause since => exact since.store ▸ awaits
  | carried plans located since carried =>
    rw [← since.store] at awaits
    exact awaits.after discreet carried.happened

end Attempted

namespace Sample

end Sample

end BatchChanges
