import BatchChanges.Proofs.Access
import BatchChanges.Reconcile

/-! # Activities in the world, taken apart

What workers do to the backend they do as activities on it, in a world that otherwise stays as it
is. Their work is taken apart into the questions that they ask: nothing but the end of the calendar
keeps a question from being answered.
-/

namespace BatchChanges

namespace Action

variable {σ ε δ α : Type} {backend : Backend}

/-- Calls that may leave the calendar go to the backend of the world. -/
theorem timedAccess_of_ends (world : World σ) {activity : Access (Interrupt ε) α}
    {result : Except (Interrupt ε) α} (ended : Access.Ends activity world.backend result backend) :
    @Eq (Except (Interrupt ε) α × World σ) (timedAccess activity world)
      (result, { world with backend }) := by
  simp only [timedAccess, Access.Ends] at ended ⊢
  rw [ended]

/-- So do all other calls. -/
theorem access_of_ends (world : World σ) {activity : Access ε α} {result : Except ε α}
    (ended : Access.Ends activity world.backend result backend) :
    @Eq (Except (Interrupt ε) α × World σ) (access activity world)
      (result.mapError .failed, { world with backend }) := by
  simp only [access, Access.Ends] at ended ⊢
  rw [ended]
  cases result <;> rfl

/-- Whatever its failures are reported as. -/
theorem wrapping_access_of_ends (wrap : δ → ε) (world : World σ) {activity : Access δ α}
    {result : Except δ α} (ended : Access.Ends activity world.backend result backend) :
    @Eq (Except (Interrupt ε) α × World σ) (wrapping wrap (access activity) world)
      (result.mapError (.failed ∘ wrap), { world with backend }) := by
  simp only [wrapping]
  rw [access_of_ends world ended]
  cases result <;> rfl

theorem attempt_access_of_ends (world : World σ) {activity : Access δ α}
    {result : Except δ α} (ended : Access.Ends activity world.backend result backend) :
    @Eq (Except (Interrupt ε) (Except δ α) × World σ) (attempt (access activity) world)
      (.ok result, { world with backend }) := by
  simp only [attempt]
  rw [access_of_ends world ended]
  cases result <;> rfl

/-- An outcome that is caught; the end of the calendar is not. -/
def caught : Except (Interrupt δ) α → Except (Interrupt ε) (Except δ α)
  | .ok result => .ok (.ok result)
  | .error (.failed error) => .ok (.error error)
  | .error .overflow => .error .overflow

theorem attempt_timedAccess_of_ends (world : World σ) {activity : Access (Interrupt δ) α}
    {result : Except (Interrupt δ) α} (ended : Access.Ends activity world.backend result backend) :
    @Eq (Except (Interrupt ε) (Except δ α) × World σ) (attempt (timedAccess activity) world)
      (caught result, { world with backend }) := by
  simp only [attempt]
  rw [timedAccess_of_ends world ended]
  rcases result with (_ | _) | _ <;> rfl

/-- The time now is the one of the clock. -/
theorem now_bind (rest : Time → Action σ ε α) (world : World σ) :
    @Eq (Except (Interrupt ε) α × World σ) ((now >>= rest) world) (rest world.clock.now world) :=
  rfl

/-- A lease is renewed from now on. -/
theorem answer_renewal (host : Host σ) (settings : Settings) (lease : Lease)
    (world : World σ) :
    @Eq (Except (Interrupt ε) (Except StoreError (Verdict × Lease)) × World σ)
      (answer host settings (.renewal lease) world)
      (attempt (timedAccess (Access.renew lease world.clock.now settings.leaseDuration))
        world) := by
  simp only [answer, attempt]
  rw [now_bind]

/-- Whoever sleeps moves the clock, unless the calendar ends. -/
theorem sleep_eq (world : World σ) (duration : Duration) :
    @Eq (Except (Interrupt ε) Unit × World σ) (sleep duration world)
      (match (world.clock.noting duration).advance? duration with
        | some clock => (.ok (), { world with clock })
        | none => (.error .overflow, { world with clock := world.clock.noting duration })) := by
  simp only [sleep, bind, ExceptT.bind, ExceptT.mk, StateT.bind, change, ExceptT.bindCont, advance]
  rfl

/-- An activity ends with a result and leaves a world behind. -/
def Ends (activity : Action σ ε α) (world : World σ) (result : Except (Interrupt ε) α)
    (next : World σ) : Prop :=
  @Eq (Except (Interrupt ε) α × World σ) (activity world) (result, next)

variable {β : Type} {world next : World σ}

/-- Every activity ends. -/
theorem ends_self (activity : Action σ ε α) (world : World σ) :
    Ends activity world (activity world).1 (activity world).2 := rfl

theorem ends_pure {given : α} {result : Except (Interrupt ε) α} :
    Ends (pure given) world result next ↔ .ok given = result ∧ world = next := by
  change ((.ok given : Except (Interrupt ε) α), world) = (result, next) ↔ _
  rw [Prod.mk.injEq]

/-- Reporting failures as others changes nothing else. -/
theorem ends_wrapping_ok {wrap : δ → ε} {activity : Action σ δ α} {value : α} :
    Ends (wrapping wrap activity) world (.ok value) next ↔
      Ends activity world (.ok value) next := by
  simp only [Ends, wrapping]
  rcases (activity world : Except (Interrupt δ) α × World σ) with ⟨interrupt | value, middle⟩ <;>
    simp

theorem ends_wrapping_error {wrap : δ → ε} {activity : Action σ δ α} {interrupt : Interrupt ε} :
    Ends (wrapping wrap activity) world (.error interrupt) next ↔
      ∃ cause : Interrupt δ, cause.map wrap = interrupt ∧
        Ends activity world (.error cause) next := by
  simp only [Ends, wrapping]
  rcases (activity world : Except (Interrupt δ) α × World σ) with ⟨cause | value, middle⟩ <;> simp

/-- Two activities in a row end with the second one, or with the interruption of the first one. -/
theorem ends_bind {first : Action σ ε α} {second : α → Action σ ε β}
    {result : Except (Interrupt ε) β} :
    Ends (first >>= second) world result next ↔
      (∃ value middle, Ends first world (.ok value) middle ∧
        Ends (second value) middle result next) ∨
      ∃ interrupt, result = .error interrupt ∧ Ends first world (.error interrupt) next := by
  simp only [Ends, bind, ExceptT.bind, ExceptT.mk, StateT.bind]
  rcases (first world : Except (Interrupt ε) α × World σ) with ⟨interrupt | value, middle⟩
  · change ((.error interrupt : Except (Interrupt ε) β), middle) = (result, next) ↔ _
    simp [eq_comm]
  · change second value middle = (result, next) ↔ _
    simp

/-- Going on after an activity tells how it ended, unless the calendar ends. -/
theorem ends_attempt {activity : Action σ δ α} {outcome : Except δ α} :
    Ends (attempt activity : Action σ ε (Except δ α)) world (.ok outcome) next ↔
      Ends activity world (outcome.mapError .failed) next := by
  simp only [Ends, attempt]
  rcases (activity world : Except (Interrupt δ) α × World σ) with ⟨(error | _) | value, middle⟩ <;>
    cases outcome <;> simp [Except.mapError]

/-- Calls that may leave the calendar change nothing but the backend. -/
theorem ends_timedAccess {activity : Access (Interrupt ε) α} {result : Except (Interrupt ε) α} :
    Ends (timedAccess activity) world result next ↔
      ∃ backend, Access.Ends activity world.backend result backend ∧
        next = { world with backend } := by
  have ended := Access.ends_self activity world.backend
  rw [Ends, timedAccess_of_ends world ended, Prod.mk.injEq]
  constructor
  · rintro ⟨rfl, rfl⟩
    exact ⟨_, ended, rfl⟩
  · rintro ⟨backend, same, rfl⟩
    cases ended.symm.trans same
    exact ⟨rfl, rfl⟩

/-- Claims give tokens out. -/
theorem ends_claim {worker : String} {time : Time} {length : Duration}
    {result : Except (Interrupt StoreError) (Option (Changeset × Lease))} :
    Ends (claim worker time length) world result next ↔
      ∃ backend, Access.Ends (Access.leaseNext worker (leaseToken world.tokens) time length)
          world.backend result backend ∧
        next = { world with backend, tokens := world.tokens + 1 } := by
  change Ends (timedAccess (Access.leaseNext worker (leaseToken world.tokens) time length))
    { world with tokens := world.tokens + 1 } result next ↔ _
  exact ends_timedAccess

/-- Nothing but the end of the calendar keeps a question from being answered. -/
theorem interrupt_of_answer {host : Host σ} {settings : Settings} {question : Question}
    {interrupt : Interrupt ε}
    (ended : Ends (answer host settings question) world (.error interrupt) next) :
    interrupt = .overflow := by
  have caught : ∀ {δ α : Type} {activity : Action σ δ α},
      Ends (attempt activity) world (.error interrupt) next → interrupt = .overflow := by
    intro δ α activity ended
    simp only [Ends, attempt] at ended
    split at ended <;> cases ended
    rfl
  cases question with
  | changesetSpec id => exact caught ended
  | repo id => exact caught ended
  | renewal lease => exact caught ended
  | push repo branch => exact caught ended
  | request repo asked => exact caught ended
  | pause =>
    have slept := (sleep_eq world settings.sleepAfterPush).symm.trans ended
    split at slept <;> cases slept
    rfl

end Action

/-- A conclusion writes the outcome back, unless the calendar ends. -/
theorem Reconcile.conclude_world {σ : Type} (policy : RetryPolicy) (attempt : Attempt)
    (failure : Option ReconcileError) (world : World σ) :
    (Reconcile.conclude policy attempt failure world).2 =
      match attempt.row.settled? policy failure world.clock.now with
      | none => world
      | some outcome =>
        { world with backend := (Access.finish attempt.lease outcome world.backend).2 } := by
  simp only [Reconcile.conclude]
  rw [Action.now_bind]
  cases attempt.row.settled? policy failure world.clock.now with
  | none => rfl
  | some outcome =>
    have ended := Action.access_of_ends world
      (Access.ends_self (Access.finish attempt.lease outcome) world.backend)
    simp only [bind, ExceptT.bind, ExceptT.mk, StateT.bind, Action.wrapping]
    rw [ended]
    cases (Access.finish attempt.lease outcome world.backend).1 <;> rfl

end BatchChanges
