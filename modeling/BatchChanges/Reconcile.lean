import BatchChanges.Reconcile.Outcome
import BatchChanges.World

/-! # Reconciling

A worker claims the next changeset, makes its attempt and writes the outcome back under the lease.
A failure of the attempt is kept in the changeset; only a store that fails at the claim or at the
write-back fails the worker. Housekeeping puts failed changesets back into the queue when they are
due, and drops leases that have ended.
-/

namespace BatchChanges

/-- What an attempt did. -/
structure AttemptReport where
  changesetId : ChangesetId
  /-- The planned operations; none if there was no plan. -/
  operations : List Operation
  state : QueueState
  failureMessage : Option String
  /-- The time of the next attempt. -/
  retryAt : Option Time
  /-- What became of the write-back. -/
  writeBack : Verdict
deriving DecidableEq

namespace Reconcile

variable {σ ε : Type}

def act (host : Host σ) (pause : Duration) (repo : Repo) :
    (effect : Effect) → Action σ ε (effect.question repo).Answer
  | .push branch => Action.attempt (host.push repo branch)
  | .request asked => Action.attempt (host.request repo asked)
  | .pause => Action.sleep pause

/-- Runs one operation on a changeset, by itself. It may fail; the changeset afterwards is part of
the result either way. -/
def execute (host : Host σ) (pause : Duration) (operation : Operation) (repo : Repo)
    (push : Option BranchPush) (row : Changeset) :
    Action σ ε (Option ReconcileError × Changeset) := do
  match operation.effect push row with
  | .error failure => return (some failure, row)
  | .ok none => return (none, operation.mark row)
  | .ok (some effect) =>
    match operation.absorb repo effect row (← act host pause repo effect) with
    | .error failure => return (some failure, row)
    | .ok row => return (none, row)

def run (host : Host σ) (settings : Settings) (attempt : Attempt) :
    Action σ ε (Attempt × Option ReconcileError) :=
  match _asked : attempt.next with
  | .settled failure => pure (attempt, failure)
  | .ask question resume => do
    let answer ← Action.answer host settings question
    run host settings (resume answer)
termination_by attempt.rank
decreasing_by exact Attempt.rank_resume_lt _asked answer

/-- An attempt that has settled is done; any other one asks and goes on. -/
theorem run_eq (host : Host σ) (settings : Settings) (attempt : Attempt) :
    (run host settings attempt : Action σ ε (Attempt × Option ReconcileError)) =
      match attempt.next with
      | .settled failure => pure (attempt, failure)
      | .ask question resume =>
        Action.answer host settings question >>= fun answer =>
          run host settings (resume answer) := by
  rw [run]
  split
  · next told => simp only [told]
  · next told => simp only [told]

def conclude (policy : RetryPolicy) (attempt : Attempt) (failure : Option ReconcileError) :
    Action σ ReconcileError AttemptReport := do
  match attempt.row.settled? policy failure (← Action.now) with
  | none => Action.overflow
  | some outcome =>
    let writeBack ← Action.wrapping .store (Action.access (Access.finish attempt.lease outcome))
    return {
      changesetId := outcome.id
      operations := attempt.planned
      state := outcome.queueState
      failureMessage := outcome.failureMessage
      retryAt := outcome.processAfter
      writeBack }

/-- Reconciles the next changeset; there may be none that is due. -/
def next (host : Host σ) (settings : Settings) (worker : String) :
    Action σ ReconcileError (Option AttemptReport) := do
  let claim ← Action.wrapping .store
    (Action.claim worker (← Action.now) settings.leaseDuration)
  match claim with
  | none => return none
  | some (row, lease) =>
    let (attempt, failure) ← run host settings (.start row lease)
    return some (← conclude settings.retry attempt failure)

/-- Reconciles one changeset after the other until none is due, at most `limit` of them. -/
def drain (host : Host σ) (settings : Settings) (worker : String) :
    Nat → Action σ ReconcileError (List AttemptReport)
  | 0 => pure []
  | limit + 1 => do
    match ← next host settings worker with
    | none => return []
    | some report => return report :: (← drain host settings worker limit)

/-- Puts due changesets back into the queue and drops leases that have ended; counts both. -/
def housekeeping (settings : Settings) : Action σ ReconcileError (Nat × Nat) := do
  let now ← Action.now
  let requeued ← Action.wrapping .store
    (Action.access (Access.requeueDue now settings.retry.maxAttempts))
  let reclaimed ← Action.wrapping .store (Action.access (Access.resetExpired now))
  return (requeued, reclaimed)

def workers (settings : Settings) : Nat := max 1 settings.workers.toNat

/-- Lets one worker after the other drain the queue. A worker that is interrupted stops. -/
def shift (host : Host σ) (settings : Settings) (limit : Nat) (world : World σ) : World σ :=
  (workers settings).fold (fun number _ world =>
    let name := "worker-" ++ String.ofList (Text.Decimal.digits number)
    (drain host settings name limit world).2) world

/-- Housekeeping and a shift, at each of a number of polls. -/
def polls (host : Host σ) (settings : Settings) (limit : Nat) : Nat → World σ → World σ
  | 0, world => world
  | number + 1, world =>
    polls host settings limit number
      (shift host settings limit (housekeeping settings world).2)

/-- Runs the pool for some time, polling at every interval. A worker makes at most `limit` attempts
before it rests. -/
def pool (host : Host σ) (settings : Settings) (limit milliseconds : Nat) (world : World σ) :
    World σ :=
  polls host settings limit (milliseconds / settings.pollMilliseconds.toNat)
    (shift host settings limit world)

end Reconcile

end BatchChanges
