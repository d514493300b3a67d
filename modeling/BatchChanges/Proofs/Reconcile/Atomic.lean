import BatchChanges.Proofs.Reconcile.Execution

/-! # Operations happen as a whole

An operation first looks for what it needs, then makes its one call, and writes into the changeset
only when the call has succeeded. So an operation that fails leaves the changeset as it was, and one
that misses something does not even call the code host. How often the code host is called is told by
a host that keeps a log: whatever a code host does, it may keep one on the side.
-/

namespace BatchChanges

/-- A call to the code host and its answer. -/
inductive HostCall where
  | push (repo : Repo) (branch : BranchPush) (answer : Except HostError Unit)
  | request (repo : Repo) (asked : HostRequest) (answer : Except HostError PullRequest)

namespace HostCall

def refusal? : HostCall → Option HostError
  | push _ _ (.error error) | request _ _ (.error error) => some error
  | _ => none

def view? : HostCall → Option PullRequest
  | request _ _ (.ok view) => some view
  | _ => none

end HostCall

section Logging

variable {σ ε α : Type}

def World.unlogged (world : World (σ × List HostCall)) : World σ :=
  ⟨world.backend, world.clock, world.tokens, world.host.1⟩

/-- The world with a log of the code host. -/
def World.logged (world : World σ) (log : List HostCall) : World (σ × List HostCall) :=
  ⟨world.backend, world.clock, world.tokens, (world.host, log)⟩

/-- Notes how a call was answered; it is not if time runs out. -/
def Action.logging (entry : Except ε α → HostCall) (activity : Action σ ε α) :
    Action (σ × List HostCall) ε α := fun world =>
  match activity world.unlogged with
  | (.ok value, next) => (.ok value, next.logged (world.host.2 ++ [entry (.ok value)]))
  | (.error (.failed error), next) =>
    (.error (.failed error), next.logged (world.host.2 ++ [entry (.error error)]))
  | (.error .overflow, next) => (.error .overflow, next.logged world.host.2)

/-- The code host that does the same and keeps a log. -/
def Host.logging (host : Host σ) : Host (σ × List HostCall) where
  push repo branch := Action.logging (.push repo branch) (host.push repo branch)
  request repo asked := Action.logging (.request repo asked) (host.request repo asked)

private theorem Action.ends_logging {entry : Except ε α → HostCall} {activity : Action σ ε α}
    (outcome : Except ε α) {world next : World (σ × List HostCall)}
    (ended : Ends (logging entry activity) world (outcome.mapError .failed) next) :
    activity.Ends world.unlogged (outcome.mapError .failed) next.unlogged ∧
      next.host.2 = world.host.2 ++ [entry outcome] := by
  simp only [Ends, logging] at ended ⊢
  split at ended
  · next value after asked =>
    cases outcome <;> cases ended
    exact ⟨asked, rfl⟩
  · next error after asked =>
    cases outcome <;> cases ended
    exact ⟨asked, rfl⟩
  · cases outcome <;> cases ended

end Logging

namespace Operation

/-- What an operation may write into a changeset, after the code host said how the pull request
stands. -/
structure Writes (operation : Operation) (views : List PullRequest) (row outcome : Changeset) :
    Prop where
  columns : outcome = { row with
    externalId := outcome.externalId, externalBranch := outcome.externalBranch
    externalState := outcome.externalState, externalTitle := outcome.externalTitle
    externalUpdatedAt := outcome.externalUpdatedAt, diffStat := outcome.diffStat
    publication := outcome.publication, unsynced := outcome.unsynced, closing := outcome.closing }
  publication : outcome.publication = row.publication ∨
    (operation = .publish ∨ operation = .publishDraft) ∧ outcome.publication = .published
  unsynced : outcome.unsynced = row.unsynced ∨ operation = .sync ∧ outcome.unsynced = false
  closing : outcome.closing = row.closing ∨ operation = .close ∧ outcome.closing = false
  diffStat : outcome.diffStat = row.diffStat ∨
    ∃ view ∈ views, view.diffStat ≠ none ∧ outcome.diffStat = view.diffStat

/-- Why an operation may fail, and which calls were made until then. -/
inductive Fails (operation : Operation) (push : Option BranchPush) (row : Changeset) :
    ReconcileError → List HostCall → Prop
  | missesPush (absent : push = none) :
      Fails operation push row (.missingBranchPush row.id operation) []
  | missesExternalId (absent : row.externalId = none) :
      Fails operation push row (.missingExternalId row.id operation) []
  | refused {call : HostCall} {error : HostError} (refuses : call.refusal? = some error) :
      Fails operation push row (.host operation error) [call]

/-- An operation happens as a whole or not at all: it calls the code host at most once, and unless
the call was refused or was not even made it writes what it may. -/
structure Atomic (operation : Operation) (push : Option BranchPush) (row : Changeset)
    (calls : List HostCall) (failure : Option ReconcileError) (outcome : Changeset) : Prop where
  once : calls.length ≤ 1
  fails : ∀ error, failure = some error → operation.Fails push row error calls ∧ outcome = row
  succeeds : failure = none → (∀ call ∈ calls, call.refusal? = none) ∧
    operation.Writes (calls.filterMap HostCall.view?) row outcome

variable {operation : Operation} {push : Option BranchPush} {row : Changeset}

private theorem writes_mark (operation : Operation) (views : List PullRequest) (row : Changeset) :
    operation.Writes views row (operation.mark row) := by
  cases operation with
  | publish => exact ⟨rfl, .inr ⟨.inl rfl, rfl⟩, .inl rfl, .inl rfl, .inl rfl⟩
  | publishDraft => exact ⟨rfl, .inr ⟨.inr rfl, rfl⟩, .inl rfl, .inl rfl, .inl rfl⟩
  | sync => exact ⟨rfl, .inl rfl, .inr ⟨rfl, rfl⟩, .inl rfl, .inl rfl⟩
  | close => exact ⟨rfl, .inl rfl, .inl rfl, .inr ⟨rfl, rfl⟩, .inl rfl⟩
  | _ => exact ⟨rfl, .inl rfl, .inl rfl, .inl rfl, .inl rfl⟩

/-- An operation that needs no call writes what it marks. -/
theorem atomic_mark (operation : Operation) (push : Option BranchPush) (row : Changeset) :
    operation.Atomic push row [] none (operation.mark row) :=
  ⟨Nat.zero_le 1, nofun, fun _ => ⟨List.forall_mem_nil _, operation.writes_mark [] row⟩⟩

private theorem writes_pushed (operation : Operation) (views : List PullRequest)
    (branch : BranchPush) (row : Changeset) : operation.Writes views row (pushed branch row) :=
  ⟨rfl, .inl rfl, .inl rfl, .inl rfl, .inl rfl⟩

private theorem writes_answered (operation : Operation) (view : PullRequest) (row : Changeset) :
    operation.Writes [view] row (operation.answered view row) := by
  have marked := operation.writes_mark [] (row.withHostView view)
  have kept : (operation.answered view row).diffStat = (view.diffStat <|> row.diffStat) := by
    obtain kept | ⟨_, none, _⟩ := marked.diffStat
    · exact kept
    · cases none
  refine ⟨marked.columns, marked.publication, marked.unsynced, marked.closing, ?_⟩
  cases given : view.diffStat with
  | none =>
    left
    rw [kept, given]
    rfl
  | some stat =>
    exact .inr ⟨view, List.mem_singleton_self view, by simp [given], by simp [kept, given]⟩

private theorem requirePush_bind_error {α : Type} {rest : BranchPush → Except ReconcileError α}
    {error : ReconcileError} :
    (operation.requirePush push row >>= rest) = .error error ↔
      push = none ∧ .missingBranchPush row.id operation = error ∨
        ∃ branch, push = some branch ∧ rest branch = .error error := by
  cases push <;> simp [requirePush, bind, Except.bind]

private theorem requireExternalId_bind_error {α : Type} {rest : String → Except ReconcileError α}
    {error : ReconcileError} :
    (operation.requireExternalId row >>= rest) = .error error ↔
      row.externalId = none ∧ .missingExternalId row.id operation = error ∨
        ∃ externalId, row.externalId = some externalId ∧ rest externalId = .error error := by
  simp only [requireExternalId]
  cases row.externalId <;> simp [bind, Except.bind]

/-- An operation that cannot begin misses something that it needs. -/
theorem fails_of_effect {error : ReconcileError}
    (misses : operation.effect push row = .error error) : operation.Fails push row error [] := by
  cases operation with
  | push | publish | publishDraft =>
    obtain ⟨absent, rfl⟩ | ⟨_, _, acts⟩ := requirePush_bind_error.mp misses
    · exact .missesPush absent
    · cases acts
  | update =>
    obtain ⟨absent, rfl⟩ | ⟨_, _, acts⟩ := requirePush_bind_error.mp misses
    · exact .missesPush absent
    · obtain ⟨absent, rfl⟩ | ⟨_, _, acts⟩ := requireExternalId_bind_error.mp acts
      · exact .missesExternalId absent
      · cases acts
  | undraft | sync | reopen =>
    obtain ⟨absent, rfl⟩ | ⟨_, _, acts⟩ := requireExternalId_bind_error.mp misses
    · exact .missesExternalId absent
    · cases acts
  | sleep | close => cases misses

end Operation

namespace Reconcile

variable {σ : Type} {host : Host σ} {settings : Settings} {operation : Operation} {repo : Repo}
  {push : Option BranchPush} {row : Changeset}

private theorem atomic_of_ends {world next : World (σ × List HostCall)} {deed : Deed}
    (runs : deed.duty = .run operation)
    (ended : operation.Ends host.logging settings repo push row world deed.result next) :
    ∃ calls, next.host.2 = world.host.2 ++ calls ∧
      operation.Atomic push row calls deed.error? (deed.record row) := by
  obtain ⟨duty, result⟩ := deed
  cases runs
  cases ended with
  | unfit misses =>
    exact ⟨[], (List.append_nil _).symm, Nat.zero_le 1,
      fun error told => ⟨Option.some.inj told ▸ Operation.fails_of_effect misses, rfl⟩, nofun⟩
  | idle rests => exact ⟨[], (List.append_nil _).symm, operation.atomic_mark push row⟩
  | @pushed branch next acts asked =>
    have noted := (Action.ends_logging (.ok ()) asked).2
    cases Operation.performs_of_effect acts
    exact ⟨_, noted, Nat.le_refl 1, nofun,
      fun _ => ⟨by simp [HostCall.refusal?], Operation.writes_pushed .push _ branch row⟩⟩
  | @unpushed branch error next acts asked =>
    have noted := (Action.ends_logging (.error error) asked).2
    exact ⟨_, noted, Nat.le_refl 1,
      fun _ told => ⟨Option.some.inj told ▸ .refused rfl, rfl⟩, nofun⟩
  | @told request view next acts asked =>
    have noted := (Action.ends_logging (.ok view) asked).2
    exact ⟨_, noted, Nat.le_refl 1, nofun,
      fun _ => ⟨by simp [HostCall.refusal?], operation.writes_answered view row⟩⟩
  | @refused request error next acts asked =>
    have noted := (Action.ends_logging (.error error) asked).2
    exact ⟨_, noted, Nat.le_refl 1,
      fun _ told => ⟨Option.some.inj told ▸ .refused rfl, rfl⟩, nofun⟩
  | slept acts waited =>
    have stays := (Action.sleep_eq world settings.sleepAfterPush).symm.trans waited
    split at stays <;> cases stays
    exact ⟨[], (List.append_nil _).symm, operation.atomic_mark push row⟩

/-- Only an operation that sleeps depends on the length of the pause. -/
theorem execute_eq_of_ne (awake : operation ≠ .sleep) (pause other : Duration) :
    (execute host pause operation repo push row :
        Action σ ReconcileError (Option ReconcileError × Changeset)) =
      execute host other operation repo push row := by
  simp only [execute]
  cases sought : operation.effect push row with
  | error error => rfl
  | ok effect =>
    cases effect with
    | none => rfl
    | some effect =>
      cases Operation.performs_of_effect sought with
      | sleep => exact absurd rfl awake
      | _ => rfl

/-- Whatever a code host answers and does in between, an operation fails without a trace in the
changeset or writes only what is its own to write; it calls the code host at most once, and not at
all if it misses something. -/
theorem execute_atomic (host : Host σ) (pause : Duration) (operation : Operation) (repo : Repo)
    (push : Option BranchPush) (row : Changeset) {world next : World (σ × List HostCall)}
    {result : Except (Interrupt ReconcileError) (Option ReconcileError × Changeset)}
    (ran : Action.Ends (execute host.logging pause operation repo push row) world result next)
    (timely : result ≠ .error .overflow) :
    ∃ failure outcome calls, result = .ok (failure, outcome) ∧
      next.host.2 = world.host.2 ++ calls ∧
      operation.Atomic push row calls failure outcome := by
  by_cases rests : operation = .sleep
  · subst rests
    obtain ⟨⟨⟩, middle, waited, goes⟩ | ⟨interrupt, rfl, failed⟩ := Action.ends_bind.mp ran
    · have slept := (Action.sleep_eq world pause).symm.trans waited
      split at slept <;> cases slept
      obtain ⟨rfl, rfl⟩ := Action.ends_pure.mp goes
      exact ⟨none, row, [], rfl, (List.append_nil _).symm, Operation.atomic_mark .sleep push row⟩
    · have slept := (Action.sleep_eq world pause).symm.trans failed
      split at slept <;> cases slept
      exact absurd rfl timely
  · rw [execute_eq_of_ne rests pause (Settings.sleepAfterPush {})] at ran
    obtain ⟨deed, runs, ended, told⟩ := ends_of_execute ran timely
    obtain ⟨calls, noted, atomic⟩ := atomic_of_ends runs ended
    exact ⟨deed.error?, deed.record row, calls, told, noted, atomic⟩

namespace Sample

/-- A pull request of which a first campaign knows nothing but the number. -/
def unloaded : Changeset where
  id := ⟨7⟩
  repoId := ⟨1⟩
  codeHost := .github
  externalId := some "101"
  publication := .published
  unsynced := true
  createdAt := .epoch
  updatedAt := .epoch

def measured : PullRequest where
  externalId := "101"
  branch := "tidy"
  state := .opened
  title := "Tidy"
  diffStat := some { added := 2, changed := 1, deleted := 0 }
  updatedAt := .epoch

/-- A code host that knows one pull request. -/
def oneView : Host Unit where
  push _ _ := pure ()
  request _ _ := pure measured

def unlogged : World (Unit × List HostCall) where
  clock := { now := .epoch }
  host := ((), [])

end Sample

open Sample in
/-- Loading a pull request takes one call and writes the statistics of its diff. -/
theorem execute_atomic_sync :
    (execute oneView.logging ⟨0⟩ .sync ⟨⟨1⟩, "tools", .github⟩ none unloaded unlogged :
        Except (Interrupt ReconcileError) (Option ReconcileError × Changeset) × World _).1 =
      .ok (none, Operation.sync.answered measured unloaded) ∧
    Operation.sync.Atomic none unloaded
      [.request ⟨⟨1⟩, "tools", .github⟩ (.load "101") (.ok measured)] none
      (Operation.sync.answered measured unloaded) := by
  refine ⟨rfl, ?_⟩
  obtain ⟨failure, outcome, calls, same, noted, atomic⟩ := execute_atomic oneView ⟨0⟩ .sync
    ⟨⟨1⟩, "tools", .github⟩ none unloaded (Action.ends_self _ unlogged) (by nofun)
  cases same
  cases noted
  exact atomic

end Reconcile

end BatchChanges
