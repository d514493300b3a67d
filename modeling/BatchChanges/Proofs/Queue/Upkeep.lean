import BatchChanges.Proofs.Action
import BatchChanges.Proofs.Queue.Effect

/-! # Housekeeping, in any order and as often as one likes

Two chores keep the queue going: failed changesets that are due go back into it, and leases that
have ended are dropped, while the changesets under them are given back. One chore puts a row back
only if it has failed, the other only if it is being processed, and a row that was put back is
neither. So what is left behind depends on which chores were made at some time, and not on how often
or in which order; of each kind only the first one has anything to do.
-/

namespace BatchChanges

/-- A changeset has failed, less often than it may, and the time of its next attempt has come. -/
structure Changeset.AwaitsRetry (row : Changeset) (now : Time) (maxAttempts : UInt32) : Prop where
  errored : row.queueState = .errored
  due : ∃ time, row.processAfter = some time ∧ time ≤ now
  limited : row.failures < maxAttempts

private theorem Changeset.isRetryDue_iff {row : Changeset} {now : Time} {maxAttempts : UInt32} :
    row.isRetryDue now maxAttempts = true ↔ row.AwaitsRetry now maxAttempts := by
  simp only [isRetryDue, Bool.and_eq_true, beq_iff_eq, Option.any_eq_true, decide_eq_true_eq]
  constructor
  · rintro ⟨⟨errored, due⟩, limited⟩
    exact ⟨errored, due, limited⟩
  · rintro ⟨errored, due, limited⟩
    exact ⟨⟨errored, due⟩, limited⟩

def Changeset.enqueued (row : Changeset) : Changeset := { row with queueState := .queued }

@[simp] theorem Changeset.isRetryDue_enqueued (row : Changeset) (now : Time)
    (maxAttempts : UInt32) : row.enqueued.isRetryDue now maxAttempts = false := rfl

/-- A row that is elsewhere in the queue is changed by being put back. -/
theorem Changeset.enqueued_ne {row : Changeset} (elsewhere : row.queueState ≠ .queued) :
    row.enqueued ≠ row :=
  fun same => elsewhere (congrArg (·.queueState) same.symm)

private theorem Changeset.released_eq (row : Changeset) :
    row.released = if row.queueState = .processing then row.enqueued else row := rfl

@[simp] theorem Changeset.released_enqueued (row : Changeset) :
    row.enqueued.released = row.enqueued := rfl

/-- A changeset is being processed under a lease that has ended. -/
structure Store.LeftBehind (store : Store) (now : Time) (id : ChangesetId) (row : Changeset) :
    Prop where
  processing : row.queueState = .processing
  ended : ∃ record, store.leases.find? id = some record ∧ record.lease.expiresAt ≤ now

/-- The chores of housekeeping. -/
inductive Chore where
  /-- Failed changesets that are due go back into the queue. -/
  | requeue
  /-- Leases that have ended are dropped. -/
  | reset
deriving DecidableEq

namespace Chore

variable (now : Time) (maxAttempts : UInt32)

/-- Makes a chore, and counts. -/
def perform : Chore → Store → Nat × Store
  | requeue, store => store.requeueDue now maxAttempts
  | reset, store => store.resetExpired now

/-- Makes chores one after the other, all of them at the same time. -/
def performAll (chores : List Chore) (store : Store) : Store :=
  chores.foldl (fun store chore => (chore.perform now maxAttempts store).2) store

/-- Whether a chore puts the row with this number back into the queue. -/
def concerns (store : Store) (id : ChangesetId) (row : Changeset) : Chore → Bool
  | requeue => row.isRetryDue now maxAttempts
  | reset => row.queueState == .processing &&
      (store.leases.find? id).any (·.lease.isExpired now)

variable {now maxAttempts}

private theorem reset_concerns_iff {store : Store} {id : ChangesetId} {row : Changeset} :
    reset.concerns now maxAttempts store id row = true ↔ store.LeftBehind now id row := by
  simp only [concerns, Bool.and_eq_true, beq_iff_eq, Option.any_eq_true, Lease.isExpired,
    decide_eq_true_eq]
  constructor
  · rintro ⟨processing, ended⟩
    exact ⟨processing, ended⟩
  · rintro ⟨processing, ended⟩
    exact ⟨processing, ended⟩

private theorem any_concerns_iff {store : Store} {id : ChangesetId} {row : Changeset}
    {made : List Chore} :
    made.any (·.concerns now maxAttempts store id row) = true ↔
      requeue ∈ made ∧ row.AwaitsRetry now maxAttempts ∨
        reset ∈ made ∧ store.LeftBehind now id row := by
  rw [← reset_concerns_iff, ← Changeset.isRetryDue_iff, List.any_eq_true]
  constructor
  · rintro ⟨chore, member, concerned⟩
    cases chore with
    | requeue => exact .inl ⟨member, concerned⟩
    | reset => exact .inr ⟨member, concerned⟩
  · rintro (⟨member, concerned⟩ | ⟨member, concerned⟩)
    · exact ⟨requeue, member, concerned⟩
    · exact ⟨reset, member, concerned⟩

end Chore

namespace Store

variable (store : Store) (now : Time) (maxAttempts : UInt32)

/-- The store after chores that were made at some time. -/
def tended (made : List Chore) : Store :=
  { store with
    changesets := store.changesets.mapWithId fun id row =>
      if made.any (·.concerns now maxAttempts store id row) then row.enqueued else row
    leases := store.leases.filter fun _ record =>
      !(decide (.reset ∈ made) && record.lease.isExpired now) }

variable {store now maxAttempts}

private theorem find?_tended (made : List Chore) (id : ChangesetId) :
    (store.tended now maxAttempts made).changesets.find? id =
      (store.changesets.find? id).map fun row =>
        if made.any (·.concerns now maxAttempts store id row) then row.enqueued else row :=
  Table.find?_mapWithId _ _ _

private theorem find?_leases_tended (made : List Chore) (id : ChangesetId) :
    (store.tended now maxAttempts made).leases.find? id =
      (store.leases.find? id).filter fun record =>
        !(decide (.reset ∈ made) && record.lease.isExpired now) :=
  Table.find?_filter _ _ _

@[simp] theorem tended_nil : store.tended now maxAttempts [] = store := by
  refine ext_queue rfl (fun id => ?_) fun id => ?_
  · simp [find?_tended]
  · rw [find?_leases_tended]
    cases store.leases.find? id <;> rfl

/-- It does not matter in which order or how often chores were made. -/
theorem tended_congr {made others : List Chore} (same : ∀ chore, chore ∈ made ↔ chore ∈ others) :
    store.tended now maxAttempts made = store.tended now maxAttempts others := by
  have concerned : ∀ id row, made.any (·.concerns now maxAttempts store id row) =
      others.any (·.concerns now maxAttempts store id row) := by
    intro id row
    rw [Bool.eq_iff_iff, Chore.any_concerns_iff, Chore.any_concerns_iff, same, same]
  simp only [tended, concerned, same]

private theorem isRetryDue_tended (id : ChangesetId) (row : Changeset) (made : List Chore) :
    (if made.any (·.concerns now maxAttempts store id row)
      then row.enqueued else row).isRetryDue now maxAttempts =
      (!decide (.requeue ∈ made) && row.isRetryDue now maxAttempts) := by
  cases due : row.isRetryDue now maxAttempts with
  | false => split <;> simp [due]
  | true =>
    have awaits := Changeset.isRetryDue_iff.mp due
    have free : ¬ store.LeftBehind now id row := fun left => by
      have := left.processing.symm.trans awaits.errored
      cases this
    rw [apply_ite (Changeset.isRetryDue · now maxAttempts), due, Changeset.isRetryDue_enqueued]
    by_cases member : Chore.requeue ∈ made
    · rw [if_pos (Chore.any_concerns_iff.mpr (.inl ⟨member, awaits⟩))]
      simp [member]
    · rw [if_neg fun concerned => by simpa [member, free] using Chore.any_concerns_iff.mp concerned]
      simp [member]

private theorem any_isExpired_tended (id : ChangesetId) (made : List Chore) :
    ((store.tended now maxAttempts made).leases.find? id).any (·.lease.isExpired now) =
      (!decide (.reset ∈ made) && (store.leases.find? id).any (·.lease.isExpired now)) := by
  rw [find?_leases_tended]
  cases store.leases.find? id with
  | none => simp
  | some record =>
    by_cases member : Chore.reset ∈ made <;>
      cases ended : record.lease.isExpired now <;> simp [Option.filter, member, ended]

private theorem find?_requeueDue (store : Store) (now : Time) (maxAttempts : UInt32)
    (id : ChangesetId) :
    (store.requeueDue now maxAttempts).2.changesets.find? id =
      (store.changesets.find? id).map fun row =>
        if row.isRetryDue now maxAttempts then row.enqueued else row :=
  find?_updateWhere _ _ _ _

private theorem requeueDue_tended (made : List Chore) :
    ((store.tended now maxAttempts made).requeueDue now maxAttempts).2 =
      store.tended now maxAttempts (.requeue :: made) := by
  apply ext_queue
  · rfl
  · intro id
    rw [find?_tended, find?_requeueDue, find?_tended, Option.map_map]
    congr 1
    funext row
    rw [Function.comp_apply, List.any_cons, Chore.concerns]
    by_cases concerned : made.any (·.concerns now maxAttempts store id row) = true
    · simp only [Changeset.isRetryDue_enqueued, concerned, Bool.or_true,
        if_true, Bool.false_eq_true, if_false]
    · simp only [concerned, Bool.or_false, Bool.false_eq_true, if_false]
  · intro id
    rw [find?_leases_tended, leases_requeueDue, find?_leases_tended]
    simp only [List.mem_cons, reduceCtorEq, false_or]

private theorem resetExpired_tended (made : List Chore) :
    ((store.tended now maxAttempts made).resetExpired now).2 =
      store.tended now maxAttempts (.reset :: made) := by
  apply ext_queue
  · rfl
  · intro id
    rw [find?_tended, find?_resetExpired, find?_tended, any_isExpired_tended, Option.map_map]
    congr 1
    funext row
    rw [Function.comp_apply, List.any_cons]
    by_cases concerned : made.any (·.concerns now maxAttempts store id row) = true
    · simp only [concerned, Changeset.released_enqueued, Bool.or_true, if_true, ite_self]
    · simp only [concerned, Bool.or_false, Bool.false_eq_true, if_false]
      by_cases member : Chore.reset ∈ made
      · -- The chore has been made before, so that it is not about this row.
        have spared : Chore.reset.concerns now maxAttempts store id row = false := by
          by_contra about
          exact concerned (List.any_eq_true.mpr ⟨_, member, Bool.not_eq_false _ ▸ about⟩)
        simp only [member, spared, decide_true, Bool.not_true, Bool.false_and,
          Bool.false_eq_true, if_false]
      · rw [Changeset.released_eq, Chore.concerns]
        cases (store.leases.find? id).any (·.lease.isExpired now) <;> simp [member]
  · intro id
    rw [find?_leases_tended, find?_leases_resetExpired, find?_leases_tended, Option.filter_filter]
    congr 1
    funext record
    cases record.lease.isExpired now <;> simp

/-- A chore adds what it is about to what was put back before. -/
theorem perform_tended (chore : Chore) (made : List Chore) :
    (chore.perform now maxAttempts (store.tended now maxAttempts made)).2 =
      store.tended now maxAttempts (chore :: made) := by
  cases chore with
  | requeue => exact requeueDue_tended made
  | reset => exact resetExpired_tended made

/-- A chore counts what it is about, unless it was made before. -/
theorem count_tended (store : Store) (now : Time) (maxAttempts : UInt32) (chore : Chore)
    (made : List Chore) :
    (chore.perform now maxAttempts (store.tended now maxAttempts made)).1 =
      if chore ∈ made then 0 else (chore.perform now maxAttempts store).1 := by
  cases chore with
  | requeue =>
    simp only [Chore.perform, requeueDue, count, Table.rows, tended, Table.mapWithId, List.map_map,
      List.filter_map, List.length_map, Function.comp_def, isRetryDue_tended]
    by_cases member : Chore.requeue ∈ made <;> simp [member]
  | reset =>
    simp only [Chore.perform, resetExpired, Table.size, Table.filter, tended, List.filter_filter]
    by_cases member : Chore.reset ∈ made <;> simp [member]

/-- Chores that are made one after the other are all made in the end. -/
theorem performAll_tended (store : Store) (now : Time) (maxAttempts : UInt32)
    (chores made : List Chore) :
    Chore.performAll now maxAttempts chores (store.tended now maxAttempts made) =
      store.tended now maxAttempts (chores.reverse ++ made) := by
  induction chores generalizing made with
  | nil => rfl
  | cons chore rest ih =>
    rw [Chore.performAll, List.foldl_cons, perform_tended, ← Chore.performAll, ih]
    simp only [List.reverse_cons, List.append_assoc, List.singleton_append]

private theorem performAll_eq (store : Store) (now : Time) (maxAttempts : UInt32)
    (chores : List Chore) :
    Chore.performAll now maxAttempts chores store = store.tended now maxAttempts chores := by
  have all := performAll_tended store now maxAttempts chores []
  rw [tended_nil] at all
  rw [all]
  exact tended_congr fun chore => by simp

/-- The store after all that is to be done at some time: the leases that end later are left, as they
were, and exactly the rows that await a retry or were left behind have changed, in nothing but that
they are in the queue. -/
structure Tidied (store : Store) (now : Time) (maxAttempts : UInt32) (next : Store) : Prop where
  leases : ∀ id record, next.leases.find? id = some record ↔
    store.leases.find? id = some record ∧ now < record.lease.expiresAt
  changed : ∀ id, next.changesets.find? id ≠ store.changesets.find? id ↔
    ∃ row, store.changesets.find? id = some row ∧
      (row.AwaitsRetry now maxAttempts ∨ store.LeftBehind now id row)
  queued : ∀ id row, store.changesets.find? id = some row →
    next.changesets.find? id ≠ some row →
      next.changesets.find? id = some { row with queueState := .queued }
  rest : next = { store with changesets := next.changesets, leases := next.leases }

private theorem tidied_tended {made : List Chore} (requeue : .requeue ∈ made)
    (reset : .reset ∈ made) : store.Tidied now maxAttempts (store.tended now maxAttempts made) := by
  have about : ∀ id row, made.any (·.concerns now maxAttempts store id row) = true ↔
      row.AwaitsRetry now maxAttempts ∨ store.LeftBehind now id row := by
    intro id row
    rw [Chore.any_concerns_iff]
    simp only [requeue, reset, true_and]
  have moved : ∀ id row, row.AwaitsRetry now maxAttempts ∨ store.LeftBehind now id row →
      row.enqueued ≠ row := by
    rintro id row (awaits | left)
    · exact Changeset.enqueued_ne (by simp [awaits.errored])
    · exact Changeset.enqueued_ne (by simp [left.processing])
  refine ⟨fun id record => ?_, fun id => ?_, fun id row found other => ?_, rfl⟩
  · rw [find?_leases_tended, Option.filter_eq_some_iff]
    simp [reset, Lease.isExpired, Time.not_le]
  · rw [find?_tended]
    cases found : store.changesets.find? id with
    | none => simp
    | some row =>
      rw [Option.map_some]
      constructor
      · intro other
        refine ⟨row, rfl, (about id row).mp ?_⟩
        by_contra idle
        exact other (by rw [if_neg idle])
      · rintro ⟨_, ⟨⟩, concerned⟩ same
        rw [if_pos ((about id row).mpr concerned)] at same
        exact moved id row concerned (Option.some.inj same)
  · rw [find?_tended, found, Option.map_some] at other ⊢
    by_cases concerned : made.any (·.concerns now maxAttempts store id row) = true
    · rw [if_pos concerned, Changeset.enqueued]
    · exact absurd (by rw [if_neg concerned]) other

/-- The number of rows that are not any more what they were. -/
def rowsChanged (store next : Store) : Nat :=
  (store.changesets.ids.filter fun id =>
    next.changesets.find? id ≠ store.changesets.find? id).length

/-- The number of leases that are gone. -/
def leasesDropped (store next : Store) : Nat :=
  (store.leases.ids.filter fun id => !next.leases.contains id).length

end Store

private theorem Table.length_filter_ids {kind : Kind} {α : Type} (table : Table kind α)
    (test : Id kind → Bool) (accept : α → Bool)
    (same : ∀ id row, table.find? id = some row → test id = accept row) :
    (table.ids.filter test).length = (table.rows.filter accept).length := by
  simp only [ids, rows, List.filter_map, List.length_map]
  congr 1
  apply List.filter_congr
  rintro ⟨id, row⟩ member
  exact same id row (find?_eq_some_iff.mpr member)

namespace Store

variable {store : Store} {now : Time} {maxAttempts : UInt32}

private theorem requeueDue_count :
    (store.requeueDue now maxAttempts).1 =
      store.rowsChanged (store.requeueDue now maxAttempts).2 := by
  symm
  apply Table.length_filter_ids
  intro id row found
  rw [find?_requeueDue, found, Option.map_some]
  cases due : row.isRetryDue now maxAttempts with
  | false => simp
  | true =>
    have errored := (Changeset.isRetryDue_iff.mp due).errored
    have moved : row.enqueued ≠ row := Changeset.enqueued_ne (by simp [errored])
    simpa using moved

private theorem resetExpired_count :
    (store.resetExpired now).1 = store.leasesDropped (store.resetExpired now).2 := by
  have dropped : store.leasesDropped (store.resetExpired now).2 =
      (store.leases.rows.filter (·.lease.isExpired now)).length := by
    apply Table.length_filter_ids
    intro id record found
    rw [Table.contains, find?_leases_resetExpired, found]
    cases ended : record.lease.isExpired now <;> simp [Option.filter, ended]
  rw [dropped]
  simp only [resetExpired, Table.size, Table.filter, Table.rows, List.filter_map, List.length_map,
    Function.comp_def]

/-- Requeueing and resetting at one time tidy the store, in either order: the leases that are left
end later, exactly the rows that await a retry or were left behind change, and only in being queued
again. The counts are those of the rows that were put back and of the leases that were dropped.
However often the chores are made at that time and in whatever order, the store is the same as soon
as both were made, and a chore that was made before counts nothing and changes nothing. -/
theorem chores_tidy (store : Store) (now : Time) (maxAttempts : UInt32) :
    let tidy := ((store.requeueDue now maxAttempts).2.resetExpired now).2
    store.Tidied now maxAttempts tidy ∧
      ((store.resetExpired now).2.requeueDue now maxAttempts).2 = tidy ∧
      (store.requeueDue now maxAttempts).1 =
        store.rowsChanged (store.requeueDue now maxAttempts).2 ∧
      (store.resetExpired now).1 = store.leasesDropped (store.resetExpired now).2 ∧
      ∀ chores : List Chore,
        (.requeue ∈ chores → .reset ∈ chores →
          Chore.performAll now maxAttempts chores store = tidy) ∧
        ∀ chore : Chore,
          (chore.perform now maxAttempts (Chore.performAll now maxAttempts chores store)).1 =
            (if chore ∈ chores then 0 else (chore.perform now maxAttempts store).1) ∧
          (chore ∈ chores →
            (chore.perform now maxAttempts (Chore.performAll now maxAttempts chores store)).2 =
              Chore.performAll now maxAttempts chores store) := by
  have both : ∀ chores : List Chore, .requeue ∈ chores → .reset ∈ chores →
      store.tended now maxAttempts chores =
        ((store.requeueDue now maxAttempts).2.resetExpired now).2 := by
    intro chores requeue reset
    refine Eq.trans (tended_congr fun chore => ?_) (performAll_eq _ _ _ [.requeue, .reset]).symm
    cases chore <;> simp [requeue, reset]
  refine ⟨?_, ?_, requeueDue_count, resetExpired_count, fun chores => ?_⟩
  · rw [← both [.requeue, .reset] (by simp) (by simp)]
    exact tidied_tended (by simp) (by simp)
  · exact (performAll_eq _ _ _ [.reset, .requeue]).trans (both _ (by simp) (by simp))
  · simp only [performAll_eq]
    refine ⟨both chores, fun chore => ⟨count_tended _ _ _ chore chores, fun again => ?_⟩⟩
    rw [perform_tended]
    apply tended_congr
    intro other
    simp only [List.mem_cons, or_iff_right_iff_imp]
    rintro rfl
    exact again

end Store

/-- Housekeeping makes both chores at the time of the clock, and returns what each of them has to
do, if no failures of the store lie ahead. -/
theorem Reconcile.housekeeping_ends {σ : Type} (settings : Settings) (world : World σ)
    (spared : world.backend.faults = []) :
    Action.Ends (housekeeping settings) world
      (.ok ((Chore.requeue.perform world.clock.now settings.retry.maxAttempts
          world.backend.store).1,
        (Chore.reset.perform world.clock.now settings.retry.maxAttempts world.backend.store).1))
      { world with backend := ⟨Chore.performAll world.clock.now settings.retry.maxAttempts
        [.requeue, .reset] world.backend.store, []⟩ } := by
  obtain ⟨⟨store, faults⟩, clock, tokens, host⟩ := world
  cases spared
  have counted := Store.count_tended store clock.now settings.retry.maxAttempts .reset [.requeue]
  rw [if_neg (by decide), ← Store.performAll_eq] at counted
  rw [← counted]
  rfl

/-- Whoever comes second at that time has nothing to do. -/
theorem Reconcile.housekeeping_again {σ : Type} (settings : Settings) {world next : World σ}
    {counts : Nat × Nat} (spared : world.backend.faults = [])
    (done : Action.Ends (housekeeping settings) world (.ok counts) next) :
    Action.Ends (housekeeping settings) next (.ok (0, 0)) next := by
  obtain ⟨⟨store, faults⟩, clock, tokens, host⟩ := world
  cases spared
  cases (housekeeping_ends settings _ rfl).symm.trans done
  have again := housekeeping_ends settings ⟨⟨store.tended clock.now settings.retry.maxAttempts
    [.requeue, .reset], []⟩, clock, tokens, host⟩ rfl
  have twice : ∀ chore, chore ∈ [Chore.requeue, .reset].reverse ++ [.requeue, .reset] ↔
      chore ∈ [Chore.requeue, .reset] := by
    intro chore
    cases chore <;> decide
  simp only [Store.count_tended, Store.performAll_tended, List.mem_cons, true_or, or_true,
    if_true] at again
  rw [Store.tended_congr twice] at again
  rw [Store.performAll_eq]
  exact again

namespace Upkeep

/-- The instant some seconds after the start of 1970. -/
def instant (seconds : Nat) : Time := (Time.epoch.add? (.ofSeconds seconds)).getD .epoch

def row (id : Int) (queueState : QueueState) (processAfter : Option Time) : Changeset where
  id := ⟨id⟩
  repoId := ⟨1⟩
  codeHost := .github
  queueState
  failures := 1
  processAfter
  createdAt := .epoch
  updatedAt := .epoch

def record (id : Int) (expiresAt : Time) : LeaseRecord :=
  ⟨⟨⟨id⟩, "worker", "token", expiresAt⟩, false⟩

/-- Two rows are due, one of them under a lease that has ended; a row was left behind, and another
one is being processed. A row was queued again under its lease, and one lease is on a row that does
not exist any more. -/
def store : Store where
  changesets := (((((∅ : Table .changeset Changeset)
    |>.insert ⟨1⟩ (row 1 .errored (some (instant 5))))
    |>.insert ⟨2⟩ (row 2 .errored (some (instant 10))))
    |>.insert ⟨3⟩ (row 3 .processing none))
    |>.insert ⟨4⟩ (row 4 .processing none))
    |>.insert ⟨5⟩ (row 5 .queued none)
  leases := (((((∅ : Table .changeset LeaseRecord)
    |>.insert ⟨2⟩ (record 2 (instant 10)))
    |>.insert ⟨3⟩ (record 3 (instant 9)))
    |>.insert ⟨4⟩ (record 4 (instant 11)))
    |>.insert ⟨5⟩ (record 5 (instant 2)))
    |>.insert ⟨6⟩ (record 6 (instant 3))

end Upkeep

open Upkeep in
/-- Two rows are put back and four leases are dropped, in whatever order. Housekeeping does this the
first time, and nothing the second time. -/
theorem Store.chores_tidy_something :
    let later := Chore.performAll (instant 10) 3 [.reset, .requeue, .reset] store
    let world : World Unit := ⟨⟨store, []⟩, { now := instant 10 }, 0, ()⟩
    store.Tidied (instant 10) 3 later ∧
      (store.requeueDue (instant 10) 3).1 = 2 ∧ (store.resetExpired (instant 10)).1 = 4 ∧
      (later.resetExpired (instant 10)).2 = later ∧ later ≠ store ∧
      ∃ next, Action.Ends (Reconcile.housekeeping {}) world (.ok (2, 4)) next ∧
        next.backend.store = later ∧
        Action.Ends (Reconcile.housekeeping {}) next (.ok (0, 0)) next := by
  obtain ⟨tidied, -, -, -, every⟩ := Store.chores_tidy store (instant 10) 3
  obtain ⟨same, again⟩ := every [.reset, .requeue, .reset]
  have first := Reconcile.housekeeping_ends {} ⟨⟨store, []⟩, { now := instant 10 }, 0, ()⟩ rfl
  refine ⟨same (by decide) (by decide) ▸ tidied, by decide +kernel, by decide +kernel,
    (again .reset).2 (by decide), by decide +kernel, _, first, ?_,
    Reconcile.housekeeping_again {} rfl first⟩
  exact ((every [.requeue, .reset]).1 (by decide) (by decide)).trans
    (same (by decide) (by decide)).symm

end BatchChanges
