import BatchChanges.Proofs.Queue.Effect

/-! # Calls under leases on different changesets

A renewal or a write-back looks at the row and the lease of one changeset and writes nothing else,
whether its lease stands, was lost, or is on a row that does not exist any more. Actions that stay
within different changesets in this sense can be made in either order: each of them returns what it
returns alone, and the store is the same.
-/

namespace BatchChanges

namespace Store

variable {α β : Type} {store other third : Store} {scope : ChangesetId → Prop}

/-- Two stores have the same row and the same lease for each changeset in scope, and all but the
queue alike. -/
structure AgreeOn (scope : ChangesetId → Prop) (store other : Store) : Prop where
  surroundings : other.surroundings = store.surroundings
  row : ∀ {id}, scope id → other.changesets.find? id = store.changesets.find? id
  lease : ∀ {id}, scope id → other.leases.find? id = store.leases.find? id

namespace AgreeOn

@[refl] theorem refl (scope : ChangesetId → Prop) (store : Store) : store.AgreeOn scope store :=
  ⟨rfl, fun _ => rfl, fun _ => rfl⟩

private theorem symm (agree : store.AgreeOn scope other) : other.AgreeOn scope store :=
  ⟨agree.surroundings.symm, fun inside => (agree.row inside).symm,
    fun inside => (agree.lease inside).symm⟩

private theorem trans (first : store.AgreeOn scope other) (second : other.AgreeOn scope third) :
    store.AgreeOn scope third :=
  ⟨second.surroundings.trans first.surroundings,
    fun inside => (second.row inside).trans (first.row inside),
    fun inside => (second.lease inside).trans (first.lease inside)⟩

private theorem mono {smaller : ChangesetId → Prop} (agree : store.AgreeOn scope other)
    (within : ∀ {id}, smaller id → scope id) : store.AgreeOn smaller other :=
  ⟨agree.surroundings, fun inside => agree.row (within inside),
    fun inside => agree.lease (within inside)⟩

private theorem eq (agree : ∀ id, store.AgreeOn (· = id) other) : other = store :=
  ext_queue (agree .unsaved).surroundings (fun id => (agree id).row rfl)
    (fun id => (agree id).lease rfl)

end AgreeOn

/-- An action stays within a changeset: it writes nothing of the others, and of the queue it looks
at nothing of the others. -/
structure Confined (id : ChangesetId) (action : Store → α × Store) : Prop where
  keeps : ∀ store : Store, store.AgreeOn (· ≠ id) (action store).2
  returns : ∀ {store other : Store}, store.AgreeOn (· = id) other →
    (action other).1 = (action store).1
  writes : ∀ {store other : Store}, store.AgreeOn (· = id) other →
    (action store).2.AgreeOn (· = id) (action other).2

namespace Confined

variable {id otherId : ChangesetId} {first : Store → α × Store} {second : Store → β × Store}

/-- What is made of the result afterwards does not matter. -/
theorem map (confined : Confined id first) (revise : α → β) :
    Confined id fun store => (revise (first store).1, (first store).2) where
  keeps := confined.keeps
  returns agree := congrArg revise (confined.returns agree)
  writes := confined.writes

/-- Whoever only looks at what is beside the queue stays within any changeset. -/
theorem looking (read : Store → α) : Confined id fun store => (read store.surroundings, store) where
  keeps := .refl _
  returns agree := congrArg read agree.surroundings
  writes agree := agree

private theorem untouched (confined : Confined id first) {here : ChangesetId}
    (elsewhere : here ≠ id) (store : Store) : store.AgreeOn (· = here) (first store).2 :=
  (confined.keeps store).mono fun same => same ▸ elsewhere

/-- For the one action, it is as if the other one had not been made before. -/
theorem unaffected (confined : Confined id first) (other : Confined otherId second)
    (different : id ≠ otherId) (store : Store) :
    (first (second store).2).1 = (first store).1 ∧
      (first store).2.AgreeOn (· = id) (first (second store).2).2 :=
  ⟨confined.returns (other.untouched different store),
    confined.writes (other.untouched different store)⟩

/-- Actions that stay within different changesets end in the same store in either order. -/
theorem comm (one : Confined id first) (other : Confined otherId second)
    (different : id ≠ otherId) (store : Store) :
    (second (first store).2).2 = (first (second store).2).2 := by
  apply AgreeOn.eq
  intro here
  by_cases own : here = id
  · subst own
    have written := (one.unaffected other different store).2
    exact written.symm.trans (other.untouched different _)
  · by_cases theirs : here = otherId
    · subst theirs
      have written := (other.unaffected one different.symm store).2
      exact (one.untouched own _).symm.trans written
    · have before := (one.untouched own store).trans (other.untouched theirs _)
      have after := (other.untouched theirs store).trans (one.untouched own _)
      exact after.symm.trans before

end Confined

/-- A renewal that fails leaves the store alone. -/
def renewed (lease : Lease) (now : Time) (length : Duration) (store : Store) :
    Except (Interrupt StoreError) (Verdict × Lease) × Store :=
  match store.renew lease now length with
  | .ok (told, next) => (.ok told, next)
  | .error interrupt => (.error interrupt, store)

/-- Writing the same into the queue leaves stores alike that were alike, here and elsewhere. -/
theorem AgreeOn.insert_lease (agree : store.AgreeOn scope other) (id : ChangesetId)
    (record : LeaseRecord) :
    AgreeOn scope { store with leases := store.leases.insert id record }
      { other with leases := other.leases.insert id record } where
  surroundings := agree.surroundings
  row := agree.row
  lease inside := by simp only [Table.find?_insert, agree.lease inside]

private theorem AgreeOn.erase_lease (agree : store.AgreeOn scope other) (id : ChangesetId) :
    AgreeOn scope { store with leases := store.leases.erase id }
      { other with leases := other.leases.erase id } where
  surroundings := agree.surroundings
  row := agree.row
  lease inside := by simp only [Table.find?_erase, agree.lease inside]

private theorem AgreeOn.insert_row (agree : store.AgreeOn scope other) (id : ChangesetId)
    (row : Changeset) :
    AgreeOn scope { store with changesets := store.changesets.insert id row }
      { other with changesets := other.changesets.insert id row } where
  surroundings := agree.surroundings
  row inside := by simp only [Table.find?_insert, agree.row inside]
  lease := agree.lease

private theorem renewed_agree {lease : Lease} (agree : store.AgreeOn (· = lease.changesetId) other)
    (now : Time) (length : Duration) :
    (renewed lease now length other).1 = (renewed lease now length store).1 ∧
      (renewed lease now length store).2.AgreeOn (· = lease.changesetId)
        (renewed lease now length other).2 := by
  simp only [renewed, renew, Table.contains, agree.row rfl, agree.lease rfl]
  cases (store.changesets.find? lease.changesetId).isSome with
  | false => exact ⟨rfl, agree⟩
  | true =>
    cases store.leases.find? lease.changesetId with
    | none => exact ⟨rfl, agree⟩
    | some record =>
      by_cases same : record.lease.token = lease.token
      · simp only [if_pos same]
        cases expiry now length with
        | error interrupt => exact ⟨rfl, agree⟩
        | ok expiresAt => exact ⟨rfl, agree.insert_lease _ _⟩
      · simp only [if_neg same]
        exact ⟨rfl, agree⟩

private theorem finish_agree {lease : Lease} (agree : store.AgreeOn (· = lease.changesetId) other)
    (outcome : Changeset) :
    (other.finish lease outcome).1 = (store.finish lease outcome).1 ∧
      (store.finish lease outcome).2.AgreeOn (· = lease.changesetId)
        (other.finish lease outcome).2 := by
  simp only [finish, agree.row rfl, agree.lease rfl]
  cases store.leases.find? lease.changesetId with
  | none => exact ⟨rfl, agree⟩
  | some record =>
    by_cases same : record.lease.token = lease.token
    · simp only [if_pos same]
      cases store.changesets.find? lease.changesetId with
      | none => exact ⟨rfl, agree.erase_lease _⟩
      | some row => exact ⟨rfl, (agree.erase_lease _).insert_row _ _⟩
    · simp only [if_neg same, true_and]
      exact agree

theorem confined_renewed (lease : Lease) (now : Time) (length : Duration) :
    Confined lease.changesetId (renewed lease now length) where
  keeps store := by
    simp only [renewed]
    split
    · next told next done =>
      obtain ⟨-, -, rfl⟩ | ⟨record, expiresAt, -, -, -, -, rfl⟩ := renew_eq_ok done
      · rfl
      · refine ⟨rfl, fun _ => rfl, fun elsewhere => ?_⟩
        exact (Table.find?_insert _ _ _ _).trans (if_neg (Ne.symm elsewhere))
    · rfl
  returns agree := (renewed_agree agree now length).1
  writes agree := (renewed_agree agree now length).2

theorem confined_finish (lease : Lease) (outcome : Changeset) :
    Confined lease.changesetId fun store => store.finish lease outcome where
  keeps store := by
    by_cases holds : store.Holds lease
    · obtain ⟨record, found, same⟩ := holds
      have freed : store.AgreeOn (· ≠ lease.changesetId)
          { store with leases := store.leases.erase lease.changesetId } :=
        ⟨rfl, fun _ => rfl, fun elsewhere =>
          (Table.find?_erase _ _ _).trans (if_neg (Ne.symm elsewhere))⟩
      simp only [finish_of_record found same]
      split
      · exact freed
      · refine freed.trans ⟨rfl, fun elsewhere => ?_, fun _ => rfl⟩
        exact (Table.find?_insert _ _ _ _).trans (if_neg (Ne.symm elsewhere))
    · simp only [finish_of_not_holds holds]
      rfl
  returns agree := (finish_agree agree outcome).1
  writes agree := (finish_agree agree outcome).2

end Store

/-- What the holder of a lease calls. -/
inductive LeaseCall where
  | renew (lease : Lease) (now : Time) (length : Duration)
  | finish (lease : Lease) (outcome : Changeset)

namespace LeaseCall

def lease : LeaseCall → Lease
  | renew lease _ _ | finish lease _ => lease

/-- Makes a call. It returns what became of it and the lease afterwards, unless it fails. -/
def perform : LeaseCall → Store → Except (Interrupt StoreError) (Verdict × Lease) × Store
  | renew lease now length, store => store.renewed lease now length
  | finish lease outcome, store =>
    (.ok ((store.finish lease outcome).1, lease), (store.finish lease outcome).2)

theorem confined (call : LeaseCall) : Store.Confined call.lease.changesetId call.perform := by
  cases call with
  | renew lease now length => exact Store.confined_renewed lease now length
  | finish lease outcome =>
    exact (Store.confined_finish lease outcome).map fun verdict =>
      (Except.ok (verdict, lease) : Except (Interrupt StoreError) (Verdict × Lease))

end LeaseCall

end BatchChanges
