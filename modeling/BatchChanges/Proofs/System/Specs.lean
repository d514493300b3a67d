import BatchChanges.Proofs.System.Records
import Mathlib.Data.List.Nodup

/-! # Campaign specs stay

Campaign specs are stored one by one, each under a number of its own, and nothing changes them or
takes them away. So what an application has read of its spec goes on to be what is stored.
-/

namespace BatchChanges

namespace Access

variable {ε δ α β γ : Type} {read : Store → γ}

/-- An activity leaves a part of the store alone, however it ends. -/
def Keeps (read : Store → γ) (activity : Access ε α) : Prop :=
  ∀ ⦃backend result next⦄, Ends activity backend result next →
    read next.store = read backend.store

private theorem keeps_pure (given : α) : Keeps read (pure given : Access ε α) := by
  intro backend result next ended
  cases ended
  rfl

private theorem keeps_mk_pure (computed : Except ε α) :
    Keeps read (ExceptT.mk (pure computed)) := by
  intro backend result next ended
  cases ended
  rfl

private theorem keeps_bind {first : Access ε α} {second : α → Access ε β}
    (before : Keeps read first) (after : ∀ value, Keeps read (second value)) :
    Keeps read (first >>= second) := by
  intro backend result next ended
  rcases ends_bind.mp ended with ⟨value, middle, done, rest⟩ | ⟨error, -, failed⟩
  · exact (after value rest).trans (before done)
  · exact before failed

private theorem keeps_wrapping {wrap : δ → ε} {activity : Access δ α}
    (keeps : Keeps read activity) : Keeps read (wrapping wrap activity) := by
  intro backend result next ended
  cases result with
  | ok value => exact keeps (ends_wrapping_ok.mp ended)
  | error error =>
    obtain ⟨cause, -, failed⟩ := ends_wrapping_error.mp ended
    exact keeps failed

/-- A call does so if the store does when it is reached. -/
theorem keeps_call {name : StoreCall} {run : Store → Except StoreError (α × Store)}
    (keeps : ∀ ⦃store value next⦄, run store = .ok (value, next) → read next = read store) :
    Keeps read (call name run) := by
  intro backend result next ended
  cases result with
  | ok value => exact keeps (call_ok ended)
  | error error => rw [callWith_error ended]

private theorem keeps_createCampaign (campaign : Campaign) :
    Keeps (·.campaignSpecs) (createCampaign campaign) := by
  refine keeps_call fun store stored next done => ?_
  simp only [Store.insertCampaign] at done
  split at done
  · cases done
  · cases done
    rfl

private theorem keeps_updateCampaign (campaign : Campaign) :
    Keeps (·.campaignSpecs) (updateCampaign campaign) := by
  refine keeps_call fun store _ next done => ?_
  simp only [Store.replaceCampaign] at done
  split at done
  · cases done
    rfl
  · cases done

private theorem keeps_upsertChangeset (changeset : Changeset) :
    Keeps (·.campaignSpecs) (upsertChangeset changeset) := by
  refine keeps_call fun store stored next done => ?_
  simp only [Store.upsertChangeset] at done
  split at done
  · cases done
    rfl
  · split at done
    · cases done
      rfl
    · cases done

private theorem keeps_deleteChangeset (id : ChangesetId) :
    Keeps (·.campaignSpecs) (deleteChangeset id) := by
  refine keeps_call fun store _ next done => ?_
  simp only [Store.deleteChangeset] at done
  split at done
  · cases done
    rfl
  · cases done

private theorem keeps_read {α β : Type} {read : Store → β} {name : StoreCall} (reads : Store → α) :
    Keeps read (call name fun store => .ok (reads store, store)) :=
  keeps_call fun _ _ _ done => by
    cases done
    rfl

end Access

namespace Application

open Access

private theorem keeps_delete (ids : List ChangesetId) : Keeps (·.campaignSpecs) (delete ids) := by
  induction ids with
  | nil => exact keeps_pure ()
  | cons id rest ih => exact keeps_bind (keeps_deleteChangeset id) fun _ => ih

private theorem keeps_write (campaign : Campaign) (changesets : List Changeset) :
    Keeps (·.campaignSpecs) (write campaign changesets) := by
  induction changesets generalizing campaign with
  | nil => exact keeps_pure campaign
  | cons changeset rest ih =>
    refine keeps_bind (keeps_upsertChangeset changeset) fun stored => ?_
    split
    · exact ih _
    · exact ih _

private theorem keeps_rewire (application : Application) (visible : Visibility)
    (spec : CampaignSpec) (campaign : Campaign) (now : Time) :
    Keeps (·.campaignSpecs) (application.rewire visible spec campaign now) := by
  rw [rewire_eq]
  refine keeps_bind ?_ fun campaign => ?_
  · split
    · exact keeps_wrapping (keeps_createCampaign campaign)
    · exact keeps_pure campaign
  · refine keeps_bind (keeps_wrapping (keeps_read _)) fun rows => ?_
    refine keeps_bind ?_ fun mappings => ?_
    · refine keeps_bind (keeps_wrapping (keeps_read _)) fun changesets => ?_
      refine keeps_bind (keeps_wrapping (keeps_read _)) fun specs => ?_
      exact keeps_bind (keeps_wrapping (keeps_read _)) fun repos => keeps_mk_pure _
    · refine keeps_bind (keeps_mk_pure _) fun rewiring => ?_
      refine keeps_bind (keeps_wrapping (keeps_delete _)) fun _ => ?_
      refine keeps_bind (keeps_wrapping (keeps_write _ _)) fun written => ?_
      exact keeps_bind (keeps_wrapping (keeps_updateCampaign written)) fun _ => keeps_pure written

theorem keeps_transact (application : Application) (visible : Visibility) (spec : CampaignSpec)
    (campaign : Campaign) (now : Time) :
    Keeps (·.campaignSpecs) (application.transact visible spec campaign now) := by
  intro backend result next ended
  cases result with
  | ok applied =>
    obtain ⟨first, last, begun, kept, rewired⟩ := rewire_of_transact ended
    rw [kept, ← begun]
    exact application.keeps_rewire visible spec campaign now rewired
  | error error => rw [transact_error ended]

end Application

namespace Closure

open Access

private theorem keeps_queue (now : Time) (changesets : List Changeset) :
    Keeps (·.campaignSpecs) (queue now changesets) := by
  induction changesets with
  | nil => exact keeps_pure ()
  | cons changeset rest ih => exact keeps_bind (keeps_upsertChangeset _) fun _ => ih

private theorem keeps_close (closure : Closure) (campaign : Campaign) (now : Time) :
    Keeps (·.campaignSpecs) (closure.close campaign now) := by
  refine keeps_bind (keeps_updateCampaign _) fun _ => ?_
  split
  · refine keeps_bind (keeps_read _) fun changesets => ?_
    exact keeps_bind (keeps_queue now _) fun _ => keeps_pure _
  · exact keeps_pure _

theorem keeps_run (closure : Closure) (now : Time) : Keeps (·.campaignSpecs) (closure.run now) := by
  intro backend result next ended
  cases result with
  | ok closed =>
    obtain ⟨campaign, found, ⟨-, same⟩ | ⟨-, first, last, begun, kept, closes⟩⟩ := run_ok ended
    · rw [same]
    · rw [kept, ← begun]
      exact closure.keeps_close campaign now closes
  | error error => rw [run_error ended]

end Closure

namespace Store

variable {store : Store}

private theorem campaignSpecs_finish (store : Store) (lease : Lease) (outcome : Changeset) :
    (store.finish lease outcome).2.campaignSpecs = store.campaignSpecs := by
  simp only [finish]
  split
  · rfl
  · split
    · split <;> rfl
    · rfl

/-- A row that is the only one of its kind is the one that is found. -/
theorem find?_of_only {α : Type} {rows : List α} {row : α} {test : α → Bool} (member : row ∈ rows)
    (passes : test row = true) (only : ∀ other ∈ rows, test other = true → other = row) :
    rows.find? test = some row := by
  cases found : rows.find? test with
  | none => exact absurd passes (List.find?_eq_none.mp found row member)
  | some other =>
    exact congrArg some (only other (List.mem_of_find?_eq_some found) (List.find?_some found))

/-- A campaign spec is found by its name if no other one has it. -/
theorem campaignSpecByRandId?_of_find? {id : CampaignSpecId} {spec : CampaignSpec}
    (apart : (store.campaignSpecs.rows.map (·.randId)).Nodup)
    (found : store.campaignSpecs.find? id = some spec) :
    store.campaignSpecByRandId? spec.randId = some spec := by
  have member := Table.mem_rows_iff.mpr ⟨id, found⟩
  refine find?_of_only member (beq_self_eq_true _) fun other another same => ?_
  exact List.inj_on_of_nodup_map apart another member (beq_iff_eq.mp same)

end Store

/-- Who is under way with which campaign spec. -/
def Applying.spec? : Applying → Option (Application × CampaignSpec)
  | reading _ => none
  | resolving application spec => some (application, spec)
  | canceling application spec _ _ => some (application, spec)
  | rewiring application spec _ _ => some (application, spec)

namespace System

variable {system : System} {event : Event} {events : List Event} {id : CampaignSpecId}
  {spec : CampaignSpec}

/-- Campaign specs are stored one by one, and stay. -/
theorem campaignSpecs_step (sound : system.Sound) (event : Event) :
    (system.step event).store.campaignSpecs = system.store.campaignSpecs ∨ ∃ spec,
      event = .addCampaignSpec spec ∧
        (system.step event).store = (system.store.addCampaignSpec spec).2 := by
  have happens := System.transition sound.numbered event
  generalize stepped : system.step event = next at happens
  cases happens with
  | quiet store tokens flights deliveries => exact .inl (by rw [store])
  | repoPut repo => exact .inl rfl
  | campaignSpecAdded spec => exact .inr ⟨spec, rfl, rfl⟩
  | changesetSpecAdded spec => exact .inl rfl
  | claimed found store tokens flights deliveries => exact .inl (by rw [store])
  | asked under asks answered tokens flights deliveries =>
    obtain store | ⟨lease, record, expiresAt, -, -, -, store⟩ := store_of_answered answered
    · exact .inl (by rw [store])
    · exact .inl (by rw [store])
  | concluded under stopped settled store tokens flights deliveries =>
    exact .inl (by rw [store, Store.campaignSpecs_finish])
  | canceled campaign happens store tokens flights deliveries => exact .inl (by rw [store]; rfl)
  | requeued store tokens flights deliveries => exact .inl (by rw [store]; rfl)
  | reset store tokens flights deliveries => exact .inl (by rw [store]; rfl)
  | @rewired number visible _ applying generation under makes =>
    refine .inl ?_
    rw [← stepped]
    cases applying with
    | rewiring application spec campaign now =>
      simp only [step, under, Applying.proceed]
      exact application.keeps_transact visible spec campaign now (Access.ends_self ..)
    | _ => exact absurd makes id
  | @closed closure =>
    rw [← stepped]
    exact .inl (closure.keeps_run system.now (Access.ends_self ..))

/-- Campaign specs are stored under their numbers, and applications under way have read what is
stored. -/
structure Catalogued (system : System) : Prop where
  numbered {id : CampaignSpecId} {spec : CampaignSpec}
    (found : system.store.campaignSpecs.find? id = some spec) :
    spec.id = id ∧ id.value ≤ system.store.lastId
  known {number : Nat} {applying : Applying} {application : Application} {spec : CampaignSpec}
    (under : system.applications number = some applying)
    (reads : applying.spec? = some (application, spec)) :
    system.store.campaignSpecs.find? spec.id = some spec ∧ spec.randId = application.randId

theorem catalogued_start (faults : List Fault) (now : Time) : (start faults now).Catalogued where
  numbered found := by cases found
  known under := by cases under

/-- What is stored stays. -/
theorem Catalogued.keeps (catalogued : system.Catalogued) (sound : system.Sound) (event : Event)
    (found : system.store.campaignSpecs.find? id = some spec) :
    (system.step event).store.campaignSpecs.find? id = some spec := by
  rcases campaignSpecs_step sound event with same | ⟨added, -, same⟩
  · rw [same, found]
  · have old := (catalogued.numbered found).2
    rw [same, Store.addCampaignSpec, Table.find?_insert, if_neg, found]
    rintro rfl
    exact absurd old (Int.not_le.mpr (Int.lt_succ _))

theorem Catalogued.step (catalogued : system.Catalogued) (sound : system.Sound) (event : Event) :
    (system.step event).Catalogued where
  numbered {id spec} found := by
    rcases campaignSpecs_step sound event with same | ⟨added, -, same⟩
    · rw [same] at found
      obtain ⟨here, old⟩ := catalogued.numbered found
      exact ⟨here, Int.le_trans old (System.transition sound.numbered event).lastId_le⟩
    · rw [same, Store.addCampaignSpec, Table.find?_insert] at found
      rw [same, Store.addCampaignSpec]
      split at found
      · next here =>
        cases found
        exact ⟨here, here ▸ Int.le_refl _⟩
      · obtain ⟨here, old⟩ := catalogued.numbered found
        exact ⟨here, Int.le_add_one old⟩
  known {number applying application spec} under reads := by
    have stays : system.store.campaignSpecs.find? spec.id = some spec ∧
        spec.randId = application.randId →
        (system.step event).store.campaignSpecs.find? spec.id = some spec ∧
          spec.randId = application.randId :=
      fun known => ⟨catalogued.keeps sound event known.1, known.2⟩
    cases applies under with
    | stays before => exact stays (catalogued.known before reads)
    | begun => cases reads
    | read happens before done =>
      cases reads
      have found := (Application.readSpec_ok done).1
      have named := List.find?_some found
      obtain ⟨id, stored⟩ := Table.mem_rows_iff.mp (List.mem_of_find?_eq_some found)
      refine stays ⟨?_, beq_iff_eq.mp named⟩
      rw [(catalogued.numbered stored).1]
      exact stored
    | resolved happens before done moves =>
      cases reads
      exact stays (catalogued.known before rfl)
    | canceled happens before =>
      cases reads
      exact stays (catalogued.known before rfl)

theorem Catalogued.run (catalogued : system.Catalogued) (sound : system.Sound)
    (events : List Event) : (system.run events).Catalogued :=
  sound.keeps Catalogued catalogued events fun sound event catalogued => catalogued.step sound event

end System

end BatchChanges
