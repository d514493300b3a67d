import BatchChanges.Proofs.Queue.Effect

/-! # Rows under their numbers

A row is stored under its own number, and so is a lease under the number of its changeset. No number
in use is above the last one that was given away, so that the next one is new, also to the leases.
-/

namespace BatchChanges.Store

/-- Everything is stored under its own number, and the next number is new. -/
structure Numbered (store : Store) : Prop where
  changesets {id : ChangesetId} {row : Changeset} (found : store.changesets.find? id = some row) :
    row.id = id ∧ 0 < id.value ∧ id.value ≤ store.lastId
  changesetSpecs {id : ChangesetSpecId} {spec : ChangesetSpec}
    (found : store.changesetSpecs.find? id = some spec) : spec.id = id ∧ id.value ≤ store.lastId
  campaigns {id : CampaignId} {campaign : Campaign}
    (found : store.campaigns.find? id = some campaign) : id.value ≤ store.lastId
  leases {id : ChangesetId} {record : LeaseRecord} (found : store.leases.find? id = some record) :
    record.lease.changesetId = id ∧ id.value ≤ store.lastId
  lastId_nonneg : 0 ≤ store.lastId

theorem numbered_empty : (∅ : Store).Numbered where
  changesets found := by cases found
  changesetSpecs found := by cases found
  campaigns found := by cases found
  leases found := by cases found
  lastId_nonneg := Int.le_refl 0

variable {store : Store}

namespace Numbered

/-- A stored row is stored under its number and nowhere else. -/
theorem find?_of_mem (numbered : store.Numbered) {row : Changeset}
    (member : row ∈ store.changesets.rows) : store.changesets.find? row.id = some row := by
  obtain ⟨id, found⟩ := Table.mem_rows_iff.mp member
  rwa [(numbered.changesets found).1]

/-- A stored row has a number. -/
theorem ne_unsaved (numbered : store.Numbered) {id : ChangesetId} {row : Changeset}
    (found : store.changesets.find? id = some row) : id ≠ .unsaved := by
  rintro rfl
  exact absurd (numbered.changesets found).2.1 (Int.lt_irrefl 0)

/-- A number that was not given away yet has no row. -/
theorem find?_of_lt (numbered : store.Numbered) {id : ChangesetId}
    (fresh : store.lastId < id.value) : store.changesets.find? id = none := by
  cases found : store.changesets.find? id with
  | none => rfl
  | some row => exact absurd (numbered.changesets found).2.2 (Int.not_le.mpr fresh)

/-- Nor is there a lease on it. -/
theorem find?_leases_of_lt (numbered : store.Numbered) {id : ChangesetId}
    (fresh : store.lastId < id.value) : store.leases.find? id = none := by
  cases found : store.leases.find? id with
  | none => rfl
  | some record => exact absurd (numbered.leases found).2 (Int.not_le.mpr fresh)

/-- The row that is claimed next is stored under its number. -/
theorem find?_candidate (numbered : store.Numbered) {now : Time} {row : Changeset}
    (found : store.candidate? now = some row) : store.changesets.find? row.id = some row := by
  obtain ⟨⟨id, stored⟩, -, -⟩ := candidate?_eq_some found
  rwa [(numbered.changesets stored).1]

/-- Numbers stay in order when rows keep their numbers and leases their changesets. -/
theorem congr {next : Store} (numbered : store.Numbered)
    (rows : ∀ {id row}, next.changesets.find? id = some row →
      row.id = id ∧ ∃ before, store.changesets.find? id = some before)
    (leases : ∀ {id record}, next.leases.find? id = some record →
      record.lease.changesetId = id ∧ (store.changesets.find? id).isSome ∨
        ∃ before, store.leases.find? id = some before ∧
          record.lease.changesetId = before.lease.changesetId)
    (specs : next.changesetSpecs = store.changesetSpecs)
    (campaigns : next.campaigns = store.campaigns) (last : next.lastId = store.lastId) :
    next.Numbered where
  changesets found := by
    obtain ⟨same, before, stored⟩ := rows found
    rw [last]
    exact ⟨same, (numbered.changesets stored).2⟩
  changesetSpecs found := by
    rw [last]
    exact numbered.changesetSpecs (specs ▸ found)
  campaigns found := by
    rw [last]
    exact numbered.campaigns (campaigns ▸ found)
  leases found := by
    rw [last]
    obtain ⟨same, present⟩ | ⟨before, stored, same⟩ := leases found
    · obtain ⟨row, stored⟩ := Option.isSome_iff_exists.mp present
      exact ⟨same, (numbered.changesets stored).2.2⟩
    · rw [same]
      exact numbered.leases stored
  lastId_nonneg := by
    rw [last]
    exact numbered.lastId_nonneg

theorem putRepo (numbered : store.Numbered) (repo : Repo) : (store.putRepo repo).Numbered :=
  ⟨numbered.changesets, numbered.changesetSpecs, numbered.campaigns, numbered.leases,
    numbered.lastId_nonneg⟩

/-- Campaigns may change under their numbers. -/
theorem withCampaigns (numbered : store.Numbered) {campaigns : Table .campaign Campaign}
    (known : ∀ {id campaign}, campaigns.find? id = some campaign →
      ∃ before, store.campaigns.find? id = some before) :
    Numbered { store with campaigns } :=
  ⟨numbered.changesets, numbered.changesetSpecs, fun found =>
    have ⟨_, before⟩ := known found
    numbered.campaigns before, numbered.leases, numbered.lastId_nonneg⟩

/-- A number may be given away to a campaign spec or a campaign. -/
theorem skip (numbered : store.Numbered) (specs : Table .campaignSpec CampaignSpec)
    {campaigns : Table .campaign Campaign}
    (bounded : ∀ {id campaign}, campaigns.find? id = some campaign →
      id.value ≤ store.lastId + 1) :
    { store with campaignSpecs := specs, campaigns, lastId := store.lastId + 1 }.Numbered where
  changesets found := by
    obtain ⟨same, positive, bounded⟩ := numbered.changesets found
    exact ⟨same, positive, Int.le_add_one bounded⟩
  changesetSpecs found := by
    obtain ⟨same, bounded⟩ := numbered.changesetSpecs found
    exact ⟨same, Int.le_add_one bounded⟩
  campaigns found := bounded found
  leases found := by
    obtain ⟨same, bounded⟩ := numbered.leases found
    exact ⟨same, Int.le_add_one bounded⟩
  lastId_nonneg := Int.le_add_one numbered.lastId_nonneg

/-- A spec that is added gets a new number, so that the others stay. -/
theorem find?_addChangesetSpec (numbered : store.Numbered) (added : ChangesetSpec)
    {id : ChangesetSpecId} {spec : ChangesetSpec}
    (found : store.changesetSpecs.find? id = some spec) :
    (store.addChangesetSpec added).2.changesetSpecs.find? id = some spec := by
  have bounded := (numbered.changesetSpecs found).2
  simp only [Store.addChangesetSpec, Table.find?_insert]
  split
  · next same =>
    subst same
    exact absurd bounded (Int.not_le.mpr (Int.lt_succ _))
  · exact found

theorem addChangesetSpec (numbered : store.Numbered) (spec : ChangesetSpec) :
    (store.addChangesetSpec spec).2.Numbered where
  changesets found := by
    obtain ⟨same, positive, bounded⟩ := numbered.changesets found
    exact ⟨same, positive, Int.le_add_one bounded⟩
  changesetSpecs found := by
    rcases Table.find?_insert_eq_some.mp found with ⟨rfl, rfl⟩ | ⟨-, found⟩
    · exact ⟨rfl, Int.le_refl _⟩
    · obtain ⟨same, bounded⟩ := numbered.changesetSpecs found
      exact ⟨same, Int.le_add_one bounded⟩
  campaigns found := Int.le_add_one (numbered.campaigns found)
  leases found := by
    obtain ⟨same, bounded⟩ := numbered.leases found
    exact ⟨same, Int.le_add_one bounded⟩
  lastId_nonneg := Int.le_add_one numbered.lastId_nonneg

theorem claim {row : Changeset} {now : Time} (numbered : store.Numbered)
    (found : store.candidate? now = some row) (worker token : String) (expiresAt : Time) :
    Numbered { store with
      changesets := store.changesets.insert row.id { row with queueState := .processing }
      leases := store.leases.insert row.id
        ⟨⟨row.id, worker, token, expiresAt⟩, row.closing⟩ } := by
  have stored := numbered.find?_candidate found
  refine numbered.congr ?_ ?_ rfl rfl rfl
  · intro id other present
    rcases Table.find?_insert_eq_some.mp present with ⟨rfl, rfl⟩ | ⟨-, present⟩
    · exact ⟨rfl, row, stored⟩
    · exact ⟨(numbered.changesets present).1, other, present⟩
  · intro id record present
    rcases Table.find?_insert_eq_some.mp present with ⟨rfl, rfl⟩ | ⟨-, present⟩
    · exact .inl ⟨rfl, by rw [stored, Option.isSome_some]⟩
    · exact .inr ⟨record, present, rfl⟩

theorem renew {id : ChangesetId} {record : LeaseRecord} (numbered : store.Numbered)
    (found : store.leases.find? id = some record) (expiresAt : Time) :
    Numbered { store with
      leases := store.leases.insert id
        { record with lease := { record.lease with expiresAt } } } := by
  refine numbered.congr (fun present => ⟨(numbered.changesets present).1, _, present⟩) ?_ rfl rfl rfl
  intro id other present
  rcases Table.find?_insert_eq_some.mp present with ⟨rfl, rfl⟩ | ⟨-, present⟩
  · exact .inr ⟨record, found, rfl⟩
  · exact .inr ⟨other, present, rfl⟩

theorem finish (numbered : store.Numbered) (lease : Lease) (outcome : Changeset) :
    (store.finish lease outcome).2.Numbered := by
  by_cases holds : store.Holds lease
  · obtain ⟨record, found, same⟩ := holds
    have freed : ∀ {id other}, (store.leases.erase lease.changesetId).find? id = some other →
        store.leases.find? id = some other := fun present =>
      (Table.find?_erase_eq_some.mp present).2
    rw [finish_of_record found same]
    cases stored : store.changesets.find? lease.changesetId with
    | none =>
      exact numbered.congr (fun present => ⟨(numbered.changesets present).1, _, present⟩)
        (fun present => .inr ⟨_, freed present, rfl⟩) rfl rfl rfl
    | some row =>
      refine numbered.congr ?_ (fun present => .inr ⟨_, freed present, rfl⟩) rfl rfl rfl
      intro id other present
      rcases Table.find?_insert_eq_some.mp present with ⟨rfl, rfl⟩ | ⟨-, present⟩
      · exact ⟨(numbered.changesets stored).1, row, stored⟩
      · exact ⟨(numbered.changesets present).1, other, present⟩
  · rw [finish_of_not_holds holds]
    exact numbered

/-- Revising rows keeps their numbers in order if it keeps the numbers. -/
theorem updateWhere (numbered : store.Numbered) {test : Changeset → Bool}
    {revise : Changeset → Changeset} (same : ∀ row, (revise row).id = row.id) :
    (store.updateWhere test revise).Numbered := by
  refine numbered.congr ?_ (fun present => .inr ⟨_, present, rfl⟩) rfl rfl rfl
  intro id row present
  rw [find?_updateWhere] at present
  obtain ⟨before, stored, rfl⟩ := Option.map_eq_some_iff.mp present
  refine ⟨?_, before, stored⟩
  split
  · rw [same, (numbered.changesets stored).1]
  · exact (numbered.changesets stored).1

theorem cancelQueued (numbered : store.Numbered) (campaign : CampaignId) :
    (store.cancelQueued campaign).2.Numbered :=
  numbered.updateWhere fun _ => rfl

theorem requeueDue (numbered : store.Numbered) (now : Time) (maxAttempts : UInt32) :
    (store.requeueDue now maxAttempts).2.Numbered :=
  numbered.updateWhere fun _ => rfl

theorem resetExpired (numbered : store.Numbered) (now : Time) :
    (store.resetExpired now).2.Numbered := by
  refine numbered.congr ?_ ?_ rfl rfl rfl
  · intro id row present
    rw [find?_resetExpired] at present
    obtain ⟨before, stored, rfl⟩ := Option.map_eq_some_iff.mp present
    refine ⟨?_, before, stored⟩
    have released : before.released.id = before.id := by
      unfold Changeset.released
      split <;> rfl
    split
    · rw [released, (numbered.changesets stored).1]
    · exact (numbered.changesets stored).1
  · intro id record present
    rw [find?_leases_resetExpired, Option.filter_eq_some_iff] at present
    exact .inr ⟨record, present.1, rfl⟩

end Numbered

end BatchChanges.Store
