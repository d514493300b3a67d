import BatchChanges.Proofs.Campaign.Joining
import BatchChanges.Proofs.Campaign.Refusal

/-! # No application misses a row

Inside of a transaction, an application looks up the changesets and specs that the mapping rows
name, deletes changesets, writes over others, and writes over its campaign. All of them are there
when their turn comes: no changeset is deleted twice or written after it was deleted, and nobody
deletes a campaign. So an application never fails because a row is missing that it has read of.
-/

namespace BatchChanges

namespace StoreError

def isMissingRow : StoreError → Bool
  | campaignNotFound _ | changesetNotFound _ => true
  | duplicateCampaign _ _ | backend _ => false

end StoreError

namespace CampaignError

/-- Whether a campaign, a changeset or its spec is missing that is known to be stored. -/
def isMissingRow : CampaignError → Bool
  | store cause => cause.isMissingRow
  | campaignNotFound _ | changesetNotFound _ | changesetSpecNotFound _ => true
  | campaignSpecNotFound _ | unauthorized _ | campaignExists | otherCampaign _ _
  | campaignClosed _ | repoNotFound _ => false

end CampaignError

namespace Application

open Access

variable {application : Application} {visible : Visibility} {spec : CampaignSpec}
  {existing : Option Campaign} {campaign : Campaign} {now : Time} {backend next : Backend}

private theorem delete_misses_none {ids : List ChangesetId} {error : StoreError}
    (distinct : ids.Nodup)
    (stored : ∀ id ∈ ids, ∃ row, backend.store.changesets.find? id = some row)
    (failed : Ends (delete ids) backend (.error error) next) : error.isMissingRow = false := by
  induction ids generalizing backend with
  | nil => cases failed
  | cons first rest ih =>
    obtain ⟨new, distinct⟩ := List.nodup_cons.mp distinct
    obtain ⟨storedFirst, storedRest⟩ := List.forall_mem_cons.mp stored
    have present := Table.contains_iff.mpr storedFirst
    rw [delete, ends_bind] at failed
    rcases failed with ⟨⟨⟩, middle, deleted, others⟩ | ⟨_, same, failed⟩
    · have reached := call_ok deleted
      simp only [Store.deleteChangeset, present, if_true, Except.map, Except.ok.injEq,
        Prod.mk.injEq, true_and] at reached
      refine ih distinct (fun id later => ?_) others
      rw [← reached, Table.find?_erase, if_neg]
      · exact storedRest id later
      · rintro rfl
        exact new later
    · cases same
      obtain ⟨detail, -, rfl⟩ | refused := call_struck failed
      · rfl
      · simp only [Store.deleteChangeset, present, if_true, Except.map, reduceCtorEq] at refused

/-- A changeset that has no number, or is stored, can be written, and whoever is stored stays. -/
theorem upsert_misses_none {changeset : Changeset}
    (known : changeset.id = .unsaved ∨
      ∃ row, backend.store.changesets.find? changeset.id = some row) :
    (∀ {error}, Ends (upsertChangeset changeset) backend (.error error) next →
      error.isMissingRow = false) ∧
    ∀ {stored id}, Ends (upsertChangeset changeset) backend (.ok stored) next →
      (∃ row, backend.store.changesets.find? id = some row) →
      ∃ row, next.store.changesets.find? id = some row := by
  constructor
  · intro error failed
    obtain ⟨detail, -, rfl⟩ | refused := call_struck failed
    · rfl
    · simp only [Store.upsertChangeset] at refused
      split_ifs at refused with unsaved present
      exact absurd (known.resolve_left fun same => unsaved ((Id.isUnsaved_iff _).mpr same))
        fun here => present (Table.contains_iff.mpr here)
  · rintro stored id done ⟨row, found⟩
    obtain ⟨-, -, reached⟩ | ⟨-, -, reached⟩ := Store.upsertChangeset_eq_ok (call_ok done)
    all_goals
      rw [reached]
      simp only [Table.find?_insert]
      split
      · exact ⟨_, rfl⟩
      · exact ⟨row, found⟩

/-- Changesets that have no number, or are stored, can be written one after the other. -/
theorem write_misses_none {changesets : List Changeset} {error : StoreError}
    (known : ∀ changeset ∈ changesets, changeset.id = .unsaved ∨
      ∃ row, backend.store.changesets.find? changeset.id = some row)
    (failed : Ends (write campaign changesets) backend (.error error) next) :
    error.isMissingRow = false := by
  induction changesets generalizing campaign backend with
  | nil => cases failed
  | cons changeset rest ih =>
    obtain ⟨knownFirst, knownRest⟩ := List.forall_mem_cons.mp known
    rw [write, ends_bind] at failed
    rcases failed with ⟨stored, middle, upserted, others⟩ | ⟨_, same, failed⟩
    · have stays : ∀ changeset ∈ rest, changeset.id = .unsaved ∨
          ∃ row, middle.store.changesets.find? changeset.id = some row := fun changeset later =>
        (knownRest changeset later).imp_right fun here =>
          (upsert_misses_none knownFirst).2 upserted here
      split at others
      · exact ih stays others
      · exact ih stays others
    · cases same
      exact (upsert_misses_none knownFirst).1 failed

private theorem update_misses_none {error : StoreError}
    (stored : ∃ record, backend.store.campaigns.find? campaign.id = some record)
    (failed : Ends (updateCampaign campaign) backend (.error error) next) :
    error.isMissingRow = false := by
  obtain ⟨detail, -, rfl⟩ | refused := call_struck failed
  · rfl
  · simp only [Store.replaceCampaign, Table.contains_iff.mpr stored, if_true, Except.map,
      reduceCtorEq] at refused

private theorem create_misses_none {error : StoreError}
    (failed : Ends (createCampaign campaign) backend (.error error) next) :
    error.isMissingRow = false := by
  obtain ⟨detail, -, rfl⟩ | refused := call_struck failed
  · rfl
  · simp only [Store.insertCampaign] at refused
    split_ifs at refused
    cases refused
    rfl

end Application

namespace Placed

variable {store : Store} {campaign : CampaignId} {placements : List Placement}

private theorem nodup_deleted (placed : Placed store campaign placements) :
    (placements.filterMap Placement.deleted?).Nodup := by
  refine List.pairwise_filterMap.mpr (placed.apart.imp ?_)
  intro first second apart id deleted other deletedToo same
  cases first <;> cases deleted
  cases second <;> cases deletedToo
  exact apart _ rfl _ rfl same

private theorem stored_of_deleted (placed : Placed store campaign placements) :
    ∀ id ∈ placements.filterMap Placement.deleted?, ∃ row, store.changesets.find? id = some row :=
  fun _ deleted => placed.stored (Placement.mem_filterMap_deleted?.mp deleted) rfl

/-- A changeset that is written has no number, or is stored and not deleted. -/
theorem stored_of_staged (placed : Placed store campaign placements) :
    ∀ changeset ∈ placements.filterMap Placement.staged?, changeset.id = .unsaved ∨
      changeset.id ∉ placements.filterMap Placement.deleted? ∧
        ∃ row, store.changesets.find? changeset.id = some row := by
  intro changeset member
  have staged := Placement.mem_filterMap_staged?.mp member
  refine or_iff_not_imp_left.mpr fun known => ?_
  have subject := Placement.subject?_staged.mpr ⟨known, rfl⟩
  refine ⟨fun deleted => ?_, placed.stored staged subject⟩
  cases placed.unique (Placement.mem_filterMap_deleted?.mp deleted) staged rfl subject

end Placed

namespace Application

open Access

variable {application : Application} {visible : Visibility} {spec : CampaignSpec}
  {existing : Option Campaign} {campaign : Campaign} {now : Time} {backend next : Backend}
  {error : CampaignError}

/-- Nothing is missing when the placements of a stored campaign are carried out. -/
theorem writes_miss_none {placements : List Placement} {listed : IdSet .changeset}
    (numbered : backend.store.Numbered)
    (stored : ∃ record, backend.store.campaigns.find? campaign.id = some record)
    (placed : Placed backend.store campaign.id placements)
    (failed : Ends (do
      wrapping .store (delete (placements.filterMap Placement.deleted?))
      let written ← wrapping .store
        (write { campaign with changesetIds := listed } (placements.filterMap Placement.staged?))
      wrapping .store (updateCampaign written)
      return written) backend (.error error) next) : error.isMissingRow = false := by
  rw [ends_bind] at failed
  rcases failed with ⟨⟨⟩, pruned, deleted, rest⟩ | ⟨_, same, failed⟩
  · rw [ends_wrapping_ok] at deleted
    obtain ⟨kept, rows⟩ := delete_ok deleted
    rw [ends_bind] at rest
    rcases rest with ⟨written, last, wrote, rest⟩ | ⟨_, same, failed⟩
    · obtain ⟨writes, -, sameId⟩ :=
        write_ok (numbered_of_delete deleted numbered) (ends_wrapping_ok.mp wrote)
      rw [ends_bind] at rest
      rcases rest with ⟨⟨⟩, _, updated, returned⟩ | ⟨_, same, failed⟩
      · cases returned
      · cases same
        obtain ⟨cause, rfl, refused⟩ := ends_wrapping_error.mp failed
        refine update_misses_none ?_ refused
        rw [writes.campaigns, kept, sameId]
        exact stored
    · cases same
      obtain ⟨cause, rfl, refused⟩ := ends_wrapping_error.mp failed
      refine write_misses_none (fun changeset member => ?_) refused
      refine (placed.stored_of_staged changeset member).imp_right ?_
      rintro ⟨spared, here⟩
      rwa [rows, if_neg spared]
  · cases same
    obtain ⟨cause, rfl, refused⟩ := ends_wrapping_error.mp failed
    exact delete_misses_none placed.nodup_deleted placed.stored_of_deleted refused

/-- Nothing is missing when a stored campaign is rewired. -/
theorem rewireStored_misses_none (numbered : backend.store.Numbered)
    (stored : ∃ record, backend.store.campaigns.find? campaign.id = some record)
    (failed : Ends (application.rewireStored visible spec now campaign) backend (.error error)
      next) : error.isMissingRow = false := by
  rw [rewireStored, ends_bind] at failed
  rcases failed with ⟨rows, first, readRows, rest⟩ | ⟨_, same, failed⟩
  · obtain ⟨rfl, sameFirst⟩ := call_read_ok (ends_wrapping_ok.mp readRows)
    rw [← sameFirst] at rest numbered stored
    rw [ends_bind] at rest
    rcases rest with ⟨mappings, second, hydrated, rest⟩ | ⟨_, same, failed⟩
    · obtain ⟨sameSecond, filled, distinct⟩ := Mapping.hydrate_ok numbered hydrated
      rw [ends_bind] at rest
      rcases rest with ⟨rewiring, third, decides, rest⟩ | ⟨_, same, failed⟩
      · obtain ⟨rewired, rfl⟩ := ends_mk_pure_ok.mp decides
        obtain ⟨placements, decided, rfl⟩ := Campaign.rewire_eq_ok rewired
        have placed := placed_of_decided numbered filled distinct decided
        rw [← sameSecond] at placed numbered stored
        exact writes_miss_none numbered stored placed rest
      · cases same
        obtain ⟨repoId, rfl⟩ := Campaign.rewire_eq_error (congrArg Prod.fst failed)
        rfl
    · cases same
      obtain ⟨_, -, detail, -, rfl⟩ := Mapping.hydrate_struck numbered failed
      rfl
  · cases same
    obtain ⟨detail, -, rfl⟩ := wrapped_read_struck failed
    rfl

/-- Nor is anything missing in the transaction of an application, if its campaign is stored or still
to be created. -/
theorem transact_misses_none (numbered : backend.store.Numbered)
    (stored : campaign.id.isUnsaved = false →
      ∃ record, backend.store.campaigns.find? campaign.id = some record)
    (failed : Ends (application.transact visible spec campaign now) backend (.error error) next) :
    error.isMissingRow = false := by
  rcases rewire_of_failed failed with ⟨detail, rfl⟩ | ⟨first, last, same, rewired⟩
  · rfl
  · rw [rewire_eq, ends_bind] at rewired
    rw [← same] at numbered stored
    rcases rewired with ⟨begun, middle, created, rewired⟩ | ⟨_, same, failed⟩
    · split at created
      · have inserted := ends_wrapping_ok.mp created
        refine rewireStored_misses_none (numbered_of_createCampaign inserted numbered) ?_ rewired
        rw [(createCampaign_ok inserted).2, Table.find?_insert, if_pos rfl]
        exact ⟨begun, rfl⟩
      · next saved =>
        obtain ⟨rfl, rfl⟩ := ends_pure_ok.mp created
        exact rewireStored_misses_none numbered (stored (Bool.eq_false_iff.mpr saved)) rewired
    · cases same
      split at failed
      · obtain ⟨cause, rfl, refused⟩ := ends_wrapping_error.mp failed
        exact create_misses_none refused
      · cases failed

theorem readSpec_misses_none (failed : Ends application.readSpec backend (.error error) next) :
    error.isMissingRow = false := by
  rw [readSpec, ends_bind] at failed
  rcases failed with ⟨found, middle, read, rest⟩ | ⟨_, same, failed⟩
  · split at rest
    · cases (ends_throw.mp rest).1
      rfl
    · split at rest
      · cases rest
      · cases (ends_throw.mp rest).1
        rfl
  · cases same
    obtain ⟨detail, -, rfl⟩ := wrapped_read_struck failed
    rfl

private theorem refusal?_misses_none (refused : application.refusal? existing = some error) :
    error.isMissingRow = false := by
  have closed : ∀ {error}, refusal?.closed? existing = some error →
      error.isMissingRow = false := by
    intro error told
    obtain ⟨record, -, rfl⟩ := Option.map_eq_some_iff.mp told
    rfl
  simp only [refusal?] at refused
  split at refused
  · cases refused
    rfl
  · split at refused
    · split at refused
      · exact closed refused
      · cases refused
        rfl
    · exact closed refused

theorem readCampaign_misses_none
    (failed : Ends (application.readCampaign spec) backend (.error error) next) :
    error.isMissingRow = false := by
  rw [readCampaign, ends_bind] at failed
  rcases failed with ⟨found, middle, read, rest⟩ | ⟨_, same, failed⟩
  · split at rest
    · next refused =>
      cases (ends_throw.mp rest).1
      exact refusal?_misses_none refused
    · cases rest
  · cases same
    obtain ⟨detail, -, rfl⟩ := wrapped_read_struck failed
    rfl

end Application

end BatchChanges
