import BatchChanges.Proofs.Campaign.Pairs
import Mathlib.Data.List.Nodup

/-! # The mapping rows of a campaign spec

The mapping rows of a campaign spec and a campaign begin with one row for each spec, and end with
one row for each changeset of the campaign that no spec was paired with. No changeset is in two
rows, and a spec goes without only if those before it have taken all that it could be about. So each
mapping finds what it names, although what is used for one mapping is not there for the next.
-/

namespace BatchChanges

namespace Store

variable {store : Store} {campaign : CampaignId} {campaignSpec : CampaignSpecId}

/-- A spec of a campaign may be paired with a changeset of its repository: one with the pull request
that the spec tracks, or one that the campaign created and whose current spec pushes the same
branch. -/
inductive Meets (store : Store) (campaign : CampaignId) (spec : ChangesetSpec) (row : Changeset) :
    Prop
  | tracks {externalId : String} (target : spec.target = .trackExisting externalId)
      (located : row.repoId = spec.repoId) (named : row.externalId = some externalId) :
      Meets store campaign spec row
  | pushes {push : BranchPush} (target : spec.target = .branchPush push)
      (located : row.repoId = spec.repoId) (owned : row.ownerId = some campaign)
      (branch : store.headRefOf? row = some push.headRef) :
      Meets store campaign spec row

theorem isAbout_eq_true_iff {spec : ChangesetSpec} {row : Changeset} :
    store.isAbout campaign spec row = true ↔ store.Meets campaign spec row := by
  cases target : spec.target with
  | trackExisting externalId =>
    simp only [isAbout, target, Bool.and_eq_true, beq_iff_eq]
    constructor
    · rintro ⟨located, named⟩
      exact .tracks target located named
    · rintro (⟨same, located, named⟩ | ⟨same, -, -, -⟩)
      · rw [target] at same
        cases same
        exact ⟨located, named⟩
      · rw [target] at same
        cases same
  | branchPush push =>
    simp only [isAbout, target, Changeset.isOwnedBy, Bool.and_eq_true, beq_iff_eq]
    constructor
    · rintro ⟨located, owned, branch⟩
      exact .pushes target located owned branch
    · rintro (⟨same, -, -⟩ | ⟨same, located, owned, branch⟩)
      · rw [target] at same
        cases same
      · rw [target] at same
        cases same
        exact ⟨located, owned, branch⟩

/-- The mapping rows are those of the specs, `wanted`, and those of other changesets, `others`. -/
structure Joins (store : Store) (campaignSpec : CampaignSpecId) (campaign : CampaignId)
    (wanted others : List MappingRow) : Prop where
  rows : store.mappingRows campaignSpec campaign = wanted ++ others
  /-- There is one row for each spec of the campaign spec. -/
  specs : wanted.map (fun row => (row.repoId, row.specId)) =
    (store.specsOf campaignSpec).map fun spec => (spec.repoId, some spec.id)
  /-- They are in the order of their numbers. -/
  ascending : (store.specsOf campaignSpec).Pairwise fun first second => first.id < second.id
  /-- The other rows are those of the campaign's changesets that no spec is paired with. -/
  unpaired (row : MappingRow) : row ∈ others ↔ ∃ changeset ∈ store.changesetsOf campaign,
    (∀ pair ∈ wanted, pair.changesetId ≠ some changeset.id) ∧
      row = ⟨changeset.repoId, some changeset.id, none⟩
  /-- No changeset is in two rows. -/
  distinct : ((wanted ++ others).filterMap (·.changesetId)).Nodup
  /-- A spec is paired with a stored changeset that it may be paired with. -/
  paired {row : MappingRow} {id : ChangesetId} (member : row ∈ wanted)
    (named : row.changesetId = some id) :
    ∃ spec changeset, row.specId = some spec.id ∧
      store.changesetSpecs.find? spec.id = some spec ∧
      store.changesets.find? id = some changeset ∧ store.Meets campaign spec changeset
  /-- It is paired with none only if each of them is paired with a spec of a smaller number. -/
  exhausted {row : MappingRow} {spec : ChangesetSpec} {id : ChangesetId} {changeset : Changeset}
    (member : row ∈ wanted) (named : row.specId = some spec.id)
    (stored : store.changesetSpecs.find? spec.id = some spec) (alone : row.changesetId = none)
    (found : store.changesets.find? id = some changeset)
    (meets : store.Meets campaign spec changeset) :
    ∃ other ∈ wanted, other.changesetId = some id ∧
      ∃ smaller, other.specId = some smaller ∧ smaller < spec.id

def rowOfPair (pair : ChangesetSpec × Option Changeset) : MappingRow :=
  ⟨pair.1.repoId, pair.2.map (·.id), some pair.1.id⟩

/-- The changesets of a campaign that no spec is paired with. -/
def unpaired (store : Store) (campaignSpec : CampaignSpecId) (campaign : CampaignId) :
    List Changeset :=
  (store.changesetsOf campaign).filter fun changeset =>
    !((store.pairs campaignSpec campaign).filterMap fun pair => pair.2.map (·.id)).contains
      changeset.id

def rowOfUnpaired (changeset : Changeset) : MappingRow :=
  ⟨changeset.repoId, some changeset.id, none⟩

theorem mappingRows_eq (store : Store) (campaignSpec : CampaignSpecId) (campaign : CampaignId) :
    store.mappingRows campaignSpec campaign =
      (store.pairs campaignSpec campaign).map rowOfPair ++
        (store.unpaired campaignSpec campaign).map rowOfUnpaired := rfl

private theorem mem_unpaired {changeset : Changeset} :
    changeset ∈ store.unpaired campaignSpec campaign ↔
      changeset ∈ store.changesetsOf campaign ∧
        ∀ pair ∈ store.pairs campaignSpec campaign, pair.2.map (·.id) ≠ some changeset.id := by
  rw [unpaired, List.mem_filter, Bool.not_eq_true', ← Bool.not_eq_true, List.contains_iff_mem,
    List.mem_filterMap]
  exact and_congr_right fun _ =>
    ⟨fun free pair paired same => free ⟨pair, paired, same⟩,
      fun free ⟨pair, paired, same⟩ => free pair paired same⟩

/-- All changesets that are stored have numbers of their own. -/
theorem Numbered.nodup_changesets (numbered : store.Numbered) :
    (store.changesets.rows.map (·.id)).Nodup := by
  refine List.pairwise_map.mpr (List.pairwise_map.mpr (store.changesets.ascending.imp_of_mem ?_))
  rintro ⟨id, first⟩ ⟨other, second⟩ member later less same
  rw [← Table.find?_eq_some_iff] at member later
  rw [(numbered.changesets member).1, (numbered.changesets later).1] at same
  exact Id.ne_of_lt less same

private theorem Numbered.nodup_mappingRows (numbered : store.Numbered)
    (campaignSpec : CampaignSpecId) (campaign : CampaignId) :
    ((store.mappingRows campaignSpec campaign).filterMap (·.changesetId)).Nodup := by
  have first : ((store.pairs campaignSpec campaign).map rowOfPair).filterMap (·.changesetId) =
      (store.pairs campaignSpec campaign).filterMap fun pair => pair.2.map (·.id) := by
    rw [List.filterMap_map]
    rfl
  have second : ((store.unpaired campaignSpec campaign).map rowOfUnpaired).filterMap
      (·.changesetId) = (store.unpaired campaignSpec campaign).map (·.id) := by
    rw [List.filterMap_map, ← List.filterMap_eq_map]
    rfl
  rw [mappingRows_eq, List.filterMap_append, first, second]
  refine List.nodup_append'.mpr ⟨(store.nodup_pairings campaign ∅ _).1, ?_, ?_⟩
  · refine numbered.nodup_changesets.sublist (List.Sublist.map _ ?_)
    exact List.filter_sublist.trans List.filter_sublist
  · intro id paired listed
    obtain ⟨changeset, member, rfl⟩ := List.mem_map.mp listed
    obtain ⟨pair, present, same⟩ := List.mem_filterMap.mp paired
    exact (mem_unpaired.mp member).2 pair present same

/-- The mapping rows join the specs of a campaign spec with the changesets of a campaign. -/
theorem Numbered.joins (numbered : store.Numbered) (campaignSpec : CampaignSpecId)
    (campaign : CampaignId) :
    store.Joins campaignSpec campaign ((store.pairs campaignSpec campaign).map rowOfPair)
      ((store.unpaired campaignSpec campaign).map rowOfUnpaired) where
  rows := mappingRows_eq store campaignSpec campaign
  specs := by
    have listed := store.map_fst_pairings campaign ∅ (store.specsOf campaignSpec)
    rw [← listed, List.map_map, List.map_map]
    rfl
  ascending := numbered.ascending_specsOf campaignSpec
  unpaired row := by
    simp only [List.mem_map, mem_unpaired, forall_exists_index, and_imp,
      forall_apply_eq_imp_iff₂, rowOfPair, rowOfUnpaired]
    constructor
    · rintro ⟨changeset, ⟨attached, free⟩, rfl⟩
      exact ⟨changeset, attached, free, rfl⟩
    · rintro ⟨changeset, attached, free, rfl⟩
      exact ⟨changeset, ⟨attached, free⟩, rfl⟩
  distinct := numbered.nodup_mappingRows campaignSpec campaign
  paired {row id} member named := by
    obtain ⟨⟨spec, partner⟩, paired, rfl⟩ := List.mem_map.mp member
    obtain ⟨changeset, rfl, rfl⟩ := Option.map_eq_some_iff.mp named
    obtain ⟨stored, about⟩ := (mem_pairings paired).2 changeset rfl
    exact ⟨spec, changeset, rfl, numbered.find?_of_paired paired, numbered.find?_of_mem stored,
      isAbout_eq_true_iff.mp about⟩
  exhausted {row spec id changeset} member named stored alone found meets := by
    obtain ⟨⟨wanted, partner⟩, paired, rfl⟩ := List.mem_map.mp member
    obtain rfl := Option.map_eq_none_iff.mp alone
    have known := numbered.find?_of_paired paired
    rw [Option.some.inj named, stored] at known
    cases known
    rcases earlier_of_unpaired (Table.mem_rows_iff.mpr ⟨id, found⟩)
      (isAbout_eq_true_iff.mpr meets) paired with before | ⟨other, chosen, same, earlier⟩
    · cases before
    · refine ⟨_, List.mem_map_of_mem (earlier.subset List.mem_cons_self), ?_, other.id, rfl, ?_⟩
      · rw [rowOfPair, Option.map_some, same, (numbered.changesets found).1]
      · have ordered := (numbered.ascending_pairs campaignSpec campaign).sublist earlier
        exact (List.pairwise_cons.mp ordered).1 _ List.mem_cons_self

private theorem Numbered.nodup_specIds (numbered : store.Numbered) (campaignSpec : CampaignSpecId)
    (campaign : CampaignId) :
    ((store.mappingRows campaignSpec campaign).filterMap (·.specId)).Nodup := by
  refine List.pairwise_filterMap.mpr
    ((numbered.pairwise_mappingRows campaignSpec campaign).imp ?_)
  intro first second apart id named other namedToo same
  exact apart id named (same ▸ namedToo)

private theorem Numbered.names_of_mem_mappingRows (numbered : store.Numbered) {row : MappingRow}
    (member : row ∈ store.mappingRows campaignSpec campaign) :
    (∀ id, row.changesetId = some id → ∃ changeset, store.changesets.find? id = some changeset) ∧
      ∀ id, row.specId = some id → ∃ spec, store.changesetSpecs.find? id = some spec := by
  rcases mem_mappingRows member with
    ⟨spec, partner, paired, rfl⟩ | ⟨changeset, attached, -, rfl⟩
  · constructor
    · intro id named
      obtain ⟨changeset, rfl, rfl⟩ := Option.map_eq_some_iff.mp named
      exact ⟨changeset, numbered.find?_of_mem ((mem_pairings paired).2 changeset rfl).1⟩
    · rintro _ ⟨⟩
      exact ⟨spec, numbered.find?_of_paired paired⟩
  · constructor
    · rintro _ ⟨⟩
      exact ⟨changeset, numbered.find?_of_mem (List.mem_filter.mp attached).1⟩
    · rintro _ ⟨⟩

end Store

/-- A table has a row for each of some identifiers, all of which are different. -/
structure Table.Supplies {kind : Kind} {α : Type} (table : Table kind α) (ids : List (Id kind)) :
    Prop where
  distinct : ids.Nodup
  present {id : Id kind} (named : id ∈ ids) : ∃ row, table.find? id = some row

namespace Mapping

variable {kind : Kind} {α : Type} {table : Table kind α}

/-- What the first row names can be taken out of a table that supplies all rows, and what is left
supplies the others. -/
theorem exists_take {name : MappingRow → Option (Id kind)} {row : MappingRow}
    {others : List MappingRow} (missing : Id kind → CampaignError)
    (supplies : table.Supplies ((row :: others).filterMap name)) :
    ∃ taken rest, take missing table (name row) = .ok (taken, rest) ∧
      rest.Supplies (others.filterMap name) := by
  cases named : name row with
  | none =>
    rw [List.filterMap_cons_none named] at supplies
    exact ⟨none, table, rfl, supplies⟩
  | some id =>
    rw [List.filterMap_cons_some named] at supplies
    obtain ⟨new, distinct⟩ := List.nodup_cons.mp supplies.distinct
    obtain ⟨taken, found⟩ := supplies.present List.mem_cons_self
    refine ⟨some taken, table.erase id, by simp only [take, found], distinct, fun later => ?_⟩
    rw [Table.find?_erase, if_neg]
    · exact supplies.present (List.mem_cons_of_mem _ later)
    · rintro rfl
      exact new later

private theorem exists_ofRows (repos : Table .repo Repo) {changesets : Table .changeset Changeset}
    {specs : Table .changesetSpec ChangesetSpec} {rows : List MappingRow}
    (suppliesChangesets : changesets.Supplies (rows.filterMap (·.changesetId)))
    (suppliesSpecs : specs.Supplies (rows.filterMap (·.specId))) :
    ∃ mappings, ofRows repos changesets specs rows = .ok mappings := by
  induction rows generalizing changesets specs with
  | nil => exact ⟨[], rfl⟩
  | cons row rest ih =>
    obtain ⟨changeset, changesetsLeft, tookChangeset, suppliesChangesets⟩ :=
      exists_take .changesetNotFound suppliesChangesets
    obtain ⟨spec, specsLeft, tookSpec, suppliesSpecs⟩ :=
      exists_take .changesetSpecNotFound suppliesSpecs
    obtain ⟨others, filled⟩ := ih suppliesChangesets suppliesSpecs
    refine ⟨⟨row.repoId, repos.find? row.repoId, changeset, spec⟩ :: others, ?_⟩
    simp only [ofRows, tookChangeset, tookSpec, filled, bind, Except.bind, pure, Except.pure]

/-- A table that is made of rows has a row for the number of each of them. -/
theorem exists_find?_foldl_insert {key : α → Id kind} {rows : List α} {id : Id kind}
    (present : (∃ row, table.find? id = some row) ∨ ∃ row ∈ rows, key row = id) :
    ∃ row, (rows.foldl (fun table row => table.insert (key row) row) table).find? id =
      some row := by
  induction rows generalizing table with
  | nil => exact present.resolve_right fun ⟨_, member, _⟩ => List.not_mem_nil member
  | cons first rest ih =>
    refine ih ?_
    rw [Table.find?_insert]
    by_cases here : key first = id
    · exact .inl ⟨first, if_pos here⟩
    · rw [if_neg here]
      refine present.imp_right ?_
      rintro ⟨row, member, same⟩
      rcases List.mem_cons.mp member with rfl | later
      · exact absurd same here
      · exact ⟨row, later, same⟩

/-- The rows that are read for some identifiers supply them, if each of them is stored. -/
theorem supplies_pick {key : α → Id kind} {ids : List (Id kind)} (distinct : ids.Nodup)
    (stored : ∀ id ∈ ids, ∃ row, table.find? id = some row ∧ key row = id) :
    ((Store.pick table ids).foldl (fun table row => table.insert (key row) row)
      Table.empty).Supplies ids := by
  refine ⟨distinct, fun {id} named => exists_find?_foldl_insert (.inr ?_)⟩
  obtain ⟨row, found, same⟩ := stored id named
  exact ⟨row, List.mem_filterMap.mpr ⟨id, named, found⟩, same⟩

section

variable {backend next : Backend} {visible : Visibility} {actor : Actor}
  {campaignSpec : CampaignSpecId} {campaign : CampaignId}

/-- What a store has under the numbers that its mapping rows name is enough to fill them. -/
theorem exists_ofRows_mappingRows {store : Store} (numbered : store.Numbered)
    (campaignSpec : CampaignSpecId) (campaign : CampaignId) (repos : Table .repo Repo) :
    ∃ mappings, ofRows repos
      ((Store.pick store.changesets
          ((store.mappingRows campaignSpec campaign).filterMap (·.changesetId))).foldl
        (fun table changeset => table.insert changeset.id changeset) ∅)
      ((Store.pick store.changesetSpecs
          ((store.mappingRows campaignSpec campaign).filterMap (·.specId))).foldl
        (fun table spec => table.insert spec.id spec) ∅)
      (store.mappingRows campaignSpec campaign) = .ok mappings := by
  refine exists_ofRows repos
    (supplies_pick (numbered.nodup_mappingRows campaignSpec campaign) ?_)
    (supplies_pick (numbered.nodup_specIds campaignSpec campaign) ?_)
  · intro id named
    obtain ⟨row, member, same⟩ := List.mem_filterMap.mp named
    obtain ⟨changeset, found⟩ := (numbered.names_of_mem_mappingRows member).1 id same
    exact ⟨changeset, found, (numbered.changesets found).1⟩
  · intro id named
    obtain ⟨row, member, same⟩ := List.mem_filterMap.mp named
    obtain ⟨spec, found⟩ := (numbered.names_of_mem_mappingRows member).2 id same
    exact ⟨spec, found, (numbered.changesetSpecs found).1⟩

/-- The mappings of a campaign spec and a campaign cannot be read only if a failure of the store
strikes. -/
theorem hydrate_struck {error : CampaignError} (numbered : backend.store.Numbered)
    (failed : Access.Ends
      (hydrate visible actor (backend.store.mappingRows campaignSpec campaign)) backend
      (.error error) next) :
    ∃ call ∈ [StoreCall.readChangesets, .readChangesetSpecs, .readRepos], ∃ detail,
      (Fault.meet call backend.faults).1 = some detail ∧ error = .store (.backend detail) := by
  rw [hydrate, Access.ends_bind] at failed
  rcases failed with ⟨changesets, first, readChangesets, rest⟩ | ⟨_, ⟨⟩, failed⟩
  · replace readChangesets := Access.ends_wrapping_ok.mp readChangesets
    have faultsFirst := Access.faults_of_call readChangesets
    obtain ⟨rfl, sameFirst⟩ := Access.call_read_ok readChangesets
    rw [Access.ends_bind] at rest
    rcases rest with ⟨specs, second, readSpecs, rest⟩ | ⟨_, ⟨⟩, failed⟩
    · replace readSpecs := Access.ends_wrapping_ok.mp readSpecs
      have faultsSecond := Access.faults_of_call readSpecs
      obtain ⟨rfl, sameSecond⟩ := Access.call_read_ok readSpecs
      rw [Access.ends_bind] at rest
      rcases rest with ⟨repos, third, readRepos, filling⟩ | ⟨_, ⟨⟩, failed⟩
      · -- What was read is enough to fill the rows.
        obtain ⟨mappings, filled⟩ := exists_ofRows_mappingRows numbered campaignSpec campaign
          (repos.filter fun _ repo => visible actor repo)
        rw [sameFirst, filled] at filling
        cases filling
      · obtain ⟨detail, strikes, rfl⟩ := Access.wrapped_read_struck failed
        rw [faultsSecond, Fault.meet_meet (by decide), faultsFirst,
          Fault.meet_meet (by decide)] at strikes
        exact ⟨.readRepos, by simp, detail, strikes, rfl⟩
    · obtain ⟨detail, strikes, rfl⟩ := Access.wrapped_read_struck failed
      rw [faultsFirst, Fault.meet_meet (by decide)] at strikes
      exact ⟨.readChangesetSpecs, by simp, detail, strikes, rfl⟩
  · obtain ⟨detail, strikes, rfl⟩ := Access.wrapped_read_struck failed
    exact ⟨.readChangesets, by simp, detail, strikes, rfl⟩

/-- If none does, they can be read. -/
theorem exists_hydrate (numbered : backend.store.Numbered)
    (passes : ∀ call ∈ [StoreCall.readChangesets, .readChangesetSpecs, .readRepos],
      (Fault.meet call backend.faults).1 = none) :
    ∃ mappings next, Access.Ends
      (hydrate visible actor (backend.store.mappingRows campaignSpec campaign)) backend
      (.ok mappings) next := by
  have ended := Access.ends_self
    (hydrate visible actor (backend.store.mappingRows campaignSpec campaign)) backend
  generalize (hydrate visible actor (backend.store.mappingRows campaignSpec campaign)
    backend).1 = result at ended
  cases result with
  | ok mappings => exact ⟨mappings, _, ended⟩
  | error error =>
    obtain ⟨call, member, detail, strikes, -⟩ := hydrate_struck numbered ended
    rw [passes call member] at strikes
    cases strikes

end

end Mapping

end BatchChanges
