import BatchChanges.Campaign.Mapping
import BatchChanges.Proofs.Access
import BatchChanges.Proofs.Store.Numbering
import Mathlib.Data.List.Forall2

/-! # Where mappings come from

The mappings of an application hold rows of the store, under the numbers that the mapping rows name.
A spec is mapped to a changeset that it is about; a changeset without spec is one of the campaign's
that no spec was paired with.
-/

namespace BatchChanges

/-- A row that may be named, and is then in the table. -/
inductive Table.Names {kind : Kind} {α : Type} (table : Table kind α) :
    Option (Id kind) → Option α → Prop
  | nothing : Names table none none
  | row {id : Id kind} {row : α} (found : table.find? id = some row) :
      Names table (some id) (some row)

/-- What a table names, a larger one names too. -/
theorem Table.Names.mono {kind : Kind} {α : Type} {table larger : Table kind α}
    {id : Option (Id kind)} {row : Option α} (names : table.Names id row)
    (grown : ∀ {id row}, table.find? id = some row → larger.find? id = some row) :
    larger.Names id row := by
  cases names with
  | nothing => exact .nothing
  | row found => exact .row (grown found)

/-- A table names at most one row. -/
theorem Table.Names.unique {kind : Kind} {α : Type} {table : Table kind α} {id : Option (Id kind)}
    {row other : Option α} (names : table.Names id row) (same : table.Names id other) :
    row = other := by
  cases names with
  | nothing =>
    cases same
    rfl
  | row found =>
    cases same with
    | row present => exact found.symm.trans present

section

variable {α β : Type} {related : α → β → Prop} {lefts : List α} {rights : List β}

theorem exists_of_mem_left (pairs : List.Forall₂ related lefts rights) {left : α}
    (member : left ∈ lefts) : ∃ right ∈ rights, related left right := by
  induction pairs with
  | nil => cases member
  | cons here rest ih =>
    rcases List.mem_cons.mp member with rfl | later
    · exact ⟨_, List.mem_cons_self, here⟩
    · obtain ⟨right, present, holds⟩ := ih later
      exact ⟨right, List.mem_cons_of_mem _ present, holds⟩

theorem exists_of_mem_right (pairs : List.Forall₂ related lefts rights) {right : β}
    (member : right ∈ rights) : ∃ left ∈ lefts, related left right :=
  exists_of_mem_left pairs.flip member

/-- Lists side by side name the same things if each pair does. -/
theorem filterMap_eq_of_forall₂ {γ : Type} {first : α → Option γ} {second : β → Option γ}
    (pairs : List.Forall₂ related lefts rights)
    (same : ∀ left ∈ lefts, ∀ right, related left right → second right = first left) :
    rights.filterMap second = lefts.filterMap first := by
  induction pairs with
  | nil => rfl
  | cons here rest ih =>
    rw [List.forall_mem_cons] at same
    rw [List.filterMap_cons, List.filterMap_cons, same.1 _ here, ih same.2]

end

namespace Store

theorem mem_pairings {store : Store} {campaign : CampaignId} {taken : IdSet .changeset}
    {specs : List ChangesetSpec} {spec : ChangesetSpec} {partner : Option Changeset}
    (paired : (spec, partner) ∈ store.pairings campaign taken specs) :
    spec ∈ specs ∧ ∀ row, partner = some row →
      row ∈ store.changesets.rows ∧ store.isAbout campaign spec row = true := by
  induction specs generalizing taken with
  | nil => cases paired
  | cons first rest ih =>
    simp only [pairings] at paired
    split at paired
    · next chosen found =>
      rcases List.mem_cons.mp paired with same | later
      · cases same
        refine ⟨List.mem_cons_self, ?_⟩
        rintro row ⟨⟩
        have accepted := List.find?_some found
        simp only [Bool.and_eq_true] at accepted
        exact ⟨List.mem_of_find?_eq_some found, accepted.2⟩
      · exact ⟨List.mem_cons_of_mem _ (ih later).1, (ih later).2⟩
    · rcases List.mem_cons.mp paired with same | later
      · cases same
        exact ⟨List.mem_cons_self, fun _ told => by cases told⟩
      · exact ⟨List.mem_cons_of_mem _ (ih later).1, (ih later).2⟩

/-- Only changesets and their specs matter for the pairs. -/
theorem pairings_congr {store next : Store} (rows : next.changesets = store.changesets)
    (specs : next.changesetSpecs = store.changesetSpecs) (campaign : CampaignId)
    (taken : IdSet .changeset) (wanted : List ChangesetSpec) :
    next.pairings campaign taken wanted = store.pairings campaign taken wanted := by
  have about : next.isAbout campaign = store.isAbout campaign := by
    funext spec row
    simp only [isAbout, headRefOf?, specs]
  induction wanted generalizing taken with
  | nil => rfl
  | cons spec rest ih => simp only [pairings, rows, about, ih]

def pairs (store : Store) (campaignSpec : CampaignSpecId) (campaign : CampaignId) :
    List (ChangesetSpec × Option Changeset) :=
  store.pairings campaign ∅ (store.specsOf campaignSpec)

/-- Specs that are paired are stored. -/
theorem Numbered.find?_of_paired {store : Store} (numbered : store.Numbered)
    {campaignSpec : CampaignSpecId} {campaign : CampaignId} {spec : ChangesetSpec}
    {partner : Option Changeset} (paired : (spec, partner) ∈ store.pairs campaignSpec campaign) :
    store.changesetSpecs.find? spec.id = some spec := by
  have member := (mem_pairings paired).1
  simp only [specsOf, List.mem_filter, Table.mem_rows_iff] at member
  obtain ⟨⟨id, found⟩, -⟩ := member
  rw [(numbered.changesetSpecs found).1]
  exact found

theorem mem_mappingRows {store : Store} {campaignSpec : CampaignSpecId} {campaign : CampaignId}
    {row : MappingRow} (member : row ∈ store.mappingRows campaignSpec campaign) :
    (∃ spec partner, (spec, partner) ∈ store.pairs campaignSpec campaign ∧
      row = ⟨spec.repoId, partner.map (·.id), some spec.id⟩) ∨
    ∃ changeset ∈ store.changesetsOf campaign,
      (∀ pair ∈ store.pairs campaignSpec campaign, pair.2.map (·.id) ≠ some changeset.id) ∧
        row = ⟨changeset.repoId, some changeset.id, none⟩ := by
  simp only [mappingRows, List.mem_append, List.mem_map, List.mem_filter] at member
  rcases member with ⟨⟨spec, partner⟩, paired, rfl⟩ | ⟨changeset, ⟨attached, free⟩, rfl⟩
  · exact .inl ⟨spec, partner, paired, rfl⟩
  · refine .inr ⟨changeset, attached, ?_, rfl⟩
    intro pair paired same
    rw [Bool.not_eq_true', ← Bool.not_eq_true, List.contains_iff_mem] at free
    exact free (List.mem_filterMap.mpr ⟨pair, paired, same⟩)

/-- Each changeset of the campaign is named by a mapping row. -/
theorem mappingRows_names {store : Store} {campaign : CampaignId} (campaignSpec : CampaignSpecId)
    {changeset : Changeset} (attached : changeset ∈ store.changesetsOf campaign) :
    ∃ row ∈ store.mappingRows campaignSpec campaign, row.changesetId = some changeset.id := by
  simp only [mappingRows, List.mem_append, List.mem_map, List.mem_filter]
  by_cases chosen : changeset.id ∈
      (store.pairings campaign ∅ (store.specsOf campaignSpec)).filterMap fun pair =>
        pair.2.map (·.id)
  · obtain ⟨pair, paired, same⟩ := List.mem_filterMap.mp chosen
    exact ⟨_, .inl ⟨pair, paired, rfl⟩, same⟩
  · refine ⟨_, .inr ⟨changeset, ⟨attached, ?_⟩, rfl⟩, rfl⟩
    rw [Bool.not_eq_true', ← Bool.not_eq_true, List.contains_iff_mem]
    exact chosen

end Store

namespace Mapping

/-- A mapping holds what a mapping row names. -/
structure Fills (store : Store) (visible : Visibility) (actor : Actor) (row : MappingRow)
    (mapping : Mapping) : Prop where
  repo : mapping.repo = (store.repos.find? row.repoId).filter (visible actor)
  changeset : store.changesets.Names row.changesetId mapping.changeset
  spec : store.changesetSpecs.Names row.specId mapping.spec

/-- The changeset that a mapping holds is stored. -/
theorem Fills.stored {store : Store} {visible : Visibility} {actor : Actor} {row : MappingRow}
    {mapping : Mapping} (filled : mapping.Fills store visible actor row) (numbered : store.Numbered)
    {changeset : Changeset} (held : mapping.changeset = some changeset) :
    row.changesetId = some changeset.id ∧ store.changesets.find? changeset.id = some changeset := by
  have names := filled.changeset
  rw [held] at names
  generalize row.changesetId = named at names
  cases names with
  | row found =>
    rw [(numbered.changesets found).1]
    exact ⟨rfl, found⟩

/-- It has the number that the mapping row names. -/
theorem Fills.map_id {store : Store} {visible : Visibility} {actor : Actor} {row : MappingRow}
    {mapping : Mapping} (filled : mapping.Fills store visible actor row)
    (numbered : store.Numbered) : mapping.changeset.map (·.id) = row.changesetId := by
  cases held : mapping.changeset with
  | some changeset => exact (filled.stored numbered held).1.symm
  | none =>
    have names := filled.changeset
    rw [held] at names
    generalize row.changesetId = named at names
    cases names
    rfl

private theorem take_eq_ok {kind : Kind} {α : Type} {missing : Id kind → CampaignError}
    {table rest : Table kind α} {id : Option (Id kind)} {row : Option α}
    (taken : take missing table id = .ok (row, rest)) :
    table.Names id row ∧ (∀ {id row}, rest.find? id = some row → table.find? id = some row) ∧
      ∀ {named}, id = some named → rest.find? named = none := by
  cases id with
  | none =>
    cases taken
    exact ⟨.nothing, fun found => found, fun named => by cases named⟩
  | some id =>
    simp only [take] at taken
    split at taken
    · next found =>
      cases taken
      refine ⟨.row found, ?_, ?_⟩
      · exact fun present => (Table.find?_erase_eq_some.mp present).2
      · rintro named ⟨⟩
        rw [Table.find?_erase, if_pos rfl]
    · cases taken

/-- Each mapping row is filled with what is left in the tables when its turn comes, which was there
from the start. What is taken is gone, so that no changeset is named twice. -/
theorem ofRows_ok {repos : Table .repo Repo} {changesets : Table .changeset Changeset}
    {specs : Table .changesetSpec ChangesetSpec} {rows : List MappingRow}
    {mappings : List Mapping} (filled : ofRows repos changesets specs rows = .ok mappings) :
    List.Forall₂ (fun row mapping => mapping.repo = repos.find? row.repoId ∧
      changesets.Names row.changesetId mapping.changeset ∧ specs.Names row.specId mapping.spec)
      rows mappings ∧ (rows.filterMap (·.changesetId)).Nodup := by
  induction rows generalizing changesets specs mappings with
  | nil =>
    cases filled
    exact ⟨.nil, List.nodup_nil⟩
  | cons row rest ih =>
    simp only [ofRows, bind, Except.bind] at filled
    split at filled
    · cases filled
    · next changesetTaken tookChangeset =>
      split at filled
      · cases filled
      · next specTaken tookSpec =>
        split at filled
        · cases filled
        · next others filledRest =>
          cases filled
          obtain ⟨namesChangeset, fewerChangesets, gone⟩ := take_eq_ok tookChangeset
          obtain ⟨namesSpec, fewerSpecs, -⟩ := take_eq_ok tookSpec
          obtain ⟨fills, distinct⟩ := ih filledRest
          refine ⟨.cons ⟨rfl, namesChangeset, namesSpec⟩ (fills.imp ?_), ?_⟩
          · rintro other mapping ⟨repo, changeset, spec⟩
            exact ⟨repo, changeset.mono fewerChangesets, spec.mono fewerSpecs⟩
          · cases named : row.changesetId with
            | none => rwa [List.filterMap_cons_none named]
            | some id =>
              rw [List.filterMap_cons_some named, List.nodup_cons]
              refine ⟨?_, distinct⟩
              intro again
              obtain ⟨other, later, same⟩ := List.mem_filterMap.mp again
              obtain ⟨mapping, -, -, names, -⟩ := exists_of_mem_left fills later
              rw [same] at names
              generalize mapping.changeset = changeset at names
              cases names with
              | row found =>
                rw [gone named] at found
                cases found

private theorem find?_foldl_insert {kind : Kind} {α : Type} {key : α → Id kind} {rows : List α}
    {table : Table kind α} {id : Id kind} {row : α}
    (found : (rows.foldl (fun table row => table.insert (key row) row) table).find? id = some row) :
    table.find? id = some row ∨ row ∈ rows ∧ key row = id := by
  induction rows generalizing table with
  | nil => exact .inl found
  | cons first rest ih =>
    rcases ih found with earlier | ⟨member, same⟩
    · rcases Table.find?_insert_eq_some.mp earlier with ⟨rfl, rfl⟩ | ⟨-, earlier⟩
      · exact .inr ⟨List.mem_cons_self, rfl⟩
      · exact .inl earlier
    · exact .inr ⟨List.mem_cons_of_mem _ member, same⟩

/-- Hydrated mappings hold rows of the store, which stays as it is. -/
theorem hydrate_ok {backend next : Backend} {visible : Visibility} {actor : Actor}
    {rows : List MappingRow} {mappings : List Mapping} (numbered : backend.store.Numbered)
    (done : Access.Ends (hydrate visible actor rows) backend (.ok mappings) next) :
    next.store = backend.store ∧
      List.Forall₂ (fun row mapping => mapping.Fills backend.store visible actor row) rows mappings ∧
      (rows.filterMap (·.changesetId)).Nodup := by
  simp only [hydrate, Access.ends_bind_ok, Access.ends_wrapping_ok, Access.ends_mk_pure_ok] at done
  obtain ⟨changesets, first, readChangesets, specs, second, readSpecs, repos, _, readRepos,
    filled, rfl⟩ := done
  obtain ⟨rfl, sameFirst⟩ := Access.call_read_ok readChangesets
  obtain ⟨rfl, sameSecond⟩ := Access.call_read_ok readSpecs
  obtain ⟨rfl, sameThird⟩ := Access.call_read_ok readRepos
  have same := sameSecond.trans sameFirst
  rw [sameFirst, same] at filled
  obtain ⟨fills, distinct⟩ := ofRows_ok filled
  refine ⟨sameThird.trans same, fills.imp ?_, distinct⟩
  rintro row mapping ⟨repo, changeset, spec⟩
  refine ⟨?_, changeset.mono ?_, spec.mono ?_⟩
  · rw [repo, Table.find?_filter]
  · intro id changeset found
    obtain ⟨⟨⟩⟩ | ⟨member, rfl⟩ := find?_foldl_insert found
    obtain ⟨id, -, stored⟩ := List.mem_filterMap.mp member
    rwa [(numbered.changesets stored).1]
  · intro id spec found
    obtain ⟨⟨⟩⟩ | ⟨member, rfl⟩ := find?_foldl_insert found
    obtain ⟨id, -, stored⟩ := List.mem_filterMap.mp member
    rwa [(numbered.changesetSpecs stored).1]

end Mapping

end BatchChanges
