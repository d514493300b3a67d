import BatchChanges.Proofs.Campaign.Record

/-! # Why a changeset is part of a campaign

After the transaction of an application there is a reason for every changeset of its campaign: a
spec of the generation is about it, or brought it about, or no spec is and the transaction has
passed it over, because the actor cannot see its repository. All others have left.
-/

namespace BatchChanges

namespace Generation

/-- A changeset of the campaign that no spec was paired with, in a repository that the actor cannot
see. -/
structure PassedOver (generation : Generation) (store : Store) (row : Changeset) : Prop where
  attached : row.isAttachedTo generation.campaign = true
  unpaired : ∀ pair ∈ store.pairs generation.spec generation.campaign, pair.2 ≠ some row
  hidden : ∀ repo, store.repos.find? row.repoId = some repo →
    generation.visible generation.actor repo = false

/-- How a changeset has come to be part of the campaign. -/
inductive Holds (generation : Generation) (store : Store) (id : ChangesetId) :
    Option Changeset → Changeset → Prop
  | followed {row : Changeset} {spec : ChangesetSpec}
      (paired : (spec, some row) ∈ store.pairs generation.spec generation.campaign) :
      Holds generation store id (some row)
        (row.following generation.campaign generation.now spec)
  | created {spec : ChangesetSpec} {repo : Repo}
      (paired : (spec, none) ∈ store.pairs generation.spec generation.campaign)
      (located : store.repos.find? spec.repoId = some repo) (fresh : store.lastId < id.value) :
      Holds generation store id none
        { Changeset.ofSpec generation.campaign generation.now repo spec with id }
  | passedOver {row : Changeset} (passed : generation.PassedOver store row) :
      Holds generation store id (some row) row

variable {generation : Generation} {store next : Store} {id : ChangesetId}
  {before : Option Changeset} {row : Changeset} {mapping : Mapping} {named : MappingRow}

private theorem Holds.congr (repos : next.repos = store.repos)
    (rows : next.changesets = store.changesets) (specs : next.changesetSpecs = store.changesetSpecs)
    (last : store.lastId ≤ next.lastId) (holds : generation.Holds next id before row) :
    generation.Holds store id before row := by
  have pairs : next.pairs generation.spec generation.campaign =
      store.pairs generation.spec generation.campaign := by
    simp only [Store.pairs, Store.specsOf, specs, Store.pairings_congr rows specs]
  cases holds with
  | followed paired => exact .followed (pairs ▸ paired)
  | created paired located fresh =>
    exact .created (pairs ▸ paired) (repos ▸ located) (Int.lt_of_le_of_lt last fresh)
  | passedOver passed =>
    exact .passedOver ⟨passed.attached, pairs ▸ passed.unpaired, repos ▸ passed.hidden⟩

/-- A changeset is left alone if no spec is about it and its repository cannot be seen. -/
theorem passedOver_of_untouched (generation : Generation) (numbered : store.Numbered)
    (listed : named ∈ store.mappingRows generation.spec generation.campaign)
    (filled : mapping.Fills store generation.visible generation.actor named)
    (decided : Placement.ofMapping generation.campaign generation.now mapping =
      .ok (.untouched row)) : generation.PassedOver store row := by
  have held := Placement.changeset_of_untouched decided
  obtain ⟨repoId, repo, changeset, spec⟩ := mapping
  obtain ⟨located, namesChangeset, namesSpec⟩ := filled
  simp only at held located namesChangeset namesSpec
  subst held
  cases spec with
  | some wanted => cases repo <;> cases decided
  | none =>
    cases repo with
    | some here =>
      simp only [Placement.ofMapping, Placement.ofDropped, Except.ok.injEq] at decided
      split_ifs at decided
    | none =>
      rcases Store.mem_mappingRows listed with
        ⟨wanted, partner, paired, rfl⟩ | ⟨member, attached, unpaired, rfl⟩
      · cases namesSpec
      · simp only [Store.changesetsOf, List.mem_filter] at attached
        cases namesChangeset with
        | row found =>
          rw [numbered.find?_of_mem attached.1] at found
          cases found
          refine ⟨attached.2, ?_, ?_⟩
          · intro pair paired other
            refine unpaired pair paired ?_
            rw [other, Option.map_some]
          · intro there present
            rw [present] at located
            by_contra seen
            rw [Bool.not_eq_false] at seen
            rw [Option.filter_some_pos seen] at located
            cases located

/-- A changeset that is written and part of the campaign follows a spec, or is a new one. -/
theorem holds_of_staged (generation : Generation) {placed : Changeset}
    (maps : generation.Maps store mapping)
    (decided : Placement.ofMapping generation.campaign generation.now mapping =
      .ok (.staged placed)) (attached : placed.isAttachedTo generation.campaign = true) :
    (∃ changeset, store.changesets.find? placed.id = some changeset ∧
        generation.Holds store placed.id (some changeset) placed) ∨
      placed.id = .unsaved ∧ ∀ id : ChangesetId, store.lastId < id.value →
        generation.Holds store id none { placed with id } := by
  cases maps with
  | @paired repoId repo spec partner paired located present =>
    cases repo with
    | none => cases decided
    | some repo =>
      cases partner with
      | none =>
        cases decided
        refine .inr ⟨Changeset.id_ofSpec .., ?_⟩
        intro id fresh
        exact .created paired (located rfl) fresh
      | some partner =>
        cases decided
        rw [Changeset.id_following]
        exact .inl ⟨partner, present rfl, .followed paired⟩
  | @unpaired repoId repo member present unwanted =>
    cases repo with
    | none => cases decided
    | some repo =>
      -- Whoever is dropped leaves the campaign.
      simp only [Placement.ofMapping, Except.ok.injEq] at decided
      rw [Changeset.isAttachedTo, Placement.campaignIds_of_ofDropped decided,
        IdSet.contains_erase] at attached
      simp at attached

end Generation

namespace Application

variable {application : Application} {visible : Visibility} {actor : Actor} {spec : CampaignSpec}
  {campaign applied : Campaign} {now : Time} {backend next : Backend} {id : ChangesetId}
  {row : Changeset}

/-- Each changeset of a campaign that was rewired is there for a reason. -/
theorem holds_of_rewires {spec : CampaignSpecId} (numbered : backend.store.Numbered)
    (rewires : Rewires visible actor spec campaign now backend applied next)
    (found : next.store.changesets.find? id = some row)
    (attached : row.isAttachedTo campaign.id = true) :
    Generation.Holds ⟨visible, actor, spec, campaign.id, now⟩ backend.store id
      (backend.store.changesets.find? id) row := by
  obtain @⟨mappings, placements, read, pruned, last, same, filled, distinct, decided, deleted,
    wrote, updated⟩ := rewires
  obtain ⟨kept, rows⟩ := delete_ok deleted
  have numberedDeleted := numbered_of_delete deleted (same ▸ numbered)
  rw [same] at kept rows
  have placed := placed_of_decided numbered filled distinct decided
  have mapped : ∀ {placement}, placement ∈ placements → ∃ mapping named,
      named ∈ backend.store.mappingRows spec campaign.id ∧
      mapping.Fills backend.store visible actor named ∧
      Placement.ofMapping campaign.id now mapping = .ok placement := by
    intro placement member
    obtain ⟨mapping, present, decision⟩ := exists_of_mem_right decided member
    obtain ⟨named, listed, fills⟩ := exists_of_mem_right filled present
    exact ⟨mapping, named, listed, fills, decision⟩
  have written := (write_ok numberedDeleted wrote).1.row id
  rw [(Access.updateCampaign_ok updated).2] at found
  rw [show last.store.changesets.find? id = some row from found, rows id, kept] at written
  generalize remains : (if id ∈ placements.filterMap Placement.deleted? then none
    else backend.store.changesets.find? id) = before at written
  cases written with
  | kept spared =>
    rw [Option.ite_none_left_eq_some] at remains
    obtain ⟨spares, present⟩ := remains
    obtain ⟨placement, member, about⟩ :=
      placed.complete (Store.holds_iff.mpr ⟨row, present, attached⟩)
    cases placement with
    | nothing => cases about
    | deleted _ =>
      cases about
      exact absurd (Placement.mem_filterMap_deleted?.mpr member) spares
    | untouched changeset =>
      cases about
      have stays := placed.untouched member
      rw [present] at stays
      cases stays
      obtain ⟨mapping, named, listed, fills, decision⟩ := mapped member
      rw [present]
      exact .passedOver (Generation.passedOver_of_untouched
        ⟨visible, actor, spec, campaign.id, now⟩ numbered listed fills decision)
    | staged changeset =>
      obtain ⟨known, same⟩ := Placement.subject?_staged.mp about
      exact absurd (spared changeset (Placement.mem_filterMap_staged?.mpr member) same) known
  | stored member same known =>
    obtain ⟨mapping, named, listed, fills, decision⟩ :=
      mapped (Placement.mem_filterMap_staged?.mp member)
    rcases Generation.holds_of_staged ⟨visible, actor, spec, campaign.id, now⟩
        (Generation.maps_of_fills numbered listed fills) decision attached with
      ⟨changeset, stored, holds⟩ | ⟨unsaved, -⟩
    · rw [← same, stored]
      exact holds
    · exact absurd unsaved known
  | fresh member unsaved new =>
    obtain ⟨mapping, named, listed, fills, decision⟩ :=
      mapped (Placement.mem_filterMap_staged?.mp member)
    rcases Generation.holds_of_staged ⟨visible, actor, spec, campaign.id, now⟩
        (Generation.maps_of_fills numbered listed fills) decision attached with
      ⟨changeset, stored, -⟩ | ⟨-, holds⟩
    · exact absurd unsaved (numbered.ne_unsaved stored)
    · rw [numbered.find?_of_lt new]
      exact holds id new

/-- An application that succeeds rewires its campaign, which may have to be created before. -/
theorem rewires_of_transact (numbered : backend.store.Numbered)
    (done : Access.Ends (application.transact visible spec campaign now) backend (.ok applied)
      next) :
    ∃ first last stored, first.store.Numbered ∧ first.store.repos = backend.store.repos ∧
      first.store.changesets = backend.store.changesets ∧
      first.store.changesetSpecs = backend.store.changesetSpecs ∧
      backend.store.lastId ≤ first.store.lastId ∧ last.store = next.store ∧
      applied.id = stored.id ∧
      Rewires visible application.actor spec.id stored now first applied last := by
  obtain ⟨first, last, same, left, rewired⟩ := rewire_of_transact done
  rw [← same] at numbered ⊢
  rw [rewire_eq, Access.ends_bind_ok] at rewired
  obtain ⟨stored, middle, created, rest⟩ := rewired
  split at created
  · rw [Access.ends_wrapping_ok] at created
    have numberedMiddle := Access.numbered_of_createCampaign created numbered
    obtain ⟨-, begun⟩ := Access.createCampaign_ok created
    have rewires := rewires_of_rewireStored numberedMiddle rest
    refine ⟨middle, last, stored, numberedMiddle, by rw [begun], by rw [begun], by rw [begun], ?_,
      left.symm, (contains_of_rewires numberedMiddle rewires).1, rewires⟩
    rw [begun]
    exact Int.le_add_one (Int.le_refl _)
  · obtain ⟨rfl, rfl⟩ := Access.ends_pure_ok.mp created
    have rewires := rewires_of_rewireStored numbered rest
    exact ⟨_, last, _, numbered, rfl, rfl, rfl, Int.le_refl _, left.symm,
      (contains_of_rewires numbered rewires).1, rewires⟩

/-- So each changeset of a campaign that a spec was applied to is there for a reason. -/
theorem holds_of_transact (numbered : backend.store.Numbered)
    (done : Access.Ends (application.transact visible spec campaign now) backend (.ok applied)
      next)
    (found : next.store.changesets.find? id = some row)
    (attached : row.isAttachedTo applied.id = true) :
    Generation.Holds ⟨visible, application.actor, spec.id, applied.id, now⟩ backend.store id
      (backend.store.changesets.find? id) row := by
  obtain ⟨first, last, stored, numberedFirst, repos, rows, specs, grown, left, same, rewires⟩ :=
    rewires_of_transact numbered done
  rw [← left] at found
  rw [same] at attached ⊢
  have holds := holds_of_rewires numberedFirst rewires found attached
  rw [rows] at holds
  exact holds.congr repos rows specs grown

end Application

end BatchChanges
