import BatchChanges.Proofs.Campaign.Fate

/-! # Transactions on campaigns

The transactions of applications and closures are taken apart into their writes. What they read
inside is what was stored at their beginning, since nothing has been written before; so the fate of
each changeset is told by the store that the transaction began with.
-/

namespace BatchChanges

/-- A changeset that leaves a campaign is queued to be closed if the campaign created it and its
pull request is open; else it just leaves. -/
theorem Placement.ofDropped_eq_staged {campaign : CampaignId} {now : Time} {row placed : Changeset}
    (decided : Placement.ofDropped campaign now row = .staged placed) :
    (row.isOwnedBy campaign = true ∧ row.isPublished = true ∧ row.isOpen = true) ∧
        placed = { Changeset.requeued { row with
          campaignIds := row.campaignIds.erase campaign, closing := true } with updatedAt := now } ∨
      ¬ (row.isOwnedBy campaign = true ∧ row.isPublished = true ∧ row.isOpen = true) ∧
        placed = { row with campaignIds := row.campaignIds.erase campaign, updatedAt := now } := by
  rw [← and_assoc, ← Bool.and_eq_true_iff, ← Bool.and_eq_true_iff]
  simp only [Placement.ofDropped] at decided
  split_ifs at decided with last closes
  · cases decided
    exact .inl ⟨closes, rfl⟩
  · cases decided
    exact .inr ⟨closes, rfl⟩

/-- A changeset that leaves a campaign keeps its number. -/
theorem Placement.id_of_ofDropped {campaign : CampaignId} {now : Time} {row placed : Changeset}
    (decided : Placement.ofDropped campaign now row = .staged placed) : placed.id = row.id := by
  obtain ⟨-, rfl⟩ | ⟨-, rfl⟩ := Placement.ofDropped_eq_staged decided
  · rfl
  · rfl

theorem Placement.ofDropped_eq_deleted {campaign : CampaignId} {now : Time} {row : Changeset}
    {id : ChangesetId} (decided : Placement.ofDropped campaign now row = .deleted id) :
    id = row.id ∧ row.isOwnedBy campaign = true ∧ row.isPublished = false ∧
      (row.campaignIds.erase campaign).isEmpty = true := by
  simp only [Placement.ofDropped] at decided
  split_ifs at decided with gone
  cases decided
  simp only [Bool.and_eq_true, Bool.not_eq_true'] at gone
  exact ⟨rfl, gone.1.1, gone.1.2, gone.2⟩

/-- A changeset that moves on to a spec keeps its number. -/
@[simp] theorem Changeset.id_following (row : Changeset) (campaign : CampaignId) (now : Time)
    (spec : ChangesetSpec) : (row.following campaign now spec).id = row.id := by
  simp only [following]
  split
  · split <;> rfl
  · rfl

@[simp] theorem Changeset.id_ofSpec (campaign : CampaignId) (now : Time) (repo : Repo)
    (spec : ChangesetSpec) : (ofSpec campaign now repo spec).id = .unsaved := by
  simp only [ofSpec]
  split <;> rfl

/-- All mappings of a rewiring were decided. -/
theorem Placement.ofMappings_eq_ok {campaign : CampaignId} {now : Time} {mappings : List Mapping}
    {placements : List Placement}
    (decided : Placement.ofMappings campaign now mappings = .ok placements) :
    List.Forall₂ (fun mapping placement =>
      Placement.ofMapping campaign now mapping = .ok placement) mappings placements := by
  induction mappings generalizing placements with
  | nil =>
    cases decided
    exact .nil
  | cons mapping rest ih =>
    simp only [Placement.ofMappings, bind, Except.bind] at decided
    split at decided
    · cases decided
    · next first placed =>
      split at decided
      · cases decided
      · next others decidedRest =>
        cases decided
        exact .cons placed (ih decidedRest)

/-- A rewiring writes and deletes what its mappings decide. -/
theorem Campaign.rewire_eq_ok {campaign : Campaign} {now : Time} {mappings : List Mapping}
    {rewiring : Rewiring} (rewired : campaign.rewire now mappings = .ok rewiring) :
    ∃ placements, List.Forall₂ (fun mapping placement =>
        Placement.ofMapping campaign.id now mapping = .ok placement) mappings placements ∧
      rewiring =
        ⟨{ campaign with
            changesetIds := IdSet.ofList (placements.filterMap (Placement.member? campaign.id)) },
          placements.filterMap Placement.staged?, placements.filterMap Placement.deleted?⟩ := by
  simp only [Campaign.rewire, bind, Except.bind] at rewired
  split at rewired
  · cases rewired
  · next placements decided =>
    cases rewired
    exact ⟨placements, Placement.ofMappings_eq_ok decided, rfl⟩

theorem Placement.mem_filterMap_staged? {placements : List Placement} {changeset : Changeset} :
    changeset ∈ placements.filterMap staged? ↔ .staged changeset ∈ placements := by
  rw [List.mem_filterMap]
  constructor
  · rintro ⟨placement, present, told⟩
    cases placement <;> cases told
    exact present
  · exact fun present => ⟨_, present, rfl⟩

theorem Placement.mem_filterMap_deleted? {placements : List Placement} {id : ChangesetId} :
    id ∈ placements.filterMap deleted? ↔ .deleted id ∈ placements := by
  rw [List.mem_filterMap]
  constructor
  · rintro ⟨placement, present, told⟩
    cases placement <;> cases told
    exact present
  · exact fun present => ⟨_, present, rfl⟩

namespace Generation

variable {generation : Generation} {store : Store} {mapping : Mapping} {row : MappingRow}

/-- What a mapping is about: a spec and the changeset that it is paired with, or a changeset without
a spec. -/
inductive Maps (generation : Generation) (store : Store) : Mapping → Prop
  | paired {repoId : RepoId} {repo : Option Repo} {spec : ChangesetSpec}
      {partner : Option Changeset}
      (paired : (spec, partner) ∈ store.pairs generation.spec generation.campaign)
      (located : ∀ {here}, repo = some here → store.repos.find? spec.repoId = some here)
      (present : ∀ {row}, partner = some row → store.changesets.find? row.id = some row) :
      Maps generation store ⟨repoId, repo, partner, some spec⟩
  | unpaired {repoId : RepoId} {repo : Option Repo} {row : Changeset}
      (present : store.changesets.find? row.id = some row)
      (unwanted : ∀ {here}, repo = some here → generation.Unwanted store row) :
      Maps generation store ⟨repoId, repo, some row, none⟩

/-- Mappings hold the rows that mapping rows name. -/
theorem maps_of_fills (numbered : store.Numbered)
    (listed : row ∈ store.mappingRows generation.spec generation.campaign)
    (filled : mapping.Fills store generation.visible generation.actor row) :
    generation.Maps store mapping := by
  obtain ⟨repoId, repo, changeset, spec⟩ := mapping
  obtain ⟨located, namesChangeset, namesSpec⟩ := filled
  simp only at located namesChangeset namesSpec
  rcases Store.mem_mappingRows listed with
    ⟨wanted, partner, paired, rfl⟩ | ⟨member, attached, unpaired, rfl⟩
  · have stored := numbered.find?_of_paired paired
    have here : ∀ {there}, repo = some there → store.repos.find? wanted.repoId = some there := by
      intro there same
      rw [same] at located
      exact (Option.filter_eq_some_iff.mp located.symm).1
    cases namesSpec with
    | row found =>
      rw [stored] at found
      cases found
      cases partner with
      | none =>
        cases namesChangeset
        refine .paired paired here ?_
        intro row nothing
        cases nothing
      | some partner =>
        have member := ((Store.mem_pairings paired).2 partner rfl).1
        have present := numbered.find?_of_mem member
        cases namesChangeset with
        | row found =>
          rw [present] at found
          cases found
          refine .paired paired here ?_
          intro row same
          cases same
          exact present
  · simp only [Store.changesetsOf, List.mem_filter] at attached
    have present := numbered.find?_of_mem attached.1
    cases namesSpec
    cases namesChangeset with
    | row found =>
      rw [present] at found
      cases found
      refine .unpaired present ?_
      intro here same
      rw [same] at located
      refine ⟨attached.2, ?_, here, Option.filter_eq_some_iff.mp located.symm⟩
      intro pair paired other
      refine unpaired pair paired ?_
      rw [other, Option.map_some]

/-- What a mapping decides about a stored changeset is the fate of its row, and a changeset that it
brings about has no number yet. -/
theorem fate_of_staged {placed : Changeset} (maps : generation.Maps store mapping)
    (decided : Placement.ofMapping generation.campaign generation.now mapping =
      .ok (.staged placed)) :
    (∃ changeset, store.changesets.find? placed.id = some changeset ∧
        generation.Fate store placed.id (some changeset) (some placed)) ∨
      placed.id = .unsaved ∧ ∀ id : ChangesetId, store.lastId < id.value →
        generation.Fate store id none (some { placed with id }) := by
  cases maps with
  | @paired repoId repo spec partner paired located present =>
    cases repo with
    | none => cases decided
    | some repo =>
      cases partner with
      | none =>
        cases decided
        refine .inr ⟨Changeset.id_ofSpec .., ?_⟩
        intro id fresh
        exact .created paired (located rfl) fresh
      | some partner =>
        cases decided
        rw [Changeset.id_following]
        exact .inl ⟨partner, present rfl, .followed paired⟩
  | @unpaired repoId repo member present unwanted =>
    cases repo with
    | none => cases decided
    | some repo =>
      simp only [Placement.ofMapping, Except.ok.injEq] at decided
      rw [Placement.id_of_ofDropped decided]
      exact .inl ⟨member, present, .left (unwanted rfl) decided⟩

/-- A deletion that a mapping decides is the fate of a stored row. -/
theorem fate_of_deleted {id : ChangesetId} (maps : generation.Maps store mapping)
    (decided : Placement.ofMapping generation.campaign generation.now mapping =
      .ok (.deleted id)) :
    ∃ changeset, store.changesets.find? id = some changeset ∧
      generation.Fate store id (some changeset) none := by
  cases maps with
  | @paired repoId repo spec partner paired located present =>
    cases partner <;> cases repo <;> cases decided
  | @unpaired repoId repo member present unwanted =>
    cases repo with
    | none => cases decided
    | some repo =>
      simp only [Placement.ofMapping, Except.ok.injEq] at decided
      obtain ⟨rfl, -⟩ := Placement.ofDropped_eq_deleted decided
      exact ⟨member, present, .deleted (unwanted rfl) decided⟩

/-- Deletions and then writes that the mappings decided give every row its fate. -/
theorem fate_of_written {changesets : List Changeset} {deleted : List ChangesetId}
    {id : ChangesetId} {result : Option Changeset} (numbered : store.Numbered)
    (staged : ∀ placed ∈ changesets,
      (∃ changeset, store.changesets.find? placed.id = some changeset ∧
        generation.Fate store placed.id (some changeset) (some placed)) ∨
      placed.id = .unsaved ∧ ∀ id : ChangesetId, store.lastId < id.value →
        generation.Fate store id none (some { placed with id }))
    (gone : ∀ id ∈ deleted, ∃ changeset, store.changesets.find? id = some changeset ∧
      generation.Fate store id (some changeset) none)
    (written : Store.Written changesets store.lastId id
      (if id ∈ deleted then none else store.changesets.find? id) result) :
    generation.Fate store id (store.changesets.find? id) result := by
  cases written with
  | kept =>
    split
    · next member =>
      obtain ⟨changeset, found, fate⟩ := gone id member
      rw [found]
      exact fate
    · exact .kept _
  | stored member same known =>
    obtain ⟨changeset, found, fate⟩ | ⟨unsaved, -⟩ := staged _ member
    · rw [← same, found]
      exact fate
    · exact absurd unsaved known
  | fresh member unsaved new =>
    obtain ⟨changeset, found, -⟩ | ⟨-, fate⟩ := staged _ member
    · exact absurd unsaved (numbered.ne_unsaved found)
    · rw [numbered.find?_of_lt new]
      exact fate id new

end Generation

namespace Access

/-- A campaign that is created gets a number of its own; nothing else changes. -/
theorem createCampaign_ok {campaign created : Campaign} {backend next : Backend}
    (done : Ends (createCampaign campaign) backend (.ok created) next) :
    created.id = ⟨backend.store.lastId + 1⟩ ∧
      next.store = { backend.store with
        campaigns := backend.store.campaigns.insert created.id created
        lastId := backend.store.lastId + 1 } := by
  have reached := call_ok done
  simp only [Store.insertCampaign] at reached
  split_ifs at reached
  simp only [Except.ok.injEq, Prod.mk.injEq] at reached
  obtain ⟨rfl, stored⟩ := reached
  exact ⟨rfl, stored.symm⟩

theorem numbered_of_createCampaign {campaign created : Campaign} {backend next : Backend}
    (done : Ends (createCampaign campaign) backend (.ok created) next)
    (numbered : backend.store.Numbered) : next.store.Numbered :=
  numbered.insertCampaign (call_ok done)

/-- A campaign that is updated keeps its number; nothing else changes. -/
theorem updateCampaign_ok {campaign : Campaign} {backend next : Backend}
    (done : Ends (updateCampaign campaign) backend (.ok ()) next) :
    (∃ before, backend.store.campaigns.find? campaign.id = some before) ∧
      next.store = { backend.store with
        campaigns := backend.store.campaigns.insert campaign.id campaign } := by
  have reached := call_ok done
  simp only [Store.replaceCampaign] at reached
  split_ifs at reached with present
  · simp only [Except.map, Except.ok.injEq, Prod.mk.injEq, true_and] at reached
    exact ⟨Table.contains_iff.mp present, reached.symm⟩
  · cases reached

theorem numbered_of_updateCampaign {campaign : Campaign} {backend next : Backend}
    (done : Ends (updateCampaign campaign) backend (.ok ()) next)
    (numbered : backend.store.Numbered) : next.store.Numbered := by
  have reached := call_ok done
  cases replaced : backend.store.replaceCampaign campaign with
  | ok store =>
    rw [replaced] at reached
    cases reached
    exact numbered.replaceCampaign replaced
  | error error =>
    rw [replaced] at reached
    cases reached

end Access

namespace Application

/-- Deletions remove the named rows and nothing else. -/
theorem delete_ok {ids : List ChangesetId} {backend next : Backend}
    (done : Access.Ends (delete ids) backend (.ok ()) next) :
    next.store = { backend.store with changesets := next.store.changesets } ∧
      ∀ id, next.store.changesets.find? id =
        if id ∈ ids then none else backend.store.changesets.find? id := by
  induction ids generalizing backend with
  | nil =>
    obtain ⟨-, rfl⟩ := Access.ends_pure_ok.mp done
    exact ⟨rfl, fun _ => by simp⟩
  | cons first rest ih =>
    simp only [delete, Access.ends_bind_ok] at done
    obtain ⟨⟨⟩, middle, deleted, others⟩ := done
    have reached := Access.call_ok deleted
    simp only [Store.deleteChangeset] at reached
    split_ifs at reached with present
    · simp only [Except.map, Except.ok.injEq, Prod.mk.injEq, true_and] at reached
      obtain ⟨same, rows⟩ := ih others
      rw [← reached] at same rows
      refine ⟨same, fun id => ?_⟩
      rw [rows id, Table.find?_erase]
      by_cases here : first = id
      · subst here
        simp
      · simp [here, Ne.symm here]
    · cases reached

/-- Deletions keep the order of numbers. -/
theorem numbered_of_delete {ids : List ChangesetId} {backend next : Backend}
    (done : Access.Ends (delete ids) backend (.ok ()) next) (numbered : backend.store.Numbered) :
    next.store.Numbered := by
  obtain ⟨same, rows⟩ := delete_ok done
  refine numbered.congr ?_ ?_ (by rw [same]) (by rw [same]) (by rw [same])
  · intro id row present
    rw [rows id] at present
    split at present
    · cases present
    · exact ⟨(numbered.changesets present).1, row, present⟩
  · intro id record present
    rw [same] at present
    exact .inr ⟨record, present, rfl⟩

/-- Writing changesets of a campaign is a sequence of writes. -/
theorem write_ok {campaign written : Campaign} {changesets : List Changeset}
    {backend next : Backend} (numbered : backend.store.Numbered)
    (done : Access.Ends (write campaign changesets) backend (.ok written) next) :
    backend.store.Writes next.store changesets ∧ next.store.Numbered ∧
      written.id = campaign.id := by
  induction changesets generalizing campaign backend with
  | nil =>
    obtain ⟨rfl, rfl⟩ := Access.ends_pure_ok.mp done
    exact ⟨.nil _, numbered, rfl⟩
  | cons changeset rest ih =>
    simp only [write, Access.ends_bind_ok] at done
    obtain ⟨stored, middle, upserted, others⟩ := done
    have reached := Access.call_ok upserted
    have kept := numbered.upsertChangeset reached
    split at others
    · obtain ⟨writes, last, same⟩ := ih kept others
      exact ⟨.cons numbered reached writes, last, same⟩
    · obtain ⟨writes, last, same⟩ := ih kept others
      exact ⟨.cons numbered reached writes, last, same⟩

/-- What happens inside of the transaction once the campaign is stored. -/
def rewireStored (application : Application) (visible : Visibility) (spec : CampaignSpec)
    (now : Time) (campaign : Campaign) : Access CampaignError Campaign := do
  let rows ← Access.wrapping .store (Access.readMapping spec.id campaign.id)
  let mappings ← Mapping.hydrate visible application.actor rows
  let rewiring ← ExceptT.mk (pure (campaign.rewire now mappings))
  Access.wrapping .store (delete rewiring.deleted)
  let campaign ← Access.wrapping .store (write rewiring.campaign rewiring.changesets)
  Access.wrapping .store (Access.updateCampaign campaign)
  return campaign

theorem rewire_eq (application : Application) (visible : Visibility) (spec : CampaignSpec)
    (campaign : Campaign) (now : Time) :
    application.rewire visible spec campaign now =
      (if campaign.id.isUnsaved then Access.wrapping .store (Access.createCampaign campaign)
        else pure campaign) >>= application.rewireStored visible spec now := by
  simp only [rewire]
  split
  · rfl
  · exact (pure_bind ..).symm

variable {application : Application} {visible : Visibility} {spec : CampaignSpec}
  {campaign applied : Campaign} {now : Time} {backend next : Backend}

/-- What a transaction on a stored campaign does: it reads mappings, decides placements, deletes,
writes and updates the campaign. -/
inductive Rewires (visible : Visibility) (actor : Actor) (spec : CampaignSpecId)
    (campaign : Campaign) (now : Time) (backend : Backend) (applied : Campaign) (next : Backend) :
    Prop
  | steps {mappings : List Mapping} {placements : List Placement} {read pruned written : Backend}
      (same : read.store = backend.store)
      (filled : List.Forall₂ (fun row mapping => mapping.Fills backend.store visible actor row)
        (backend.store.mappingRows spec campaign.id) mappings)
      (distinct : ((backend.store.mappingRows spec campaign.id).filterMap (·.changesetId)).Nodup)
      (decided : List.Forall₂ (fun mapping placement =>
        Placement.ofMapping campaign.id now mapping = .ok placement) mappings placements)
      (deleted : Access.Ends (delete (placements.filterMap Placement.deleted?)) read (.ok ()) pruned)
      (wrote : Access.Ends (write { campaign with
          changesetIds := IdSet.ofList (placements.filterMap (Placement.member? campaign.id)) }
        (placements.filterMap Placement.staged?)) pruned (.ok applied) written)
      (updated : Access.Ends (Access.updateCampaign applied) written (.ok ()) next) :
      Rewires visible actor spec campaign now backend applied next

theorem rewires_of_rewireStored (numbered : backend.store.Numbered)
    (done : Access.Ends (application.rewireStored visible spec now campaign) backend (.ok applied)
      next) :
    Rewires visible application.actor spec.id campaign now backend applied next := by
  simp only [rewireStored, Access.ends_bind_ok, Access.ends_wrapping_ok, Access.ends_mk_pure_ok,
    Access.ends_pure_ok] at done
  obtain ⟨rows, first, readRows, mappings, second, hydrated, rewiring, _, ⟨rewired, rfl⟩, ⟨⟩, third,
    deleted, written, fourth, wrote, ⟨⟩, last, updated, rfl, rfl⟩ := done
  obtain ⟨rfl, sameRead⟩ := Access.call_read_ok readRows
  obtain ⟨sameHydrated, filled, distinct⟩ := Mapping.hydrate_ok (sameRead ▸ numbered) hydrated
  rw [sameRead] at sameHydrated filled
  obtain ⟨placements, decided, rfl⟩ := Campaign.rewire_eq_ok rewired
  exact .steps sameHydrated filled distinct decided deleted wrote updated

/-- The mappings that are read decide the fate of every changeset. -/
theorem rewireStored_ok (numbered : backend.store.Numbered)
    (done : Access.Ends (application.rewireStored visible spec now campaign) backend (.ok applied)
      next) :
    applied.id = campaign.id ∧ backend.store.Transacted next.store
      (Generation.Fate ⟨visible, application.actor, spec.id, campaign.id, now⟩ backend.store) := by
  obtain ⟨same, filled, distinct, decided, deleted, wrote, updated⟩ :=
    rewires_of_rewireStored numbered done
  have numberedDeleted := numbered_of_delete deleted (same ▸ numbered)
  obtain ⟨kept, rows⟩ := delete_ok deleted
  rw [same] at kept rows
  obtain ⟨writes, numberedWritten, sameId⟩ := write_ok numberedDeleted wrote
  have numberedUpdated := Access.numbered_of_updateCampaign updated numberedWritten
  rw [(Access.updateCampaign_ok updated).2] at numberedUpdated ⊢
  refine ⟨sameId, writes.leases.trans (by rw [kept]), writes.repos.trans (by rw [kept]),
    writes.changesetSpecs.trans (by rw [kept]), ?_, fun id => ?_, numberedUpdated⟩
  · have last := writes.lastId_le
    rwa [kept] at last
  · have written := writes.row id
    rw [rows id, kept] at written
    refine Generation.fate_of_written numbered ?_ ?_ written
    · intro changeset member
      obtain ⟨mapping, present, decided⟩ :=
        exists_of_mem_right decided (Placement.mem_filterMap_staged?.mp member)
      obtain ⟨row, listed, fills⟩ := exists_of_mem_right filled present
      exact Generation.fate_of_staged (Generation.maps_of_fills numbered listed fills) decided
    · intro id member
      obtain ⟨mapping, present, decided⟩ :=
        exists_of_mem_right decided (Placement.mem_filterMap_deleted?.mp member)
      obtain ⟨row, listed, fills⟩ := exists_of_mem_right filled present
      exact Generation.fate_of_deleted (Generation.maps_of_fills numbered listed fills) decided

/-- What happens inside of the transaction decides the fate of every changeset, also for a campaign
that it creates. -/
theorem rewire_ok (numbered : backend.store.Numbered)
    (done : Access.Ends (application.rewire visible spec campaign now) backend (.ok applied)
      next) :
    (campaign.id.isUnsaved = false → applied.id = campaign.id) ∧
      (campaign.id.isUnsaved = true → backend.store.lastId < applied.id.value) ∧
      backend.store.Transacted next.store
        (Generation.Fate ⟨visible, application.actor, spec.id, applied.id, now⟩
          backend.store) := by
  rw [rewire_eq, Access.ends_bind_ok] at done
  obtain ⟨stored, middle, created, rewired⟩ := done
  split at created
  · next unsaved =>
    obtain ⟨named, begun⟩ := Access.createCampaign_ok (Access.ends_wrapping_ok.mp created)
    have numberedMiddle :=
      Access.numbered_of_createCampaign (Access.ends_wrapping_ok.mp created) numbered
    obtain ⟨same, transacted⟩ := rewireStored_ok numberedMiddle rewired
    have rows : middle.store.changesets = backend.store.changesets := by rw [begun]
    have specs : middle.store.changesetSpecs = backend.store.changesetSpecs := by rw [begun]
    have repos : middle.store.repos = backend.store.repos := by rw [begun]
    have leases : middle.store.leases = backend.store.leases := by rw [begun]
    have last : backend.store.lastId ≤ middle.store.lastId := by
      rw [begun]
      exact Int.le_add_one (Int.le_refl _)
    refine ⟨?_, ?_, transacted.leases.trans leases, transacted.repos.trans repos,
      transacted.changesetSpecs.trans specs, Int.le_trans last transacted.lastId_le, ?_,
      transacted.numbered⟩
    · intro saved
      rw [unsaved] at saved
      cases saved
    · intro _
      rw [same, named]
      exact Int.lt_succ _
    · intro id
      have fate := (transacted.row id).congr repos rows specs last
      rw [same, ← rows]
      exact fate
  · next saved =>
    obtain ⟨rfl, rfl⟩ := Access.ends_pure_ok.mp created
    obtain ⟨same, transacted⟩ := rewireStored_ok numbered rewired
    refine ⟨fun _ => same, fun unsaved => absurd unsaved saved, ?_⟩
    rw [same]
    exact transacted

/-- The transaction of an application that succeeds leaves what happened inside. -/
theorem rewire_of_transact
    (done : Access.Ends (application.transact visible spec campaign now) backend (.ok applied)
      next) :
    ∃ first last, first.store = backend.store ∧ next.store = last.store ∧
      Access.Ends (application.rewire visible spec campaign now) first (.ok applied) last := by
  simp only [transact, Access.ends_bind_ok, Access.ends_wrapping_ok] at done
  obtain ⟨before, first, begun, tried, second, attempted, ended⟩ := done
  obtain ⟨rfl, same⟩ := Access.begin_ok begun
  obtain ⟨outcome, told, rewired⟩ := Access.ends_attempt.mp attempted
  cases told
  cases tried with
  | ok rewiredCampaign =>
    simp only [Access.ends_bind_ok, Access.ends_wrapping_ok, Access.ends_pure_ok] at ended
    obtain ⟨⟨⟩, third, committed, rfl, rfl⟩ := ended
    exact ⟨first, second, same, Access.commit_ok committed, rewired⟩
  | error error =>
    simp only [Access.ends_bind_ok, Access.ends_throw, reduceCtorEq, false_and, and_false,
      exists_false] at ended

/-- So it decides the fate of every changeset. -/
theorem transact_ok (numbered : backend.store.Numbered)
    (done : Access.Ends (application.transact visible spec campaign now) backend (.ok applied)
      next) :
    (campaign.id.isUnsaved = false → applied.id = campaign.id) ∧
      (campaign.id.isUnsaved = true → backend.store.lastId < applied.id.value) ∧
      backend.store.Transacted next.store
        (Generation.Fate ⟨visible, application.actor, spec.id, applied.id, now⟩
          backend.store) := by
  obtain ⟨first, last, same, left, rewired⟩ := rewire_of_transact done
  rw [left, ← same]
  exact rewire_ok (same ▸ numbered) rewired

/-- The transaction of an application that fails leaves nothing behind. -/
theorem transact_error {error : CampaignError}
    (done : Access.Ends (application.transact visible spec campaign now) backend (.error error)
      next) : next.store = backend.store := by
  rw [transact, Access.ends_bind] at done
  rcases done with ⟨before, first, begun, rest⟩ | ⟨cause, -, failed⟩
  · obtain ⟨rfl, same⟩ := Access.begin_ok (Access.ends_wrapping_ok.mp begun)
    rw [Access.ends_bind] at rest
    rcases rest with ⟨tried, second, -, ended⟩ | ⟨cause, -, failed⟩
    · cases tried with
      | ok rewiredCampaign =>
        rw [Access.ends_bind] at ended
        rcases ended with ⟨⟨⟩, third, committed, returned⟩ | ⟨cause, -, failed⟩
        · cases returned
        · obtain ⟨_, -, failed⟩ := Access.ends_wrapping_error.mp failed
          exact Access.commit_error failed
      | error cause =>
        rw [Access.ends_bind] at ended
        rcases ended with ⟨undone, third, rolledBack, thrown⟩ | ⟨_, -, failed⟩
        · obtain ⟨-, rfl⟩ := Access.ends_throw.mp thrown
          obtain ⟨outcome, -, rolledBack⟩ := Access.ends_attempt.mp rolledBack
          exact Access.rollback_store rolledBack
        · obtain ⟨_, told, -⟩ := Access.ends_attempt.mp failed
          cases told
    · obtain ⟨_, told, -⟩ := Access.ends_attempt.mp failed
      cases told
  · obtain ⟨_, -, failed⟩ := Access.ends_wrapping_error.mp failed
    exact Access.call_read_store failed

theorem readSpec_store {result : Except CampaignError CampaignSpec}
    (done : Access.Ends application.readSpec backend result next) :
    next.store = backend.store := by
  rw [readSpec, Access.ends_bind] at done
  rcases done with ⟨found, middle, read, rest⟩ | ⟨error, -, failed⟩
  · rw [← Access.call_read_store (Access.ends_wrapping_ok.mp read)]
    split at rest
    · rw [(Access.ends_throw.mp rest).2]
    · split at rest
      · cases rest
        rfl
      · rw [(Access.ends_throw.mp rest).2]
  · obtain ⟨_, -, failed⟩ := Access.ends_wrapping_error.mp failed
    exact Access.call_read_store failed

theorem readCampaign_store {result : Except CampaignError (Option Campaign)}
    (done : Access.Ends (application.readCampaign spec) backend result next) :
    next.store = backend.store := by
  rw [readCampaign, Access.ends_bind] at done
  rcases done with ⟨found, middle, read, rest⟩ | ⟨error, -, failed⟩
  · rw [← Access.call_read_store (Access.ends_wrapping_ok.mp read)]
    split at rest
    · rw [(Access.ends_throw.mp rest).2]
    · cases rest
      rfl
  · obtain ⟨_, -, failed⟩ := Access.ends_wrapping_error.mp failed
    exact Access.call_read_store failed

/-- Canceling cancels the waiting changesets of the campaign, or does nothing. -/
theorem cancel_store {result : Except CampaignError Unit}
    (done : Access.Ends (cancel campaign) backend result next) :
    next.store = (backend.store.cancelQueued campaign.id).2 ∨ next.store = backend.store := by
  simp only [cancel] at done
  split at done
  · cases done
    exact .inr rfl
  · rw [Access.ends_bind] at done
    rcases done with ⟨outcome, middle, tried, rest⟩ | ⟨error, -, failed⟩
    · cases rest
      obtain ⟨_, -, canceled⟩ := Access.ends_attempt.mp tried
      exact Access.call_total canceled
    · obtain ⟨_, told, -⟩ := Access.ends_attempt.mp failed
      cases told

end Application

namespace Closure

variable {closure : Closure} {now : Time} {backend next : Backend}

/-- Queueing changesets to be closed is a sequence of writes. -/
theorem queue_ok {changesets : List Changeset} (numbered : backend.store.Numbered)
    (done : Access.Ends (queue now changesets) backend (.ok ()) next) :
    backend.store.Writes next.store (changesets.map (·.queuedToClose now)) ∧
      next.store.Numbered := by
  induction changesets generalizing backend with
  | nil =>
    obtain ⟨-, rfl⟩ := Access.ends_pure_ok.mp done
    exact ⟨.nil _, numbered⟩
  | cons changeset rest ih =>
    simp only [queue, Access.ends_bind_ok] at done
    obtain ⟨stored, middle, upserted, others⟩ := done
    have reached := Access.call_ok upserted
    obtain ⟨writes, last⟩ := ih (numbered.upsertChangeset reached) others
    exact ⟨.cons numbered reached writes, last⟩

/-- The changesets that a closed campaign queues keep their numbers, so that each of them is written
over, and no other one is. -/
theorem queue_attached_ok (numbered : backend.store.Numbered)
    (done : Access.Ends (queue now ((backend.store.changesetsOf closure.id).filter
      (·.isClosedWith closure.id))) backend (.ok ()) next) (id : ChangesetId) :
    next.store.changesets.find? id = (backend.store.changesets.find? id).map fun row =>
      if row.isAttachedTo closure.id && row.isClosedWith closure.id then row.queuedToClose now
      else row := by
  have written := (queue_ok numbered done).1.row id
  generalize next.store.changesets.find? id = result at written
  cases written with
  | kept spared =>
    cases found : backend.store.changesets.find? id with
    | none => rfl
    | some row =>
      have here := (numbered.changesets found).1
      rw [Option.map_some, if_neg]
      intro chosen
      simp only [Bool.and_eq_true] at chosen
      have listed : row.queuedToClose now ∈ ((backend.store.changesetsOf closure.id).filter
          (·.isClosedWith closure.id)).map (·.queuedToClose now) :=
        List.mem_map_of_mem (List.mem_filter.mpr ⟨List.mem_filter.mpr
          ⟨Table.mem_rows_iff.mpr ⟨id, found⟩, chosen.1⟩, chosen.2⟩)
      have unsaved : row.id = .unsaved := spared (row.queuedToClose now) listed here
      exact numbered.ne_unsaved found (here.symm.trans unsaved)
  | stored member same known =>
    obtain ⟨row, chosen, rfl⟩ := List.mem_map.mp member
    simp only [List.mem_filter, Store.changesetsOf] at chosen
    have here : row.id = id := same
    rw [← here, numbered.find?_of_mem chosen.1.1, Option.map_some, if_pos]
    rw [chosen.1.2, chosen.2]
    rfl
  | fresh member unsaved new =>
    obtain ⟨row, chosen, rfl⟩ := List.mem_map.mp member
    simp only [List.mem_filter, Store.changesetsOf] at chosen
    have found := numbered.find?_of_mem chosen.1.1
    exact absurd unsaved (numbered.ne_unsaved found)

/-- What happens inside of the transaction: the campaign is written, and on demand its changesets
are queued. -/
theorem close_eq_ok {campaign closed : Campaign}
    (done : Access.Ends (closure.close campaign now) backend (.ok closed) next) :
    closed = { campaign with closedAt := some now, updatedAt := now } ∧
      ∃ written middle, Access.Ends (Access.updateCampaign closed) backend (.ok ()) written ∧
        middle.store = written.store ∧
        (closure.withChangesets = true ∧
            Access.Ends (queue now ((middle.store.changesetsOf closure.id).filter
              (·.isClosedWith closure.id))) middle (.ok ()) next ∨
          closure.withChangesets = false ∧ next = middle) := by
  simp only [close, Access.ends_bind_ok] at done
  obtain ⟨⟨⟩, written, updated, rest⟩ := done
  split at rest
  · next closes =>
    simp only [Access.ends_bind_ok, Access.ends_pure_ok] at rest
    obtain ⟨changesets, middle, listed, ⟨⟩, last, queued, rfl, rfl⟩ := rest
    obtain ⟨rfl, same⟩ := Access.call_read_ok listed
    exact ⟨rfl, written, middle, updated, same, .inl ⟨closes, same ▸ queued⟩⟩
  · next without =>
    obtain ⟨rfl, rfl⟩ := Access.ends_pure_ok.mp rest
    exact ⟨rfl, written, _, updated, rfl, .inr ⟨Bool.eq_false_iff.mpr without, rfl⟩⟩

/-- It decides the fate of every changeset; on demand, all changesets that are to be closed with the
campaign are queued. -/
theorem close_ok {campaign closed : Campaign} (numbered : backend.store.Numbered)
    (done : Access.Ends (closure.close campaign now) backend (.ok closed) next) :
    (backend.store.Transacted next.store fun _ => closure.Fate now) ∧
      (closure.withChangesets = true → ∀ id row,
        backend.store.changesets.find? id = some row → row.isAttachedTo closure.id = true →
        row.isClosedWith closure.id = true →
        next.store.changesets.find? id = some (row.queuedToClose now)) := by
  obtain ⟨-, written, middle, updated, same, rest⟩ := close_eq_ok done
  have begun := same.trans (Access.updateCampaign_ok updated).2
  have numberedMiddle := same ▸ Access.numbered_of_updateCampaign updated numbered
  have rows : middle.store.changesets = backend.store.changesets := by rw [begun]
  obtain ⟨-, queued⟩ | ⟨without, rfl⟩ := rest
  · obtain ⟨writes, numberedLast⟩ := queue_ok numberedMiddle queued
    have chosen := queue_attached_ok numberedMiddle queued
    rw [rows] at chosen
    refine ⟨⟨writes.leases.trans (by rw [begun]), writes.repos.trans (by rw [begun]),
      writes.changesetSpecs.trans (by rw [begun]), ?_, fun id => ?_, numberedLast⟩, ?_⟩
    · have := writes.lastId_le
      rwa [begun] at this
    · rw [chosen id]
      cases backend.store.changesets.find? id with
      | none => exact .kept none
      | some row =>
        rw [Option.map_some]
        split
        · next closes =>
          simp only [Bool.and_eq_true] at closes
          exact .closed closes.1 closes.2
        · exact .kept _
    · intro _ id row found attached opened
      rw [chosen id, found, Option.map_some, attached, opened]
      rfl
  · refine ⟨⟨by rw [begun], by rw [begun], by rw [begun], ?_, fun id => ?_, numberedMiddle⟩, ?_⟩
    · exact Int.le_of_eq (by rw [begun])
    · rw [rows]
      exact .kept _
    · intro closes
      rw [without] at closes
      cases closes

/-- Reading the campaign changes nothing. -/
theorem readCampaign_store {result : Except CampaignError Campaign}
    (done : Access.Ends closure.readCampaign backend result next) :
    next.store = backend.store := by
  rw [readCampaign, Access.ends_bind] at done
  rcases done with ⟨found, middle, read, rest⟩ | ⟨error, rfl, failed⟩
  · rw [← (Access.call_read_ok (Access.ends_wrapping_ok.mp read)).2]
    split at rest
    · rw [(Access.ends_throw.mp rest).2]
    · split at rest
      · cases rest
        rfl
      · rw [(Access.ends_throw.mp rest).2]
  · obtain ⟨_, -, struck⟩ := Access.ends_wrapping_error.mp failed
    exact Access.call_read_store struck

/-- The campaign that is read is the stored one, and the actor may close it. -/
theorem readCampaign_eq_ok {campaign : Campaign}
    (done : Access.Ends closure.readCampaign backend (.ok campaign) next) :
    backend.store.campaigns.find? closure.id = some campaign ∧
      closure.actor.mayActFor campaign.initialApplierId = true := by
  simp only [readCampaign, Access.ends_bind_ok] at done
  obtain ⟨found, middle, looked, rest⟩ := done
  obtain ⟨read, -⟩ := Access.call_read_ok (Access.ends_wrapping_ok.mp looked)
  split at rest
  · obtain ⟨nothing, -⟩ := Access.ends_throw.mp rest
    cases nothing
  · split at rest
    · next allowed =>
      obtain ⟨rfl, -⟩ := Access.ends_pure_ok.mp rest
      exact ⟨read, allowed⟩
    · obtain ⟨nothing, -⟩ := Access.ends_throw.mp rest
      cases nothing

/-- A closure that succeeds is allowed; it finds the campaign closed and tells it as it is, or
closes it. -/
theorem run_eq_ok {closed : Campaign}
    (done : Access.Ends (closure.run now) backend (.ok closed) next) :
    ∃ campaign, backend.store.campaigns.find? closure.id = some campaign ∧
      closure.actor.mayActFor campaign.initialApplierId = true ∧
      (campaign.isClosed = true ∧ closed = campaign ∧ next.store = backend.store ∨
        campaign.isClosed = false ∧ ∃ first last, first.store = backend.store ∧
          next.store = last.store ∧
          Access.Ends (closure.close campaign now) first (.ok closed) last) := by
  simp only [run, Access.ends_bind_ok, Access.ends_wrapping_ok] at done
  obtain ⟨before, first, begun, campaign, second, read, rest⟩ := done
  obtain ⟨-, sameFirst⟩ := Access.begin_ok begun
  have same := (readCampaign_store read).trans sameFirst
  obtain ⟨found, allowed⟩ := readCampaign_eq_ok read
  refine ⟨campaign, sameFirst ▸ found, allowed, ?_⟩
  split at rest
  · next already =>
    obtain ⟨rfl, rfl⟩ := Access.ends_pure_ok.mp rest
    exact .inl ⟨already, rfl, same⟩
  · next still =>
    refine .inr ⟨Bool.eq_false_iff.mpr still, ?_⟩
    rw [Access.ends_bind_ok] at rest
    obtain ⟨tried, third, attempted, ended⟩ := rest
    obtain ⟨outcome, told, closes⟩ := Access.ends_attempt.mp attempted
    cases told
    cases tried with
    | ok revised =>
      simp only [Access.ends_bind_ok, Access.ends_wrapping_ok, Access.ends_pure_ok] at ended
      obtain ⟨⟨⟩, fourth, committed, rfl, rfl⟩ := ended
      exact ⟨_, third, same, Access.commit_ok committed, closes⟩
    | error error =>
      simp only [Access.ends_bind_ok, Access.ends_throw, reduceCtorEq, false_and, and_false,
        exists_false] at ended

/-- A closure that succeeds finds the campaign closed and does nothing, or closes it. -/
theorem run_ok {closed : Campaign} (done : Access.Ends (closure.run now) backend (.ok closed) next) :
    ∃ campaign, backend.store.campaigns.find? closure.id = some campaign ∧
      (campaign.isClosed = true ∧ next.store = backend.store ∨
        campaign.isClosed = false ∧ ∃ first last, first.store = backend.store ∧
          next.store = last.store ∧
          Access.Ends (closure.close campaign now) first (.ok closed) last) := by
  obtain ⟨campaign, found, -, ended⟩ := run_eq_ok done
  exact ⟨campaign, found, ended.imp_left fun ⟨already, _, same⟩ => ⟨already, same⟩⟩

/-- When a closure fails nothing is left of it. -/
theorem run_error {error : CampaignError}
    (done : Access.Ends (closure.run now) backend (.error error) next) :
    next.store = backend.store := by
  rw [run, Access.ends_bind] at done
  rcases done with ⟨before, first, begun, rest⟩ | ⟨_, -, failed⟩
  · obtain ⟨rfl, same⟩ := Access.begin_ok (Access.ends_wrapping_ok.mp begun)
    rw [Access.ends_bind] at rest
    rcases rest with ⟨campaign, second, read, rest⟩ | ⟨_, -, failed⟩
    · split at rest
      · cases rest
      · rw [Access.ends_bind] at rest
        rcases rest with ⟨tried, third, attempted, ended⟩ | ⟨_, -, failed⟩
        · cases tried with
          | ok revised =>
            rw [Access.ends_bind] at ended
            rcases ended with ⟨⟨⟩, fourth, committed, returned⟩ | ⟨_, -, failed⟩
            · cases returned
            · obtain ⟨_, -, failed⟩ := Access.ends_wrapping_error.mp failed
              exact Access.commit_error failed
          | error error =>
            rw [Access.ends_bind] at ended
            rcases ended with ⟨⟨⟩, fourth, restored, thrown⟩ | ⟨_, -, failed⟩
            · obtain ⟨-, rfl⟩ := Access.ends_throw.mp thrown
              exact Access.restore_store restored
            · exact Access.restore_store failed
        · obtain ⟨_, told, -⟩ := Access.ends_attempt.mp failed
          cases told
    · exact (readCampaign_store failed).trans same
  · obtain ⟨_, -, failed⟩ := Access.ends_wrapping_error.mp failed
    exact Access.call_read_store failed

/-- A closure only ever queues changesets to be closed; when it fails nothing is left of it. -/
theorem run_store {result : Except CampaignError Campaign} (numbered : backend.store.Numbered)
    (done : Access.Ends (closure.run now) backend result next) :
    backend.store.Transacted next.store fun _ => closure.Fate now := by
  have untouched : next.store = backend.store →
      backend.store.Transacted next.store fun _ => closure.Fate now := by
    intro same
    rw [same]
    exact .refl numbered fun _ => .kept
  cases result with
  | ok closed =>
    obtain ⟨campaign, -, ⟨-, same⟩ | ⟨-, first, last, begun, kept, closes⟩⟩ := run_ok done
    · exact untouched same
    · rw [kept, ← begun]
      exact (close_ok (begun ▸ numbered) closes).1
  | error error => exact untouched (run_error done)

/-- A closure that closes an open campaign with its changesets queues each of them that the campaign
created and holds, and whose pull request is open. -/
theorem run_queues {campaign closed : Campaign} {id : ChangesetId} {row : Changeset}
    (numbered : backend.store.Numbered)
    (done : Access.Ends (closure.run now) backend (.ok closed) next)
    (known : backend.store.campaigns.find? closure.id = some campaign)
    (still : campaign.isClosed = false) (closes : closure.withChangesets = true)
    (found : backend.store.changesets.find? id = some row)
    (attached : row.isAttachedTo closure.id = true)
    (opened : row.isClosedWith closure.id = true) :
    next.store.changesets.find? id = some (row.queuedToClose now) := by
  obtain ⟨stored, same, ⟨already, -⟩ | ⟨-, first, last, begun, kept, ends⟩⟩ := run_ok done
  · rw [known] at same
    cases same
    rw [still] at already
    cases already
  · rw [← begun] at numbered found
    rw [kept]
    exact (close_ok numbered ends).2 closes id row found attached opened

end Closure

end BatchChanges
