import BatchChanges.Proofs.Campaign.Joining

/-! # Which changeset a spec gets

The transaction of an application assigns a changeset to each spec of its generation: the one that
the spec is paired with, or a new one. The assignment goes along the mapping rows, the mappings, the
placements and the writes, which are lists side by side; a new changeset gets its number when it is
written. No two specs are assigned one changeset, not even specs that track one pull request. So all
pairs are realized: a changeset moves on to the spec that it is paired with, and a spec that is
paired with none gets a changeset of its own.
-/

namespace BatchChanges

section

variable {α β γ : Type}

/-- What is beside a list that is put together is put together of what is beside the parts. -/
theorem exists_append_of_forall₂ {related : α → β → Prop} {lefts others : List α} {rights : List β}
    (pairs : List.Forall₂ related (lefts ++ others) rights) :
    ∃ firsts rest, rights = firsts ++ rest ∧ List.Forall₂ related lefts firsts ∧
      List.Forall₂ related others rest := by
  induction lefts generalizing rights with
  | nil => exact ⟨[], rights, rfl, .nil, pairs⟩
  | cons left lefts ih =>
    cases pairs with
    | cons here later =>
      obtain ⟨firsts, rest, rfl, beside, others⟩ := ih later
      exact ⟨_ :: firsts, rest, rfl, .cons here beside, others⟩

private theorem pairwise_of_forall₂ {α β : Type} {related : α → β → Prop} {before : α → α → Prop}
    {after : β → β → Prop} {lefts : List α} {rights : List β}
    (pairs : List.Forall₂ related lefts rights) (ordered : lefts.Pairwise before)
    (transfer : ∀ left ∈ lefts, ∀ right ∈ lefts, ∀ first second, related left first →
      related right second → before left right → after first second) : rights.Pairwise after := by
  induction pairs with
  | nil => exact .nil
  | cons here rest ih =>
    obtain ⟨first, others⟩ := List.pairwise_cons.mp ordered
    refine List.pairwise_cons.mpr ⟨fun right member => ?_, ih others ?_⟩
    · obtain ⟨left, present, related⟩ := exists_of_mem_right rest member
      exact transfer _ List.mem_cons_self _ (List.mem_cons_of_mem _ present) _ _ here related
        (first left present)
    · exact fun left member right present => transfer left (List.mem_cons_of_mem _ member) right
        (List.mem_cons_of_mem _ present)

theorem forall₂_trans {first : α → β → Prop} {second : β → γ → Prop} {both : α → γ → Prop}
    {lefts : List α} {middles : List β} {rights : List γ}
    (firsts : List.Forall₂ first lefts middles) (seconds : List.Forall₂ second middles rights)
    (compose : ∀ left ∈ lefts, ∀ middle right, first left middle → second middle right →
      both left right) : List.Forall₂ both lefts rights := by
  induction firsts generalizing rights with
  | nil =>
    cases seconds
    exact .nil
  | cons here _ ih =>
    cases seconds with
    | cons there later =>
      obtain ⟨composes, rest⟩ := List.forall_mem_cons.mp compose
      exact .cons (composes _ _ here there) (ih later rest)

end

/-- A changeset is filed under its number, or under a new one if it has none. -/
inductive Store.Files (store : Store) (changeset : Changeset) (id : ChangesetId) : Prop
  | own (same : changeset.id = id) (known : id ≠ .unsaved) : Files store changeset id
  | new (unsaved : changeset.id = .unsaved) (fresh : store.lastId < id.value) :
      Files store changeset id

/-- Changesets that are written one after the other are stored under different numbers, and nothing
is changed under other numbers. -/
theorem Lists.assigns {backend last : Backend} {campaign written : Campaign}
    {changesets : List Changeset}
    (lists : Lists backend.store campaign.id campaign.changesetIds changesets)
    (numbered : backend.store.Numbered)
    (done : Access.Ends (Application.write campaign changesets) backend (.ok written) last) :
    ∃ ids : List ChangesetId,
      List.Forall₂ (fun changeset id => backend.store.Files changeset id ∧
        last.store.changesets.find? id = some { changeset with id }) changesets ids ∧
      ids.Nodup ∧
      ∀ id, id ∉ ids → last.store.changesets.find? id = backend.store.changesets.find? id := by
  induction changesets generalizing campaign backend with
  | nil =>
    obtain ⟨rfl, rfl⟩ := Access.ends_pure_ok.mp done
    exact ⟨[], .nil, List.nodup_nil, fun _ _ => rfl⟩
  | cons changeset rest ih =>
    simp only [Application.write, Access.ends_bind_ok] at done
    obtain ⟨stored, middle, upserted, others⟩ := done
    have reached := Access.call_ok upserted
    obtain ⟨rows, grown, -, -, apart⟩ := lists.written numbered reached
    have step := lists.upsert numbered reached
    have kept := numbered.upsertChangeset reached
    obtain ⟨ids, beside, distinct, spared⟩ : ∃ ids : List ChangesetId,
        List.Forall₂ (fun changeset id => middle.store.Files changeset id ∧
          last.store.changesets.find? id = some { changeset with id }) rest ids ∧
        ids.Nodup ∧
        ∀ id, id ∉ ids → last.store.changesets.find? id = middle.store.changesets.find? id := by
      split at others
      · next attached =>
        rw [if_pos attached] at step
        exact @ih middle { campaign with changesetIds := campaign.changesetIds.add stored.id }
          step kept others
      · next outside =>
        rw [if_neg outside] at step
        exact ih step kept others
    have here : middle.store.changesets.find? stored.id = some stored := by
      rw [rows, Table.find?_insert, if_pos rfl]
    have new : stored.id ∉ ids := by
      intro again
      obtain ⟨later, member, files, -⟩ := exists_of_mem_right beside again
      cases files with
      | own same => exact apart later member same
      | new unsaved beyond => exact absurd (kept.changesets here).2.2 (Int.not_le.mpr beyond)
    have told : backend.store.Files changeset stored.id ∧
        stored = { changeset with id := stored.id } := by
      obtain ⟨unsaved, rfl, -⟩ | ⟨⟨row, found⟩, rfl, -⟩ := Store.upsertChangeset_eq_ok reached
      · exact ⟨.new unsaved (Int.lt_succ _), rfl⟩
      · exact ⟨.own rfl (numbered.ne_unsaved found), rfl⟩
    refine ⟨stored.id :: ids, .cons ⟨told.1, ?_⟩ (beside.imp ?_), List.nodup_cons.mpr
      ⟨new, distinct⟩, ?_⟩
    · rw [spared _ new, here, ← told.2]
    · rintro later id ⟨⟨same, known⟩ | ⟨unsaved, beyond⟩, found⟩
      · exact ⟨.own same known, found⟩
      · exact ⟨.new unsaved (Int.lt_of_le_of_lt grown beyond), found⟩
    · intro id other
      rw [List.mem_cons, not_or] at other
      rw [spared id other.2, rows, Table.find?_insert, if_neg (Ne.symm other.1)]

/-- A new changeset is at a spec. -/
def Store.Introduces (store next : Store) (spec : ChangesetSpecId) (id : ChangesetId) : Prop :=
  store.changesets.find? id = none ∧
    ∃ row, next.changesets.find? id = some row ∧ row.currentSpecId = some spec

namespace Generation

variable {generation : Generation} {store next : Store} {campaign : CampaignId}

/-- The changeset that a spec demands in a repository that the actor sees, by the changeset that it
is paired with. -/
inductive Demands (generation : Generation) (store : Store) :
    ChangesetSpec × Option Changeset → Changeset → Prop
  | following {spec : ChangesetSpec} {row : Changeset} {repo : Repo}
      (located : store.repos.find? spec.repoId = some repo)
      (seen : generation.visible generation.actor repo = true) :
      Demands generation store (spec, some row)
        (row.following generation.campaign generation.now spec)
  | new {spec : ChangesetSpec} {repo : Repo}
      (located : store.repos.find? spec.repoId = some repo)
      (seen : generation.visible generation.actor repo = true) :
      Demands generation store (spec, none)
        (.ofSpec generation.campaign generation.now repo spec)

/-- A spec has got the changeset that it demands, under the number of the one that it is paired with
or under a new one. -/
inductive Serves (generation : Generation) (store next : Store) :
    ChangesetSpec × Option Changeset → ChangesetId → Prop
  | followed {spec : ChangesetSpec} {row : Changeset} {repo : Repo}
      (located : store.repos.find? spec.repoId = some repo)
      (seen : generation.visible generation.actor repo = true)
      (found : next.changesets.find? row.id =
        some (row.following generation.campaign generation.now spec)) :
      Serves generation store next (spec, some row) row.id
  | created {spec : ChangesetSpec} {repo : Repo} {id : ChangesetId}
      (located : store.repos.find? spec.repoId = some repo)
      (seen : generation.visible generation.actor repo = true) (new : store.lastId < id.value)
      (found : next.changesets.find? id =
        some { Changeset.ofSpec generation.campaign generation.now repo spec with id }) :
      Serves generation store next (spec, none) id

/-- The changesets that the specs of a generation have got, in the order of the specs. -/
structure Assigns (generation : Generation) (store next : Store) (assigned : List ChangesetId) :
    Prop where
  served : List.Forall₂ (generation.Serves store next)
    (store.pairs generation.spec generation.campaign) assigned
  distinct : assigned.Nodup
  /-- All new changesets are among them. -/
  fresh {id : ChangesetId} {row : Changeset} (absent : store.changesets.find? id = none)
    (found : next.changesets.find? id = some row) : id ∈ assigned

private theorem Assigns.congr {middle : Store} {assigned : List ChangesetId}
    (assigns : generation.Assigns middle next assigned) (repos : middle.repos = store.repos)
    (rows : middle.changesets = store.changesets)
    (specs : middle.changesetSpecs = store.changesetSpecs) (last : store.lastId ≤ middle.lastId) :
    generation.Assigns store next assigned := by
  have pairs : middle.pairs generation.spec generation.campaign =
      store.pairs generation.spec generation.campaign := by
    simp only [Store.pairs, Store.specsOf, specs, Store.pairings_congr rows specs]
  refine ⟨pairs ▸ assigns.served.imp ?_, assigns.distinct, ?_⟩
  · rintro pair id (⟨located, seen, found⟩ | ⟨located, seen, new, found⟩)
    · exact .followed (repos ▸ located) seen found
    · exact .created (repos ▸ located) seen (Int.lt_of_le_of_lt last new) found
  · intro id row absent found
    exact assigns.fresh (rows ▸ absent) found

/-- A store in which the pairs of a generation are realized: all repositories were seen, changesets
have moved on to the specs that they were paired with, and each other spec has one changeset of its
own. -/
structure Realizes (generation : Generation) (store next : Store) : Prop where
  seen {spec : ChangesetSpec} {partner : Option Changeset}
    (paired : (spec, partner) ∈ store.pairs generation.spec generation.campaign) :
    ∃ repo, store.repos.find? spec.repoId = some repo ∧
      generation.visible generation.actor repo = true
  followed {spec : ChangesetSpec} {row : Changeset}
    (paired : (spec, some row) ∈ store.pairs generation.spec generation.campaign) :
    next.changesets.find? row.id =
      some (row.following generation.campaign generation.now spec)
  created {spec : ChangesetSpec}
    (paired : (spec, none) ∈ store.pairs generation.spec generation.campaign) :
    ∃ repo id, store.repos.find? spec.repoId = some repo ∧ store.lastId < id.value ∧
      next.changesets.find? id =
        some { Changeset.ofSpec generation.campaign generation.now repo spec with id }
  single {id other : ChangesetId} {row another : Changeset} {spec : ChangesetSpecId}
    (new : store.changesets.find? id = none) (newToo : store.changesets.find? other = none)
    (found : next.changesets.find? id = some row)
    (foundToo : next.changesets.find? other = some another)
    (current : row.currentSpecId = some spec) (same : another.currentSpecId = some spec) :
    id = other

private theorem Serves.id_eq {pair : ChangesetSpec × Option Changeset} {id : ChangesetId}
    {spec : ChangesetSpecId} (serves : generation.Serves store next pair id)
    (numbered : store.Numbered) (paired : pair ∈ store.pairs generation.spec generation.campaign)
    (introduces : store.Introduces next spec id) : pair.1.id = spec := by
  obtain ⟨absent, row, found, current⟩ := introduces
  cases serves with
  | followed =>
    rw [numbered.find?_of_mem ((Store.mem_pairings paired).2 _ rfl).1] at absent
    cases absent
  | created located seen new stored =>
    rw [stored] at found
    cases found
    simp only [Changeset.ofSpec] at current
    split at current
    · cases current
    · exact Option.some.inj current

private theorem Assigns.pairwise {assigned : List ChangesetId}
    (assigns : generation.Assigns store next assigned) (numbered : store.Numbered)
    (spec : ChangesetSpecId) : assigned.Pairwise fun first second =>
      store.Introduces next spec first → ¬ store.Introduces next spec second := by
  refine pairwise_of_forall₂ assigns.served
    (numbered.pairwise_pairs generation.spec generation.campaign) ?_
  intro left member right present first second serves servesToo different new newToo
  exact different ((serves.id_eq numbered member new).trans
    (servesToo.id_eq numbered present newToo).symm)

/-- What the specs have got realizes their pairs. -/
theorem Assigns.realizes {assigned : List ChangesetId}
    (assigns : generation.Assigns store next assigned) (numbered : store.Numbered) :
    generation.Realizes store next := by
  refine ⟨?_, ?_, ?_, ?_⟩
  · intro spec partner paired
    obtain ⟨id, -, serves⟩ := exists_of_mem_left assigns.served paired
    cases serves with
    | followed located seen => exact ⟨_, located, seen⟩
    | created located seen => exact ⟨_, located, seen⟩
  · intro spec row paired
    obtain ⟨id, -, serves⟩ := exists_of_mem_left assigns.served paired
    cases serves with
    | followed located seen found => exact found
  · intro spec paired
    obtain ⟨id, -, serves⟩ := exists_of_mem_left assigns.served paired
    cases serves with
    | created located seen new found => exact ⟨_, id, located, new, found⟩
  · intro id other row another spec absent absentToo found foundToo current same
    have symmetric : Std.Symm fun first second : ChangesetId =>
        store.Introduces next spec first → ¬ store.Introduces next spec second :=
      ⟨fun _ _ apart new newToo => apart newToo new⟩
    by_contra different
    exact (assigns.pairwise numbered spec).forall (assigns.fresh absent found)
      (assigns.fresh absentToo foundToo) different ⟨absent, row, found, current⟩
      ⟨absentToo, another, foundToo, same⟩

/-- What is decided about a spec and its changeset is what the spec demands. -/
theorem demands_of_decided {pair : ChangesetSpec × Option Changeset} {mapping : Mapping}
    {placement : Placement} (numbered : store.Numbered)
    (paired : pair ∈ store.pairs generation.spec generation.campaign)
    (filled : mapping.Fills store generation.visible generation.actor (Store.rowOfPair pair))
    (decided : Placement.ofMapping generation.campaign generation.now mapping = .ok placement) :
    ∃ changeset, placement = .staged changeset ∧ generation.Demands store pair changeset := by
  obtain ⟨spec, partner⟩ := pair
  obtain ⟨repoId, repo, changeset, wanted⟩ := mapping
  obtain ⟨located, names, namesSpec⟩ := filled
  simp only [Store.rowOfPair] at located names namesSpec
  have known : wanted = some spec := namesSpec.unique (.row (numbered.find?_of_paired paired))
  have held : changeset = partner := by
    refine names.unique ?_
    cases partner with
    | none => exact .nothing
    | some row =>
      exact .row (numbered.find?_of_mem ((Store.mem_pairings paired).2 row rfl).1)
  subst known held
  cases repo with
  | none => cases decided
  | some here =>
    obtain ⟨there, seen⟩ := Option.filter_eq_some_iff.mp (Eq.symm located)
    cases changeset with
    | none =>
      cases decided
      exact ⟨_, rfl, .new there seen⟩
    | some row =>
      cases decided
      exact ⟨_, rfl, .following there seen⟩

private theorem demands_staged {pairs : List (ChangesetSpec × Option Changeset)}
    {placements : List Placement}
    (demands : List.Forall₂ (fun pair placement =>
      ∃ changeset, placement = .staged changeset ∧ generation.Demands store pair changeset)
      pairs placements) :
    List.Forall₂ (generation.Demands store) pairs (placements.filterMap Placement.staged?) := by
  induction demands with
  | nil => exact .nil
  | cons here _ ih =>
    obtain ⟨changeset, rfl, demanded⟩ := here
    exact .cons demanded ih

/-- A placement of a changeset that no spec is paired with stages no new changeset. -/
theorem saved_of_unpaired {row : Changeset} {mapping : Mapping} {placed : Changeset}
    (numbered : store.Numbered)
    (filled : mapping.Fills store generation.visible generation.actor (Store.rowOfUnpaired row))
    (decided : Placement.ofMapping generation.campaign generation.now mapping =
      .ok (.staged placed)) : placed.id ≠ .unsaved := by
  intro unsaved
  have known : ∀ row, mapping.changeset = some row → row.id ≠ .unsaved :=
    fun row held => numbered.ne_unsaved (filled.stored numbered held).2
  have subject := Placement.subject?_of_ofMapping known decided
  rw [filled.map_id numbered, Placement.subject?, unsaved, if_pos (by rfl)] at subject
  cases subject

end Generation

namespace Application

variable {application : Application} {visible : Visibility} {actor : Actor} {spec : CampaignSpec}
  {campaign applied : Campaign} {now : Time} {backend next : Backend}

/-- A rewiring assigns a changeset to each spec. -/
theorem assigns_of_rewires {spec : CampaignSpecId} (numbered : backend.store.Numbered)
    (rewires : Rewires visible actor spec campaign now backend applied next) :
    ∃ assigned, Generation.Assigns ⟨visible, actor, spec, campaign.id, now⟩ backend.store
      next.store assigned := by
  obtain @⟨mappings, placements, read, pruned, last, same, filled, distinct, decided, deleted,
    wrote, updated⟩ := rewires
  obtain ⟨kept, rows⟩ := delete_ok deleted
  have numberedDeleted := numbered_of_delete deleted (same ▸ numbered)
  rw [same] at kept rows
  have placed := placed_of_decided numbered filled distinct decided
  have prunedLast : pruned.store.lastId = backend.store.lastId := by rw [kept]
  obtain ⟨ids, wrote, distinctIds, spared⟩ :=
    (placed.lists numbered prunedLast rows).assigns numberedDeleted wrote
  have stored : next.store.changesets = last.store.changesets := by
    rw [(Access.updateCampaign_ok updated).2]
  -- the first rows are those of the specs, and so are the first mappings, placements and writes
  rw [Store.mappingRows_eq] at filled
  obtain ⟨mapped, mappedRest, rfl, filled, filledRest⟩ := exists_append_of_forall₂ filled
  obtain ⟨decisions, decisionsRest, rfl, decided, decidedRest⟩ := exists_append_of_forall₂ decided
  rw [List.forall₂_map_left_iff] at filled
  have demands : List.Forall₂ (Generation.Demands ⟨visible, actor, spec, campaign.id, now⟩
      backend.store) (backend.store.pairs spec campaign.id)
      (decisions.filterMap Placement.staged?) :=
    Generation.demands_staged (forall₂_trans filled decided
      fun pair paired mapping placement fills decision =>
        @Generation.demands_of_decided ⟨visible, actor, spec, campaign.id, now⟩ _ _ _ _ numbered
          paired fills decision)
  rw [List.filterMap_append] at wrote
  obtain ⟨assigned, idsRest, rfl, wrote, wroteRest⟩ := exists_append_of_forall₂ wrote
  refine ⟨assigned, forall₂_trans demands wrote ?_, (List.nodup_append.mp distinctIds).1, ?_⟩
  · rintro pair paired changeset id demanded ⟨files, found⟩
    rw [← stored] at found
    cases demanded with
    | @following spec row repo located seen =>
      have known := numbered.ne_unsaved
        (numbered.find?_of_mem ((Store.mem_pairings paired).2 row rfl).1)
      cases files with
      | new unsaved => exact absurd ((row.id_following _ _ _).symm.trans unsaved) known
      | own same =>
        subst same
        have same := row.id_following campaign.id now spec
        rw [same] at found
        exact same.symm ▸ .followed located seen (found.trans (by rw [← same]))
    | @new spec repo located seen =>
      cases files with
      | own same known => exact absurd (same.symm.trans (Changeset.id_ofSpec ..)) known
      | new _ fresh => exact .created located seen (prunedLast ▸ fresh) found
  · intro id row absent found
    by_contra other
    rw [stored] at found
    by_cases rest : id ∈ idsRest
    · -- whoever is written without a spec is stored
      obtain ⟨changeset, member, files, -⟩ := exists_of_mem_right wroteRest rest
      have staged := Placement.mem_filterMap_staged?.mp member
      obtain ⟨mapping, present, decision⟩ := exists_of_mem_right decidedRest staged
      obtain ⟨named, listed, fills⟩ := exists_of_mem_right filledRest present
      obtain ⟨unpaired, -, rfl⟩ := List.mem_map.mp listed
      have known := @Generation.saved_of_unpaired ⟨visible, actor, spec, campaign.id, now⟩ _ _ _ _
        numbered fills decision
      cases files with
      | new unsaved => exact known unsaved
      | own same =>
        obtain ⟨before, present⟩ := placed.stored (List.mem_append_right _ staged)
          (Placement.subject?_staged.mpr ⟨known, same⟩)
        rw [absent] at present
        cases present
    · rw [spared id fun member => (List.mem_append.mp member).elim other rest, rows, absent,
        ite_self] at found
      cases found

/-- So does an application that succeeds. -/
theorem assigns_of_transact (numbered : backend.store.Numbered)
    (done : Access.Ends (application.transact visible spec campaign now) backend (.ok applied)
      next) :
    ∃ assigned, Generation.Assigns ⟨visible, application.actor, spec.id, applied.id, now⟩
      backend.store next.store assigned := by
  obtain ⟨first, last, stored, numberedFirst, repos, rows, specs, grown, left, same, rewires⟩ :=
    rewires_of_transact numbered done
  rw [← left, same]
  obtain ⟨assigned, assigns⟩ := assigns_of_rewires numberedFirst rewires
  exact ⟨assigned, assigns.congr repos rows specs grown⟩

/-- And so an application that succeeds realizes all pairs. -/
theorem realizes_of_transact (numbered : backend.store.Numbered)
    (done : Access.Ends (application.transact visible spec campaign now) backend (.ok applied)
      next) :
    Generation.Realizes ⟨visible, application.actor, spec.id, applied.id, now⟩ backend.store
      next.store := by
  obtain ⟨assigned, assigns⟩ := assigns_of_transact numbered done
  exact assigns.realizes numbered

end Application

end BatchChanges
