import BatchChanges.Proofs.Campaign.Transaction
import Mathlib.Data.List.Pairwise

/-! # The members of a campaign

That a changeset is part of a campaign is stored twice: the changeset names its campaigns, and the
campaign lists its changesets. A rewiring lists the changesets anew. Every changeset that names the
campaign is the subject of one placement, and no other placement has the same subject, so that what
is left alone is listed and stays, and what is to be written is listed when it is written. In
between, each changeset is listed rightly or still to be written.
-/

namespace BatchChanges

namespace IdSet

variable {kind : Kind}

private theorem contains_foldl_add (ids : List (Id kind)) (set : IdSet kind) (id : Id kind) :
    (ids.foldl add set).contains id = true ↔ set.contains id = true ∨ id ∈ ids := by
  induction ids generalizing set with
  | nil => simp
  | cons first rest ih =>
    rw [List.foldl_cons, ih, contains_add, List.mem_cons, Bool.or_eq_true, decide_eq_true_iff]
    constructor
    · rintro ((rfl | old) | later)
      · exact .inr (.inl rfl)
      · exact .inl old
      · exact .inr (.inr later)
    · rintro (old | rfl | later)
      · exact .inl (.inr old)
      · exact .inl (.inl rfl)
      · exact .inr later

theorem contains_ofList {ids : List (Id kind)} {id : Id kind} :
    (ofList ids).contains id = true ↔ id ∈ ids := by
  rw [ofList, contains_foldl_add]
  exact ⟨fun member => member.resolve_left (by simp [Table.contains]), .inr⟩

end IdSet

def Store.holds (store : Store) (campaign : CampaignId) (id : ChangesetId) : Bool :=
  (store.changesets.find? id).any (·.isAttachedTo campaign)

theorem Store.holds_iff {store : Store} {campaign : CampaignId} {id : ChangesetId} :
    store.holds campaign id = true ↔
      ∃ row, store.changesets.find? id = some row ∧ row.isAttachedTo campaign = true :=
  Option.any_eq_true ..

/-- A changeset that leaves a campaign stays in all others. -/
theorem Placement.campaignIds_of_ofDropped {campaign : CampaignId} {now : Time}
    {row placed : Changeset} (decided : Placement.ofDropped campaign now row = .staged placed) :
    placed.campaignIds = row.campaignIds.erase campaign := by
  obtain ⟨-, rfl⟩ | ⟨-, rfl⟩ := Placement.ofDropped_eq_staged decided
  · rfl
  · rfl

/-- One that a spec is about joins the campaign. -/
theorem Changeset.campaignIds_following (row : Changeset) (campaign : CampaignId) (now : Time)
    (spec : ChangesetSpec) :
    (row.following campaign now spec).campaignIds = row.campaignIds.add campaign := by
  simp only [following]
  split
  · split <;> rfl
  · rfl

/-- A new one is part of its campaign only. -/
theorem Changeset.campaignIds_ofSpec (campaign : CampaignId) (now : Time) (repo : Repo)
    (spec : ChangesetSpec) :
    (ofSpec campaign now repo spec).campaignIds = IdSet.ofList [campaign] := by
  simp only [ofSpec]
  split <;> rfl

theorem Changeset.ownerId_ofSpec {campaign owner : CampaignId} {now : Time} {repo : Repo}
    {spec : ChangesetSpec} (owned : (ofSpec campaign now repo spec).ownerId = some owner) :
    owner = campaign := by
  simp only [ofSpec] at owned
  split at owned <;> cases owned
  rfl

namespace Placement

variable {campaign : CampaignId} {now : Time} {mapping : Mapping} {placement : Placement}

def subject? : Placement → Option ChangesetId
  | nothing => none
  | untouched changeset => some changeset.id
  | deleted id => some id
  | staged changeset => if changeset.id.isUnsaved then none else some changeset.id

theorem subject?_staged {changeset : Changeset} {id : ChangesetId} :
    (staged changeset).subject? = some id ↔ changeset.id ≠ .unsaved ∧ changeset.id = id := by
  rw [subject?, Option.ite_none_left_eq_some, Id.isUnsaved_iff, Option.some.injEq]

theorem member?_untouched {changeset : Changeset} {id : ChangesetId} :
    (untouched changeset).member? campaign = some id ↔
      changeset.isAttachedTo campaign = true ∧ changeset.id = id := by
  rw [member?, Option.ite_none_right_eq_some, Option.some.injEq]

theorem member?_staged {changeset : Changeset} {id : ChangesetId} :
    (staged changeset).member? campaign = some id ↔
      changeset.isAttachedTo campaign = true ∧ (staged changeset).subject? = some id := by
  rw [member?, Option.ite_none_right_eq_some, Option.some.injEq, subject?_staged, Bool.and_eq_true,
    Bool.not_eq_true', ← Bool.not_eq_true, Id.isUnsaved_iff, and_assoc]

private theorem subject?_of_member? {id : ChangesetId}
    (listed : placement.member? campaign = some id) : placement.subject? = some id := by
  cases placement with
  | nothing => cases listed
  | deleted _ => cases listed
  | untouched changeset => exact congrArg some (member?_untouched.mp listed).2
  | staged changeset => exact (member?_staged.mp listed).2

/-- What is decided about a mapping is about its changeset. -/
theorem subject?_of_ofMapping
    (known : ∀ row, mapping.changeset = some row → row.id ≠ .unsaved)
    (decided : ofMapping campaign now mapping = .ok placement) :
    placement.subject? = mapping.changeset.map (·.id) := by
  obtain ⟨repoId, repo, changeset, spec⟩ := mapping
  cases spec with
  | none =>
    cases changeset with
    | none =>
      cases decided
      rfl
    | some row =>
      cases repo with
      | none =>
        cases decided
        rfl
      | some here =>
        simp only [ofMapping, Except.ok.injEq] at decided
        subst decided
        simp only [Option.map_some]
        cases dropped : ofDropped campaign now row with
        | nothing => simp only [ofDropped] at dropped; split_ifs at dropped
        | untouched other => simp only [ofDropped] at dropped; split_ifs at dropped
        | deleted id => rw [(ofDropped_eq_deleted dropped).1]; rfl
        | staged placed =>
          have same := id_of_ofDropped dropped
          exact subject?_staged.mpr ⟨same ▸ known row rfl, same⟩
  | some wanted =>
    cases repo with
    | none => cases decided
    | some here =>
      cases changeset with
      | none =>
        cases decided
        simp [subject?]
      | some row =>
        cases decided
        have same := row.id_following campaign now wanted
        exact subject?_staged.mpr ⟨same ▸ known row rfl, same⟩

/-- A changeset that is left alone is left as the mapping holds it. -/
theorem changeset_of_untouched {row : Changeset}
    (decided : ofMapping campaign now mapping = .ok (.untouched row)) :
    mapping.changeset = some row := by
  obtain ⟨repoId, repo, changeset, spec⟩ := mapping
  cases spec <;> cases changeset <;> cases repo <;>
    simp only [ofMapping, Except.ok.injEq, reduceCtorEq] at decided
  · cases decided
    rfl
  · simp only [ofDropped] at decided
    split_ifs at decided

end Placement

/-- The placements of a rewiring: each changeset that names the campaign is the subject of one. -/
structure Placed (store : Store) (campaign : CampaignId) (placements : List Placement) : Prop where
  distinct : (placements.filterMap Placement.subject?).Nodup
  stored {placement : Placement} {id : ChangesetId} (member : placement ∈ placements)
    (about : placement.subject? = some id) : ∃ row, store.changesets.find? id = some row
  untouched {row : Changeset} (member : .untouched row ∈ placements) :
    store.changesets.find? row.id = some row
  complete {id : ChangesetId} (held : store.holds campaign id = true) :
    ∃ placement ∈ placements, placement.subject? = some id

/-- Two placements are not about one changeset. -/
def Placement.Apart (first second : Placement) : Prop :=
  ∀ id, first.subject? = some id → ∀ other, second.subject? = some other → id ≠ other

instance : Std.Symm Placement.Apart :=
  ⟨fun _ _ apart id about other same => (apart other same id about).symm⟩

namespace Placed

variable {store pruned : Store} {campaign : CampaignId} {placements : List Placement}

theorem apart (placed : Placed store campaign placements) : placements.Pairwise Placement.Apart :=
  List.pairwise_filterMap.mp placed.distinct

/-- A changeset is the subject of one placement only. -/
theorem unique (placed : Placed store campaign placements) {first second : Placement}
    {id : ChangesetId} (one : first ∈ placements) (two : second ∈ placements)
    (about : first.subject? = some id) (same : second.subject? = some id) : first = second := by
  by_contra other
  exact placed.apart.forall one two other id about id same rfl

end Placed

/-- Changesets are listed as members of a campaign if they name it, except for those that are still
to be written. -/
structure Lists (store : Store) (campaign : CampaignId) (ids : IdSet .changeset)
    (pending : List Changeset) : Prop where
  agrees {id : ChangesetId}
    (spared : ∀ changeset ∈ pending, changeset.id = id → changeset.id = .unsaved) :
    ids.contains id = store.holds campaign id
  joins {changeset : Changeset} (member : changeset ∈ pending) (known : changeset.id ≠ .unsaved) :
    changeset.isAttachedTo campaign = true ∨ ids.contains changeset.id = false
  distinct : pending.Pairwise fun first second => first.id = second.id → first.id = .unsaved
  bounded {changeset : Changeset} (member : changeset ∈ pending) :
    changeset.id.value ≤ store.lastId

namespace Lists

variable {store next : Store} {campaign : CampaignId} {ids : IdSet .changeset}
  {changeset stored : Changeset} {rest : List Changeset}

private theorem contains_eq (lists : Lists store campaign ids []) (id : ChangesetId) :
    ids.contains id = store.holds campaign id :=
  lists.agrees fun _ member => absurd member List.not_mem_nil

/-- A write puts a changeset under a number that no later write is for. -/
theorem written (lists : Lists store campaign ids (changeset :: rest)) (numbered : store.Numbered)
    (done : store.upsertChangeset changeset = .ok (stored, next)) :
    next.changesets = store.changesets.insert stored.id stored ∧ store.lastId ≤ next.lastId ∧
      (changeset.id = .unsaved ∨ changeset = stored) ∧
      (stored.isAttachedTo campaign = false → ids.contains stored.id = false) ∧
      ∀ later ∈ rest, later.id ≠ stored.id := by
  obtain ⟨unsaved, rfl, rfl⟩ | ⟨⟨row, found⟩, rfl, rfl⟩ := Store.upsertChangeset_eq_ok done
  · have beyond : ∀ later ∈ changeset :: rest,
        later.id ≠ (⟨store.lastId + 1⟩ : ChangesetId) := by
      intro later member same
      have bounded := lists.bounded member
      rw [same] at bounded
      exact absurd bounded (Int.not_le.mpr (Int.lt_succ _))
    refine ⟨rfl, Int.le_add_one (Int.le_refl _), .inl unsaved, ?_,
      fun later member => beyond later (List.mem_cons_of_mem _ member)⟩
    intro _
    rw [lists.agrees fun later member same => absurd same (beyond later member), Store.holds,
      numbered.find?_of_lt (Int.lt_succ _)]
    rfl
  · have known := numbered.ne_unsaved found
    refine ⟨rfl, Int.le_refl _, .inr rfl, ?_, ?_⟩
    · intro outside
      exact (lists.joins List.mem_cons_self known).resolve_left (by simp [outside])
    · intro later member same
      exact known ((List.pairwise_cons.mp lists.distinct).1 later member same.symm)

/-- Whoever is written is listed if it names the campaign. -/
theorem upsert (lists : Lists store campaign ids (changeset :: rest)) (numbered : store.Numbered)
    (done : store.upsertChangeset changeset = .ok (stored, next)) :
    Lists next campaign (if stored.isAttachedTo campaign then ids.add stored.id else ids) rest := by
  obtain ⟨rows, grown, same, outside, apart⟩ := lists.written numbered done
  have listed : ∀ {id}, stored.id ≠ id →
      Table.contains (if stored.isAttachedTo campaign then ids.add stored.id else ids) id =
        ids.contains id := by
    intro id other
    split
    · rw [IdSet.contains_add, decide_eq_false other, Bool.false_or]
    · rfl
  refine ⟨?_, ?_, (List.pairwise_cons.mp lists.distinct).2, ?_⟩
  · intro id spared
    rw [Store.holds, rows, Table.find?_insert]
    by_cases here : stored.id = id
    · subst here
      rw [if_pos rfl, Option.any_some]
      cases attached : stored.isAttachedTo campaign with
      | true => simp [IdSet.contains_add]
      | false => exact outside attached
    · rw [if_neg here, listed here]
      refine lists.agrees (List.forall_mem_cons.mpr ⟨fun named => ?_, spared⟩)
      exact same.resolve_right fun stays => here (stays ▸ named)
  · intro later member known
    rw [listed (apart later member).symm]
    exact lists.joins (List.mem_cons_of_mem _ member) known
  · intro later member
    exact Int.le_trans (lists.bounded (List.mem_cons_of_mem _ member)) grown

/-- When all changesets are written, those that name the campaign are listed. -/
theorem write {backend last : Backend} {campaign written : Campaign} {changesets : List Changeset}
    (lists : Lists backend.store campaign.id campaign.changesetIds changesets)
    (numbered : backend.store.Numbered)
    (done : Access.Ends (Application.write campaign changesets) backend (.ok written) last) :
    Lists last.store campaign.id written.changesetIds [] := by
  induction changesets generalizing campaign backend with
  | nil =>
    obtain ⟨rfl, rfl⟩ := Access.ends_pure_ok.mp done
    exact lists
  | cons changeset rest ih =>
    simp only [Application.write, Access.ends_bind_ok] at done
    obtain ⟨stored, middle, upserted, others⟩ := done
    have reached := Access.call_ok upserted
    have step := lists.upsert numbered reached
    have kept := numbered.upsertChangeset reached
    split at others
    · next attached =>
      rw [if_pos attached] at step
      exact @ih middle { campaign with changesetIds := campaign.changesetIds.add stored.id }
        step kept others
    · next outside =>
      rw [if_neg outside] at step
      exact ih step kept others

end Lists

/-- Placements that decide the mappings of a campaign are about its changesets. -/
theorem placed_of_decided {store : Store} {visible : Visibility} {actor : Actor}
    {spec : CampaignSpecId} {campaign : CampaignId} {now : Time} {mappings : List Mapping}
    {placements : List Placement} (numbered : store.Numbered)
    (filled : List.Forall₂ (fun row mapping => mapping.Fills store visible actor row)
      (store.mappingRows spec campaign) mappings)
    (distinct : ((store.mappingRows spec campaign).filterMap (·.changesetId)).Nodup)
    (decided : List.Forall₂ (fun mapping placement =>
      Placement.ofMapping campaign now mapping = .ok placement) mappings placements) :
    Placed store campaign placements := by
  have stored : ∀ {mapping changeset}, mapping ∈ mappings → mapping.changeset = some changeset →
      store.changesets.find? changeset.id = some changeset := by
    intro mapping changeset member held
    obtain ⟨row, -, fills⟩ := exists_of_mem_right filled member
    exact (fills.stored numbered held).2
  have known : ∀ {mapping}, mapping ∈ mappings → ∀ changeset, mapping.changeset = some changeset →
      changeset.id ≠ .unsaved :=
    fun member _ held => numbered.ne_unsaved (stored member held)
  have subjects : placements.filterMap Placement.subject? =
      (store.mappingRows spec campaign).filterMap (·.changesetId) := by
    rw [filterMap_eq_of_forall₂ decided fun mapping member placement decision =>
      Placement.subject?_of_ofMapping (known member) decision]
    exact filterMap_eq_of_forall₂ filled fun row _ mapping fills => fills.map_id numbered
  refine ⟨subjects ▸ distinct, ?_, ?_, ?_⟩
  · intro placement id member about
    obtain ⟨mapping, present, decision⟩ := exists_of_mem_right decided member
    rw [Placement.subject?_of_ofMapping (known present) decision, Option.map_eq_some_iff] at about
    obtain ⟨changeset, held, rfl⟩ := about
    exact ⟨changeset, stored present held⟩
  · intro changeset member
    obtain ⟨mapping, present, decision⟩ := exists_of_mem_right decided member
    exact stored present (Placement.changeset_of_untouched decision)
  · intro id held
    obtain ⟨changeset, found, attached⟩ := Store.holds_iff.mp held
    obtain ⟨row, listed, named⟩ := Store.mappingRows_names spec
      (List.mem_filter.mpr ⟨Table.mem_rows_iff.mpr ⟨id, found⟩, attached⟩)
    rw [(numbered.changesets found).1] at named
    have subject : id ∈ placements.filterMap Placement.subject? := by
      rw [subjects]
      exact List.mem_filterMap.mpr ⟨row, listed, named⟩
    exact List.mem_filterMap.mp subject

namespace Placed

variable {store pruned : Store} {campaign : CampaignId} {placements : List Placement}

/-- Once the deletions are done, the campaign lists what is left alone. -/
theorem lists (placed : Placed store campaign placements) (numbered : store.Numbered)
    (last : pruned.lastId = store.lastId)
    (rows : ∀ id, pruned.changesets.find? id =
      if id ∈ placements.filterMap Placement.deleted? then none else store.changesets.find? id) :
    Lists pruned campaign (IdSet.ofList (placements.filterMap (Placement.member? campaign)))
      (placements.filterMap Placement.staged?) := by
  have remains : ∀ {placement : Placement} {id}, placement ∈ placements →
      placement.subject? = some id → placement ≠ .deleted id →
      pruned.changesets.find? id = store.changesets.find? id := by
    intro placement id member about other
    rw [rows id, if_neg]
    exact fun gone => other
      (placed.unique member (Placement.mem_filterMap_deleted?.mp gone) about rfl)
  refine ⟨?_, ?_, ?_, ?_⟩
  · intro id spared
    have unstaged : ∀ changeset, .staged changeset ∈ placements →
        (Placement.staged changeset).subject? ≠ some id := by
      intro changeset member about
      obtain ⟨known, same⟩ := Placement.subject?_staged.mp about
      exact known (spared changeset (Placement.mem_filterMap_staged?.mpr member) same)
    rw [Bool.eq_iff_iff, IdSet.contains_ofList, List.mem_filterMap, Store.holds_iff]
    constructor
    · rintro ⟨placement, member, listed⟩
      cases placement with
      | nothing => cases listed
      | deleted _ => cases listed
      | untouched row =>
        obtain ⟨attached, rfl⟩ := Placement.member?_untouched.mp listed
        exact ⟨row, (remains member rfl nofun).trans (placed.untouched member), attached⟩
      | staged changeset =>
        exact absurd (Placement.member?_staged.mp listed).2 (unstaged changeset member)
    · rintro ⟨row, found, attached⟩
      rw [rows id, Option.ite_none_left_eq_some] at found
      obtain ⟨spares, found⟩ := found
      obtain ⟨placement, member, about⟩ :=
        placed.complete (Store.holds_iff.mpr ⟨row, found, attached⟩)
      refine ⟨placement, member, ?_⟩
      cases placement with
      | nothing => cases about
      | deleted _ =>
        cases about
        exact absurd (Placement.mem_filterMap_deleted?.mpr member) spares
      | untouched changeset =>
        cases about
        rw [placed.untouched member] at found
        cases found
        exact Placement.member?_untouched.mpr ⟨attached, rfl⟩
      | staged changeset => exact absurd about (unstaged changeset member)
  · intro changeset member known
    rw [or_iff_not_imp_right, Bool.not_eq_false]
    intro listed
    obtain ⟨placement, present, told⟩ := List.mem_filterMap.mp (IdSet.contains_ofList.mp listed)
    obtain rfl := placed.unique present (Placement.mem_filterMap_staged?.mp member)
      (Placement.subject?_of_member? told) (Placement.subject?_staged.mpr ⟨known, rfl⟩)
    exact (Placement.member?_staged.mp told).1
  · refine List.pairwise_filterMap.mpr (placed.apart.imp ?_)
    intro first second apart changeset staged other later same
    by_contra known
    cases first <;> cases staged
    cases second <;> cases later
    exact apart _ (Placement.subject?_staged.mpr ⟨known, rfl⟩) _
      (Placement.subject?_staged.mpr ⟨same ▸ known, rfl⟩) same
  · intro changeset member
    rw [last]
    by_cases unsaved : changeset.id = .unsaved
    · rw [unsaved]
      exact numbered.lastId_nonneg
    · obtain ⟨row, found⟩ := placed.stored (Placement.mem_filterMap_staged?.mp member)
        (Placement.subject?_staged.mpr ⟨unsaved, rfl⟩)
      exact (numbered.changesets found).2.2

end Placed

namespace Application

variable {application : Application} {visible : Visibility} {actor : Actor} {spec : CampaignSpec}
  {campaign applied : Campaign} {now : Time} {backend next : Backend}

/-- A campaign that is rewired lists the changesets that name it. -/
theorem contains_of_rewires {spec : CampaignSpecId} (numbered : backend.store.Numbered)
    (rewires : Rewires visible actor spec campaign now backend applied next) :
    applied.id = campaign.id ∧
      next.store.campaigns = backend.store.campaigns.insert applied.id applied ∧
      ∀ id, applied.changesetIds.contains id = next.store.holds applied.id id := by
  obtain ⟨same, filled, distinct, decided, deleted, wrote, updated⟩ := rewires
  obtain ⟨kept, rows⟩ := delete_ok deleted
  have numberedDeleted := numbered_of_delete deleted (same ▸ numbered)
  rw [same] at kept rows
  have placed := placed_of_decided numbered filled distinct decided
  have lists := placed.lists numbered (by rw [kept]) rows
  obtain ⟨writes, -, sameId⟩ := write_ok numberedDeleted wrote
  have stored := (Access.updateCampaign_ok updated).2
  refine ⟨sameId, ?_, fun id => ?_⟩
  · rw [stored, writes.campaigns, kept]
  · rw [(Lists.write lists numberedDeleted wrote).contains_eq id, sameId, stored]
    rfl

/-- So it is also when it is created, and no other campaign is written. -/
theorem contains_of_rewire (numbered : backend.store.Numbered)
    (done : Access.Ends (application.rewire visible spec campaign now) backend (.ok applied) next) :
    (∀ id, next.store.campaigns.find? id =
        if applied.id = id then some applied else backend.store.campaigns.find? id) ∧
      ∀ id, applied.changesetIds.contains id = next.store.holds applied.id id := by
  rw [rewire_eq, Access.ends_bind_ok] at done
  obtain ⟨stored, middle, created, rewired⟩ := done
  split at created
  · rw [Access.ends_wrapping_ok] at created
    have numberedMiddle := Access.numbered_of_createCampaign created numbered
    obtain ⟨same, campaigns, lists⟩ :=
      contains_of_rewires numberedMiddle (rewires_of_rewireStored numberedMiddle rewired)
    refine ⟨fun id => ?_, lists⟩
    rw [campaigns, (Access.createCampaign_ok created).2, same, Table.find?_insert,
      Table.find?_insert]
    split <;> rfl
  · obtain ⟨rfl, rfl⟩ := Access.ends_pure_ok.mp created
    obtain ⟨-, campaigns, lists⟩ :=
      contains_of_rewires numbered (rewires_of_rewireStored numbered rewired)
    refine ⟨fun id => ?_, lists⟩
    rw [campaigns, Table.find?_insert]

/-- An application that succeeds writes one campaign, which lists the changesets that name it. -/
theorem contains_of_transact (numbered : backend.store.Numbered)
    (done : Access.Ends (application.transact visible spec campaign now) backend (.ok applied)
      next) :
    (∀ id, next.store.campaigns.find? id =
        if applied.id = id then some applied else backend.store.campaigns.find? id) ∧
      ∀ id, applied.changesetIds.contains id = next.store.holds applied.id id := by
  obtain ⟨first, last, same, left, rewired⟩ := rewire_of_transact done
  rw [left, ← same]
  exact contains_of_rewire (same ▸ numbered) rewired

end Application

end BatchChanges
