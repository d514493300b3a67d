import BatchChanges.Proofs.Campaign.Assignment
import BatchChanges.Proofs.System.Branches
import BatchChanges.Proofs.System.Unseen

/-! # Applications are complete

After the transaction of an application each spec has a changeset of its own, which is as the spec
wants it. The campaign holds these changesets and those that it held before in repositories that the
actor cannot see, and no others.
-/

namespace BatchChanges

/-- A changeset of a campaign is as a spec wants it: about to be brought up to date with a branch
push, or the one with the pull request that is tracked. -/
inductive Store.Fulfills (store : Store) (campaign : CampaignId) (spec : ChangesetSpec)
    (id : ChangesetId) : Prop
  | pushed {push : BranchPush} {row : Changeset} (target : spec.target = .branchPush push)
      (found : store.changesets.find? id = some row) (located : row.repoId = spec.repoId)
      (attached : row.isAttachedTo campaign = true) (owned : row.isOwnedBy campaign = true)
      (current : row.currentSpecId = some spec.id) (diffStat : row.diffStat = spec.diffStat)
      (queued : row.queueState = .queued) (wanted : row.closing = false)
      (clean : row.failureMessage = none ∧ row.failures = 0 ∧ row.processAfter = none) :
      Fulfills store campaign spec id
  | tracked {externalId : String} {row : Changeset}
      (target : spec.target = .trackExisting externalId)
      (found : store.changesets.find? id = some row) (located : row.repoId = spec.repoId)
      (attached : row.isAttachedTo campaign = true) (named : row.externalId = some externalId) :
      Fulfills store campaign spec id

namespace Store

variable {store : Store} {campaign : CampaignId} {id : ChangesetId}

private theorem Fulfills.holds {spec : ChangesetSpec} (fulfills : store.Fulfills campaign spec id) :
    store.holds campaign id = true := by
  cases fulfills with
  | pushed target found located attached => exact holds_iff.mpr ⟨_, found, attached⟩
  | tracked target found located attached => exact holds_iff.mpr ⟨_, found, attached⟩

private theorem Numbered.mem_changesetsOf (numbered : store.Numbered) :
    id ∈ (store.changesetsOf campaign).map (·.id) ↔ store.holds campaign id = true := by
  rw [holds_iff, List.mem_map]
  constructor
  · rintro ⟨row, member, rfl⟩
    obtain ⟨listed, attached⟩ := List.mem_filter.mp member
    exact ⟨row, numbered.find?_of_mem listed, attached⟩
  · rintro ⟨row, found, attached⟩
    exact ⟨row, List.mem_filter.mpr ⟨Table.mem_rows_iff.mpr ⟨id, found⟩, attached⟩,
      (numbered.changesets found).1⟩

end Store

namespace Generation

variable {generation : Generation} {store middle next : Store} {assigned : List ChangesetId}
  {id : ChangesetId}

/-- The changesets of the campaign in repositories that the actor cannot see. -/
def unseen (generation : Generation) (store : Store) : List ChangesetId :=
  ((store.changesetsOf generation.campaign).filter fun row =>
    !(store.repos.find? row.repoId).any (generation.visible generation.actor)).map (·.id)

private theorem mem_unseen (numbered : store.Numbered) :
    id ∈ generation.unseen store ↔ ∃ row, store.changesets.find? id = some row ∧
      row.isAttachedTo generation.campaign = true ∧
      ∀ repo, store.repos.find? row.repoId = some repo →
        generation.visible generation.actor repo = false := by
  simp only [unseen, Store.changesetsOf, List.mem_map, List.mem_filter, Bool.not_eq_true',
    Option.any_eq_false]
  constructor
  · rintro ⟨row, ⟨⟨listed, attached⟩, hidden⟩, rfl⟩
    exact ⟨row, numbered.find?_of_mem listed, attached, hidden⟩
  · rintro ⟨row, found, attached, hidden⟩
    exact ⟨row, ⟨⟨Table.mem_rows_iff.mpr ⟨id, found⟩, attached⟩, hidden⟩,
      (numbered.changesets found).1⟩

/-- Each spec of the generation has a changeset of its own that is as the spec wants it. These
changesets are in the campaign, and those that the actor could not see before, and no others. -/
structure Completes (generation : Generation) (store next : Store) (assigned : List ChangesetId) :
    Prop where
  specs : List.Forall₂ (next.Fulfills generation.campaign) (store.specsOf generation.spec) assigned
  distinct : assigned.Nodup
  members : ((next.changesetsOf generation.campaign).map (·.id)).Perm
    (assigned ++ generation.unseen store)
  count : (next.changesetsOf generation.campaign).length =
    (store.specsOf generation.spec).length + (generation.unseen store).length

/-- What a spec has got is as the spec wants it. -/
theorem Serves.fulfills {pair : ChangesetSpec × Option Changeset}
    (serves : generation.Serves store next pair id)
    (paired : pair ∈ store.pairs generation.spec generation.campaign)
    (named : ∀ {id repo}, store.repos.find? id = some repo → repo.id = id) :
    next.Fulfills generation.campaign pair.1 id := by
  cases serves with
  | @followed spec row _ _ _ found =>
    have same := row.unedited_following generation.campaign generation.now spec
    have attached : (row.following generation.campaign generation.now spec).isAttachedTo
        generation.campaign = true := by
      simp [Changeset.isAttachedTo, Changeset.campaignIds_following, IdSet.contains_add]
    rcases Store.isAbout_eq_true_iff.mp ((Store.mem_pairings paired).2 row rfl).2 with
      ⟨target, located, tracked⟩ | @⟨push, target, located, owned, -⟩
    · exact .tracked target found ((congrArg (·.1.2.1) same).trans located) attached
        ((congrArg (·.2.2.1) same).trans tracked)
    · have pushes : spec.branchPush? = some push := by
        simp only [ChangesetSpec.branchPush?, target]
      rw [row.following_eq generation.campaign generation.now pushes] at found attached
      exact .pushed target found located attached (beq_iff_eq.mpr owned) rfl rfl rfl rfl
        ⟨rfl, rfl, rfl⟩
  | @created spec repo _ located _ _ found =>
    have here := named located
    have attached := IdSet.contains_ofList.mpr (List.mem_singleton_self generation.campaign)
    cases target : spec.target with
    | trackExisting externalId =>
      simp only [Changeset.ofSpec, target] at found
      exact .tracked target found here attached rfl
    | branchPush push =>
      simp only [Changeset.ofSpec, target] at found
      exact .pushed target found here attached (beq_iff_eq.mpr rfl) rfl rfl rfl rfl ⟨rfl, rfl, rfl⟩

/-- It is a changeset that the actor could see before, or a new one. -/
theorem Serves.not_mem_unseen {pair : ChangesetSpec × Option Changeset}
    (serves : generation.Serves store next pair id) (numbered : store.Numbered)
    (paired : pair ∈ store.pairs generation.spec generation.campaign) :
    id ∉ generation.unseen store := by
  rw [mem_unseen numbered]
  rintro ⟨before, stored, -, hidden⟩
  cases serves with
  | @followed spec row repo located seen =>
    obtain ⟨member, about⟩ := (Store.mem_pairings paired).2 row rfl
    rw [numbered.find?_of_mem member] at stored
    cases stored
    simp only [Store.isAbout, Bool.and_eq_true, beq_iff_eq] at about
    rw [hidden repo (about.1 ▸ located)] at seen
    cases seen
  | created located seen new found =>
    rw [numbered.find?_of_lt new] at stored
    cases stored

/-- Only which specs there are, and which changesets cannot be seen, matters for it. -/
theorem Completes.congr (completes : generation.Completes middle next assigned)
    (specs : middle.specsOf generation.spec = store.specsOf generation.spec)
    (same : generation.unseen middle = generation.unseen store) :
    generation.Completes store next assigned := by
  obtain ⟨served, distinct, members, count⟩ := completes
  rw [specs] at served count
  rw [same] at members count
  exact ⟨served, distinct, members, count⟩

private theorem unseen_cancelQueued (generation : Generation) (store : Store)
    (campaign : CampaignId) :
    generation.unseen (store.cancelQueued campaign).2 = generation.unseen store := by
  have rows : (store.cancelQueued campaign).2.changesets.rows = store.changesets.rows.map
      fun row => if row.isCancelable campaign then row.canceled else row := by
    simp [Store.cancelQueued, Store.updateWhere, Table.rows, Table.map, Table.mapWithId]
  have repos : (store.cancelQueued campaign).2.repos = store.repos := rfl
  have kept : ∀ row : Changeset,
      ((if row.isCancelable campaign then row.canceled else row).id,
        (if row.isCancelable campaign then row.canceled else row).repoId,
        (if row.isCancelable campaign then row.canceled else row).campaignIds) =
        (row.id, row.repoId, row.campaignIds) := by
    intro row
    split <;> rfl
  simp only [Prod.mk.injEq] at kept
  simp only [unseen, Store.changesetsOf, rows, repos, List.filter_map, List.map_map,
    Function.comp_def, Changeset.isAttachedTo, kept]

/-- What the specs have got, and what could not be seen, is all that the campaign holds. -/
theorem Assigns.members (assigns : generation.Assigns store next assigned)
    (numbered : store.Numbered) (transacted : store.Transacted next (generation.Fate store))
    (fulfills : List.Forall₂ (next.Fulfills generation.campaign) (store.specsOf generation.spec)
      assigned)
    (holds : ∀ {id row}, next.changesets.find? id = some row →
      row.isAttachedTo generation.campaign = true →
      generation.Holds store id (store.changesets.find? id) row) :
    ((next.changesetsOf generation.campaign).map (·.id)).Perm
      (assigned ++ generation.unseen store) := by
  have listed : ((next.changesetsOf generation.campaign).map (·.id)).Nodup :=
    transacted.numbered.nodup_changesets.sublist (List.Sublist.map _ List.filter_sublist)
  have unseen : (generation.unseen store).Nodup := numbered.nodup_changesets.sublist
    (List.Sublist.map _ (List.filter_sublist.trans List.filter_sublist))
  have apart : assigned.Disjoint (generation.unseen store) := by
    intro id member
    obtain ⟨pair, paired, serves⟩ := exists_of_mem_right assigns.served member
    exact serves.not_mem_unseen numbered paired
  refine (List.perm_ext_iff_of_nodup listed
    (List.nodup_append'.mpr ⟨assigns.distinct, unseen, apart⟩)).mpr fun id => ?_
  rw [transacted.numbered.mem_changesetsOf, List.mem_append]
  constructor
  · intro held
    obtain ⟨row, found, attached⟩ := Store.holds_iff.mp held
    have reason := holds found attached
    generalize stored : store.changesets.find? id = before at reason
    cases reason with
    | @followed row spec paired =>
      obtain ⟨other, member, serves⟩ := exists_of_mem_left assigns.served paired
      cases serves
      rw [(numbered.changesets stored).1] at member
      exact .inl member
    | created => exact .inl (assigns.fresh stored found)
    | passedOver passed =>
      exact .inr ((mem_unseen numbered).mpr ⟨row, stored, passed.attached, passed.hidden⟩)
  · rintro (member | member)
    · obtain ⟨spec, -, suits⟩ := exists_of_mem_right fulfills member
      exact suits.holds
    · obtain ⟨row, stored, attached, hidden⟩ := (mem_unseen numbered).mp member
      have fate := transacted.row id
      rw [stored] at fate
      have kept := fate.kept_of_hidden (assigns.realizes numbered) hidden
      exact Store.holds_iff.mpr ⟨row, kept, attached⟩

/-- So a transaction that has given each spec what it demands is complete. -/
theorem Assigns.completes (assigns : generation.Assigns store next assigned)
    (numbered : store.Numbered) (transacted : store.Transacted next (generation.Fate store))
    (named : ∀ {id repo}, store.repos.find? id = some repo → repo.id = id)
    (holds : ∀ {id row}, next.changesets.find? id = some row →
      row.isAttachedTo generation.campaign = true →
      generation.Holds store id (store.changesets.find? id) row) :
    generation.Completes store next assigned := by
  have fulfills : List.Forall₂ (next.Fulfills generation.campaign) (store.specsOf generation.spec)
      assigned := by
    rw [← store.map_fst_pairings generation.campaign ∅ (store.specsOf generation.spec),
      List.forall₂_map_left_iff]
    exact forall₂_trans assigns.served (List.forall₂_same.mpr fun id _ => rfl)
      fun pair paired id other serves (same : id = other) => same ▸ serves.fulfills paired named
  have members := assigns.members numbered transacted fulfills holds
  refine ⟨fulfills, assigns.distinct, members, ?_⟩
  have lengths := members.length_eq
  rw [List.length_map, List.length_append, ← fulfills.length_eq] at lengths
  exact lengths

end Generation

/-- The transaction of an application that succeeds is complete. -/
theorem Application.completes_of_transact {application : Application} {visible : Visibility}
    {spec : CampaignSpec} {campaign applied : Campaign} {now : Time} {backend next : Backend}
    (numbered : backend.store.Numbered)
    (named : ∀ {id repo}, backend.store.repos.find? id = some repo → repo.id = id)
    (done : Access.Ends (application.transact visible spec campaign now) backend (.ok applied)
      next) :
    ∃ assigned, Generation.Completes ⟨visible, application.actor, spec.id, applied.id, now⟩
      backend.store next.store assigned := by
  obtain ⟨assigned, assigns⟩ := assigns_of_transact numbered done
  exact ⟨assigned, assigns.completes numbered (transact_ok numbered done).2.2 named
    (holds_of_transact numbered done)⟩

/-- Whether the campaign of the spec's name is at the spec already. -/
def Application.isApplied (application : Application) (store : Store) : Bool :=
  (store.campaignSpecByRandId? application.randId).any fun spec =>
    (store.campaignByName? spec.space spec.name).any (·.campaignSpecId == spec.id)

/-- So is an application that nobody interrupts. -/
theorem Application.completes_of_run {application : Application} {visible : Visibility}
    {applied : Campaign} {now : Time} {backend next : Backend} (numbered : backend.store.Numbered)
    (named : ∀ {id repo}, backend.store.repos.find? id = some repo → repo.id = id)
    (done : Access.Ends (application.run visible now) backend (.ok applied) next)
    (anew : application.isApplied backend.store = false) :
    ∃ spec assigned, backend.store.campaignSpecByRandId? application.randId = some spec ∧
      Generation.Completes ⟨visible, application.actor, spec.id, applied.id, now⟩ backend.store
        next.store assigned := by
  obtain ⟨spec, existing, known, -, found, ⟨rfl, follows, -⟩ | ⟨middle, reached, transacts⟩⟩ :=
    run_ok done
  · rw [isApplied, known, Option.any_some, found, Option.any_some, follows] at anew
    simp at anew
  · rcases reached with same | ⟨campaign, canceled⟩
    · rw [← same] at numbered named known ⊢
      obtain ⟨assigned, completes⟩ := completes_of_transact numbered named transacts
      exact ⟨spec, assigned, known, completes⟩
    · -- What waits is canceled first, which is of no consequence for who is in the campaign.
      obtain ⟨assigned, completes⟩ := completes_of_transact
        (canceled ▸ numbered.cancelQueued campaign) (canceled ▸ named) transacts
      rw [canceled] at completes
      exact ⟨spec, assigned, known,
        completes.congr rfl (Generation.unseen_cancelQueued _ backend.store campaign)⟩

namespace System

/-- In every state that a run reaches from the empty store, whatever failures of the store lie
ahead, each application that succeeds without being at its spec already is complete, be it that its
transaction takes place while others act between its calls, or that nobody interrupts it: the specs
have got changesets in their order, a different one each, and the campaign holds these and those
that the actor cannot see. -/
theorem application_complete (faults : List Fault) (now : Time) (events : List Event) :
    (∀ event generation, ((start faults now).run events).Brings event generation →
      ∃ assigned, generation.Completes ((start faults now).run events).store
        (((start faults now).run events).step event).store assigned) ∧
    ∀ (application : Application) visible moment applied (backend next : Backend),
      backend.store = ((start faults now).run events).store →
      Access.Ends (application.run visible moment) backend (.ok applied) next →
      application.isApplied backend.store = false →
      ∃ spec assigned, backend.store.campaignSpecByRandId? application.randId = some spec ∧
        Generation.Completes ⟨visible, application.actor, spec.id, applied.id, moment⟩
          backend.store next.store assigned := by
  have sound := (sound_start faults now).run events
  have grounded := grounded_run faults now events
  constructor
  · intro event generation brings
    obtain ⟨_, _, _, _, _, _, _, done, reached, rfl⟩ := brings.transacts
    rw [reached]
    exact Application.completes_of_transact sound.numbered grounded.repo done
  · intro application visible moment applied backend next same done anew
    have named : ∀ {id repo}, backend.store.repos.find? id = some repo → repo.id = id := by
      rw [same]
      exact grounded.repo
    exact Application.completes_of_run (same ▸ sound.numbered) named done anew

end System

namespace Sample

/-- The second generation also tracks a pull request. -/
def mixed : List Event :=
  unseen ++ [.addChangesetSpec { spec 4 "b" "c" with target := .trackExisting "7" }]

end Sample

open Sample in
/-- One changeset moves on to the second generation, one is new, and one cannot be seen. -/
theorem System.application_complete_mixed :
    (∃ generation assigned, ((start [] (instant 0)).run (mixed ++ (apply "b").take 4)).Brings
        (.proceed 0 onlyFirst) generation ∧
      generation.Completes ((start [] (instant 0)).run (mixed ++ (apply "b").take 4)).store
        (((start [] (instant 0)).run (mixed ++ (apply "b").take 4)).step
          (.proceed 0 onlyFirst)).store assigned) ∧
    ∃ applied next assigned, Access.Ends ((applying "b").run onlyFirst (instant 0))
        ((start [] (instant 0)).run mixed).world.backend (.ok applied) next ∧
      Generation.Completes ⟨onlyFirst, (applying "b").actor, ⟨4⟩, applied.id, instant 0⟩
        ((start [] (instant 0)).run mixed).store next.store assigned ∧
      assigned.length = 2 ∧ (next.store.changesetsOf applied.id).length = 3 := by
  constructor
  · obtain ⟨complete, -⟩ :=
      application_complete [] (instant 0) (mixed ++ (apply "b").take 4)
    have sound := (sound_start [] (instant 0)).run (mixed ++ (apply "b").take 4)
    obtain ⟨row, found⟩ := Option.isSome_iff_exists.mp (show
      ((((start [] (instant 0)).run (mixed ++ (apply "b").take 4)).step
        (.proceed 0 onlyFirst)).store.changesets.find? ⟨10⟩).isSome = true by decide +kernel)
    obtain ⟨generation, brings⟩ := brings_of_new sound (by decide +kernel) found
    obtain ⟨assigned, completes⟩ := complete _ generation brings
    exact ⟨generation, assigned, brings, completes⟩
  · obtain ⟨applied, next, ended⟩ := Access.ends_ok_of_isOk (show
      ((applying "b").run onlyFirst (instant 0)
        ((start [] (instant 0)).run mixed).world.backend).1.isOk = true by decide +kernel)
    obtain ⟨spec, assigned, known, completes⟩ := (application_complete [] (instant 0) mixed).2
      (applying "b") onlyFirst (instant 0) applied _ next rfl ended (by decide +kernel)
    have second : spec.id = ⟨4⟩ := by
      have here : (((start [] (instant 0)).run mixed).store.campaignSpecByRandId? "b").map (·.id) =
          some ⟨4⟩ := by decide +kernel
      exact Option.some.inj ((congrArg (Option.map CampaignSpec.id) known).symm.trans here)
    have sixth : applied.id = ⟨6⟩ := by
      have here : ((applying "b").run onlyFirst (instant 0)
          ((start [] (instant 0)).run mixed).world.backend).1.toOption.map (·.id) = some ⟨6⟩ := by
        decide +kernel
      exact Option.some.inj
        ((congrArg (fun result => result.1.toOption.map Campaign.id) ended).symm.trans here)
    rw [second] at completes
    have count := completes.count
    rw [sixth, show ((start [] (instant 0)).run mixed).world.backend.store =
      ((start [] (instant 0)).run mixed).store from rfl] at count
    have specs : (((start [] (instant 0)).run mixed).store.specsOf ⟨4⟩).length = 2 := by
      decide +kernel
    have unseen : (Generation.unseen ⟨onlyFirst, (applying "b").actor, ⟨4⟩, ⟨6⟩, instant 0⟩
        ((start [] (instant 0)).run mixed).store).length = 1 := by decide +kernel
    rw [specs, unseen] at count
    exact ⟨applied, next, assigned, ended, completes, completes.specs.length_eq.symm.trans specs,
      sixth ▸ count⟩

end BatchChanges
