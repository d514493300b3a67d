import BatchChanges.Proofs.System.Failing
import BatchChanges.Proofs.System.Specs

/-! # Campaigns keep out of each other's way

A changeset may be part of several campaigns, but at most one of them has created it. Whoever
applies a spec to a campaign, or closes it, writes one campaign. Of the changesets that this
campaign did not create none is deleted, canceled or queued to be closed: they join the campaign or
leave it, and a pull request that nobody created is tried again if it has failed. A closure does not
touch them.
-/

namespace BatchChanges

/-- What decides which specs are about a changeset. -/
def Changeset.sought (changeset : Changeset) :
    ChangesetId × RepoId × Option String × Option ChangesetSpecId × Option CampaignId :=
  (changeset.id, changeset.repoId, changeset.externalId, changeset.currentSpecId,
    changeset.ownerId)

namespace Store

variable {store : Store} {test : Changeset → Bool} {revise : Changeset → Changeset}

/-- Specs are paired with the same changesets when these are revised. -/
theorem pairings_updateWhere (same : ∀ row, (revise row).sought = row.sought)
    (campaign : CampaignId) (taken : IdSet .changeset) (specs : List ChangesetSpec) :
    (store.updateWhere test revise).pairings campaign taken specs =
      (store.pairings campaign taken specs).map fun pair =>
        (pair.1, pair.2.map fun row => if test row then revise row else row) := by
  have kept : ∀ row, (if test row then revise row else row).sought = row.sought := by
    intro row
    split
    · exact same row
    · rfl
  have rows : (store.updateWhere test revise).changesets.rows =
      store.changesets.rows.map fun row => if test row then revise row else row := by
    simp [updateWhere, Table.rows, Table.map, Table.mapWithId]
  have about : ∀ spec row, (store.updateWhere test revise).isAbout campaign spec
      (if test row then revise row else row) = store.isAbout campaign spec row := by
    intro spec row
    have here := kept row
    simp only [Changeset.sought, Prod.mk.injEq] at here
    simp only [isAbout, headRefOf?, Changeset.isOwnedBy, here, updateWhere]
  induction specs generalizing taken with
  | nil => rfl
  | cons spec rest ih =>
    have named : ∀ row, (if test row then revise row else row).id = row.id :=
      fun row => congrArg (·.1) (kept row)
    simp only [pairings, rows, List.find?_map, Function.comp_def, about, named]
    cases store.changesets.rows.find? fun row =>
        !taken.contains row.id && store.isAbout campaign spec row with
    | none => simp [ih]
    | some row => simp [ih, named]

/-- A changeset that the canceled campaign did not create has the specs that it had before. -/
theorem paired_of_cancelQueued {canceled campaign : CampaignId} {campaignSpec : CampaignSpecId}
    {spec : ChangesetSpec} {row : Changeset} (foreign : row.isOwnedBy canceled = false)
    (paired : (spec, some row) ∈ (store.cancelQueued canceled).2.pairs campaignSpec campaign) :
    (spec, some row) ∈ store.pairs campaignSpec campaign := by
  have revised := @pairings_updateWhere store (·.isCancelable canceled) Changeset.canceled
    (fun _ => rfl) campaign ∅ (store.specsOf campaignSpec)
  rw [pairs, cancelQueued, show (store.updateWhere (·.isCancelable canceled)
    Changeset.canceled).specsOf campaignSpec = store.specsOf campaignSpec from rfl, revised,
    List.mem_map] at paired
  obtain ⟨⟨wanted, partner⟩, before, same⟩ := paired
  simp only [Prod.mk.injEq, Option.map_eq_some_iff] at same
  obtain ⟨rfl, earlier, rfl, rfl⟩ := same
  split at foreign
  · next waits =>
    rw [Changeset.isCancelable, show earlier.isOwnedBy canceled = false from foreign] at waits
    cases waits
  · next spared =>
    rw [if_neg spared]
    exact before

end Store

/-- A changeset stays the same but for its membership in one campaign and the time of its last
change. -/
structure Changeset.SameBut (campaign : CampaignId) (before after : Changeset) : Prop where
  fields : after =
    { before with campaignIds := after.campaignIds, updatedAt := after.updatedAt }
  memberships {other : CampaignId} (elsewhere : other ≠ campaign) :
    after.isAttachedTo other = before.isAttachedTo other

/-- What an application does at most to a changeset that its campaign did not create: a failed one
that nobody created is put back into the queue if a spec tracks its pull request. -/
inductive Store.Touches (store : Store) (spec : CampaignSpecId) (campaign : CampaignId)
    (before after : Changeset) : Prop
  | kept (same : before.SameBut campaign after)
  | requeued {tracking : ChangesetSpec} {externalId : String} (nobody : before.ownerId = none)
      (failed : before.queueState = .errored)
      (paired : (tracking, some before) ∈ store.pairs spec campaign)
      (tracks : tracking.target = .trackExisting externalId)
      (same : before.requeued.SameBut campaign after)

/-- One store comes from another without anything being done to other campaigns than one: changesets
that this one did not create stay, and no more becomes of them than is told. -/
structure Store.Spares (store next : Store) (campaign : CampaignId)
    (touches : Changeset → Changeset → Prop) : Prop where
  campaigns {other : CampaignId} (elsewhere : other ≠ campaign) :
    next.campaigns.find? other = store.campaigns.find? other
  campaignSpecs : next.campaignSpecs = store.campaignSpecs
  changesetSpecs : next.changesetSpecs = store.changesetSpecs
  repos : next.repos = store.repos
  leases : next.leases = store.leases
  changesets {id : ChangesetId} {row : Changeset} (found : store.changesets.find? id = some row)
    (foreign : row.isOwnedBy campaign = false) :
    ∃ after, next.changesets.find? id = some after ∧ touches row after

namespace Changeset

variable {campaign : CampaignId} {row : Changeset}

private theorem SameBut.refl (campaign : CampaignId) (row : Changeset) : row.SameBut campaign row :=
  ⟨rfl, fun _ => rfl⟩

private theorem sameBut_erase (campaign : CampaignId) (row : Changeset) (now : Time) :
    row.SameBut campaign
      { row with campaignIds := row.campaignIds.erase campaign, updatedAt := now } := by
  refine ⟨rfl, fun elsewhere => ?_⟩
  rw [isAttachedTo, IdSet.contains_erase, decide_eq_true (Ne.symm elsewhere), Bool.true_and]
  rfl

private theorem sameBut_add (campaign : CampaignId) (row : Changeset) (now : Time) :
    row.SameBut campaign
      { row with campaignIds := row.campaignIds.add campaign, updatedAt := now } := by
  refine ⟨rfl, fun elsewhere => ?_⟩
  rw [isAttachedTo, IdSet.contains_add, decide_eq_false (Ne.symm elsewhere), Bool.false_or]
  rfl

end Changeset

/-- The transaction of an application spares changesets that its campaign did not create. -/
theorem Generation.Fate.touches {generation : Generation} {store : Store} {id : ChangesetId}
    {row : Changeset} {result : Option Changeset}
    (fate : generation.Fate store id (some row) result)
    (foreign : row.isOwnedBy generation.campaign = false) :
    ∃ after, result = some after ∧
      store.Touches generation.spec generation.campaign row after := by
  have stranger : row.isOwnedBy generation.campaign ≠ true := Bool.eq_false_iff.mp foreign
  cases fate with
  | kept => exact ⟨row, rfl, .kept (.refl _ row)⟩
  | @left _ placed unwanted decided =>
    obtain ⟨⟨owned, -⟩, -⟩ | ⟨-, rfl⟩ := Placement.ofDropped_eq_staged decided
    · exact absurd owned stranger
    · exact ⟨_, rfl, .kept (Changeset.sameBut_erase ..)⟩
  | deleted unwanted decided =>
    exact absurd (Placement.ofDropped_eq_deleted decided).2.1 stranger
  | @followed _ spec paired =>
    refine ⟨_, rfl, ?_⟩
    cases wants : spec.target with
    | trackExisting externalId =>
      simp only [Changeset.following, wants]
      split
      · next retried =>
        refine .requeued ?_ retried.1 paired wants (Changeset.sameBut_add _ row.requeued _)
        cases owner : row.ownerId with
        | none => rfl
        | some other =>
          have mine := retried.2
          rw [owner, Option.any_some, Bool.not_eq_true', bne_eq_false_iff_eq] at mine
          exact absurd (by rw [Changeset.isOwnedBy, owner, mine, beq_self_eq_true]) stranger
      · exact .kept (Changeset.sameBut_add ..)
    | branchPush push =>
      have about := ((Store.mem_pairings paired).2 row rfl).2
      simp only [Store.isAbout, wants, Bool.and_eq_true] at about
      exact absurd about.2.1 stranger

namespace Application

variable {application : Application} {visible : Visibility} {spec : CampaignSpec}
  {campaign applied : Campaign} {now : Time} {backend next : Backend}
  {result : Except CampaignError Campaign}

/-- The campaign that an application is about: the one of the namespace and name of its spec, or the
one that it creates, which gets the next number. -/
def Concerns (application : Application) (store : Store) (spec : CampaignSpec)
    (campaign : CampaignId) : Prop :=
  store.campaignSpecByRandId? application.randId = some spec ∧
    ((store.campaignByName? spec.space spec.name).map (·.id)).getD ⟨store.lastId + 1⟩ = campaign

private theorem id_of_transact (numbered : backend.store.Numbered)
    (unsaved : campaign.id.isUnsaved = true)
    (done : Access.Ends (application.transact visible spec campaign now) backend (.ok applied)
      next) : applied.id = ⟨backend.store.lastId + 1⟩ := by
  obtain ⟨first, last, same, -, rewired⟩ := rewire_of_transact done
  rw [← same] at numbered ⊢
  rw [rewire_eq, if_pos unsaved, Access.ends_bind_ok] at rewired
  obtain ⟨stored, middle, created, rest⟩ := rewired
  rw [Access.ends_wrapping_ok] at created
  obtain ⟨named, -⟩ := Access.createCampaign_ok created
  rw [(rewireStored_ok (Access.numbered_of_createCampaign created numbered) rest).1, named]

private theorem spares_self (store : Store) (spec : CampaignSpecId) (campaign : CampaignId) :
    store.Spares store campaign (store.Touches spec campaign) where
  campaigns _ := rfl
  campaignSpecs := rfl
  changesetSpecs := rfl
  repos := rfl
  leases := rfl
  changesets found _ := ⟨_, found, .kept (.refl campaign _)⟩

/-- The transaction spares what the campaign did not create. -/
theorem spares_of_transact (numbered : backend.store.Numbered)
    (done : Access.Ends (application.transact visible spec campaign now) backend (.ok applied)
      next) :
    backend.store.Spares next.store applied.id (backend.store.Touches spec.id applied.id) := by
  obtain ⟨-, -, transacted⟩ := transact_ok numbered done
  refine ⟨fun elsewhere => ?_, application.keeps_transact visible spec campaign now done,
    transacted.changesetSpecs, transacted.repos, transacted.leases, fun {id row} found foreign => ?_⟩
  · rw [(contains_of_transact numbered done).1, if_neg (Ne.symm elsewhere)]
  · have fate := transacted.row id
    rw [found] at fate
    exact fate.touches foreign

/-- So it does after the cancellation, which takes none of it out of the queue. -/
theorem spares_of_cancelQueued {store : Store} {campaign : CampaignId} {spec : CampaignSpecId}
    {last : Store} (spares : (store.cancelQueued campaign).2.Spares last campaign
      ((store.cancelQueued campaign).2.Touches spec campaign)) :
    store.Spares last campaign (store.Touches spec campaign) := by
  refine ⟨spares.campaigns, spares.campaignSpecs, spares.changesetSpecs, spares.repos,
    spares.leases, fun {id row} found foreign => ?_⟩
  have stays : (store.cancelQueued campaign).2.changesets.find? id = some row := by
    rw [Store.cancelQueued, Store.find?_updateWhere, found, Option.map_some,
      Changeset.isCancelable, foreign]
    rfl
  obtain ⟨after, present, touched⟩ := spares.changesets stays foreign
  refine ⟨after, present, ?_⟩
  cases touched with
  | kept same => exact .kept same
  | requeued nobody failed paired tracks same =>
    exact .requeued nobody failed (Store.paired_of_cancelQueued foreign paired) tracks same

/-- An application spares what its campaign did not create, however it ends. -/
theorem spares_of_run {id : CampaignId} (numbered : backend.store.Numbered)
    (saved : ∀ {space name record}, backend.store.campaignByName? space name = some record →
      record.id.isUnsaved = false)
    (concerns : application.Concerns backend.store spec id)
    (done : Access.Ends (application.run visible now) backend result next) :
    backend.store.Spares next.store id (backend.store.Touches spec.id id) := by
  obtain ⟨named, about⟩ := concerns
  rcases transacts_of_run done with
    same | ⟨read, existing, middle, known, found, -, canceled, transacts⟩
  · rw [same]
    exact spares_self ..
  rw [named] at known
  cases known
  rw [found] at about
  have numberedMiddle : middle.store.Numbered := by
    rcases canceled with same | ⟨record, -, -, same⟩
    · exact same ▸ numbered
    · exact same ▸ numbered.cancelQueued record.id
  have spares : middle.store.Spares next.store id (middle.store.Touches spec.id id) := by
    cases result with
    | error error =>
      rw [transact_error transacts]
      exact spares_self ..
    | ok applied =>
      have here : applied.id = id := by
        cases existing with
        | some record =>
          have known : record.id.isUnsaved = false := saved found
          exact ((transact_ok numberedMiddle transacts).1 known).trans about
        | none =>
          rw [id_of_transact numberedMiddle rfl transacts]
          rcases canceled with same | ⟨_, ⟨⟩, -⟩
          rw [same]
          exact about
      exact here ▸ spares_of_transact numberedMiddle transacts
  rcases canceled with same | ⟨record, rfl, -, same⟩
  · exact same ▸ spares
  · cases about
    exact spares_of_cancelQueued (same ▸ spares)

private theorem store_of_missing
    (missing : backend.store.campaignSpecByRandId? application.randId = none)
    (done : Access.Ends (application.run visible now) backend result next) :
    next.store = backend.store := by
  rcases transacts_of_run done with same | ⟨spec, existing, middle, known, -⟩
  · exact same
  · rw [missing] at known
    cases known

end Application

/-- A closure spares what its campaign did not create: all of it stays as it is. -/
theorem Closure.spares_of_run {closure : Closure} {now : Time} {backend next : Backend}
    {result : Except CampaignError Campaign} (numbered : backend.store.Numbered)
    (agrees : backend.store.Agrees)
    (done : Access.Ends (closure.run now) backend result next) :
    backend.store.Spares next.store closure.id Eq := by
  have transacted := run_store numbered done
  refine ⟨fun {other} elsewhere => ?_, closure.keeps_run now done, transacted.changesetSpecs,
    transacted.repos, transacted.leases, fun {id row} found foreign => ?_⟩
  · rcases campaigns_of_run numbered agrees done with same | ⟨campaign, -, -, same⟩
    · rw [same]
    · rw [same, Table.find?_insert, if_neg (Ne.symm elsewhere)]
  · have fate := transacted.row id
    rw [found] at fate
    generalize present : next.store.changesets.find? id = result at fate
    cases fate with
    | kept => exact ⟨row, rfl, rfl⟩
    | closed attached opened =>
      rw [Changeset.isClosedWith, foreign] at opened
      cases opened

namespace System

/-- In every state that a run reaches from the empty store, whatever failures of the store lie
ahead, an application or a closure changes one campaign, however it ends: no other campaign, no
spec, no repository and no lease changes, and of the changesets that the campaign did not create
none is deleted. A closure leaves them as they are. An application changes at most their membership
in the campaign and the time of their last change; one that failed and that nobody created is put
back into the queue too, if it is paired with a spec that tracks its pull request. -/
theorem campaigns_isolated (faults : List Fault) (now : Time) (events : List Event)
    (moment : Time) :
    (∀ (application : Application) (visible : Visibility),
      (∀ spec campaign,
        application.Concerns ((start faults now).run events).store spec campaign →
        ((start faults now).run events).store.Spares
          (application.run visible moment ((start faults now).run events).world.backend).2.store
          campaign (((start faults now).run events).store.Touches spec.id campaign)) ∧
      (((start faults now).run events).store.campaignSpecByRandId? application.randId = none →
        (application.run visible moment
          ((start faults now).run events).world.backend).2.store =
            ((start faults now).run events).store)) ∧
    ∀ closure : Closure,
      ((start faults now).run events).store.Spares
        (closure.run moment ((start faults now).run events).world.backend).2.store closure.id Eq := by
  have sound := (sound_start faults now).run events
  have begun : (start faults now).store.Agrees := Store.agrees_empty
  have agrees := agrees_run begun (sound_start faults now) events
  refine ⟨fun application visible => ⟨fun spec campaign concerns => ?_, fun missing => ?_⟩,
    fun closure => ?_⟩
  · refine Application.spares_of_run sound.numbered ?_ concerns (Access.ends_self ..)
    intro space name record known
    obtain ⟨key, stored⟩ := Table.mem_rows_iff.mp (List.mem_of_find?_eq_some known)
    rw [(agrees.lists stored).1]
    exact isUnsaved_of_stored faults now events stored
  · exact Application.store_of_missing missing (Access.ends_self ..)
  · exact Closure.spares_of_run sound.numbered agrees (Access.ends_self ..)

end System

namespace Sample

/-- A code host that cannot be reached. -/
def unreachable : HostReply := { reply with request := .error (.network "down") }

/-- The first campaign tracks a pull request that cannot be loaded; another one is going to track it
too. -/
def alsoTracking : List Event :=
  [.putRepo repo, .addCampaignSpec (campaignSpec "a"),
    .addChangesetSpec { spec 1 "a" "a" with target := .trackExisting "7" }] ++ apply "a" ++
    [.claim "w" (.ofSeconds 60), .ask 0 {} unreachable, .ask 0 {} unreachable, .conclude 0 {},
      .addCampaignSpec { campaignSpec "c" with name := "watch" },
      .addChangesetSpec { spec 5 "c" "c" with target := .trackExisting "7" }]

end Sample

open Sample in
/-- The changeset failed, and nobody created it: it is put back into the queue, and joins the other
campaign. -/
theorem System.campaigns_isolated_tracking :
    ∃ row after, ((start [] (instant 0)).run alsoTracking).store.changesets.find? ⟨4⟩ = some row ∧
      row.ownerId = none ∧ row.queueState = .errored ∧
      ((applying "c").run visible (instant 0)
        ((start [] (instant 0)).run alsoTracking).world.backend).2.store.changesets.find? ⟨4⟩ =
          some after ∧
      after.isAttachedTo ⟨7⟩ = true ∧ row.requeued.SameBut ⟨7⟩ after := by
  obtain ⟨spec, known, about⟩ := Option.map_eq_some_iff.mp (show
    (((start [] (instant 0)).run alsoTracking).store.campaignSpecByRandId? "c").map (fun spec =>
      ((((start [] (instant 0)).run alsoTracking).store.campaignByName? spec.space spec.name).map
        (·.id)).getD ⟨((start [] (instant 0)).run alsoTracking).store.lastId + 1⟩) = some ⟨7⟩
    by decide +kernel)
  obtain ⟨row, found, calm⟩ := Option.map_eq_some_iff.mp (show
    (((start [] (instant 0)).run alsoTracking).store.changesets.find? ⟨4⟩).map (fun row =>
      (row.ownerId, row.queueState)) = some (none, .errored) by decide +kernel)
  simp only [Prod.mk.injEq] at calm
  obtain ⟨nobody, failed⟩ := calm
  have spares := ((campaigns_isolated [] (instant 0) alsoTracking (instant 0)).1 (applying "c")
    visible).1 spec ⟨7⟩ ⟨known, about⟩
  obtain ⟨after, present, touched⟩ := spares.changesets found (by
    rw [Changeset.isOwnedBy, nobody]
    rfl)
  have later : (((applying "c").run visible (instant 0)
      ((start [] (instant 0)).run alsoTracking).world.backend).2.store.changesets.find? ⟨4⟩).map
      (fun row => (row.queueState, row.isAttachedTo ⟨7⟩)) = some (.queued, true) := by
    decide +kernel
  rw [present] at later
  simp only [Option.map_some, Option.some.injEq, Prod.mk.injEq] at later
  refine ⟨row, after, found, nobody, failed, present, later.2, ?_⟩
  cases touched with
  | kept same =>
    have stays := congrArg (·.queueState) same.fields
    rw [later.1, show _ = QueueState.errored from failed] at stays
    cases stays
  | requeued nobody failed paired tracks same => exact same

end BatchChanges
