import BatchChanges.Proofs.Campaign.Coverage
import BatchChanges.Proofs.System.CloseRequest
import BatchChanges.Proofs.System.Grounded
import BatchChanges.Proofs.System.Records

/-! # Changesets that follow their campaign

The transaction that moves a campaign on to a spec moves its own changesets on to changeset specs of
that spec, unless they are passed over because the actor cannot see their repository. Until the next
transaction of the campaign nobody else moves them. So an application that finds its campaign at the
spec already may find a changeset that was passed over before, and it leaves it like this.

A changeset spec that tracks a pull request takes the changeset of that pull request, even if the
campaign created it. Nothing is promised of such a changeset here; what comes of it is shown where
branches are counted.
-/

namespace BatchChanges

namespace Store

/-- A changeset is at a stored changeset spec of a campaign spec. -/
def Points (store : Store) (campaignSpec : CampaignSpecId) (row : Changeset) : Prop :=
  ∃ id spec, row.currentSpecId = some id ∧ store.changesetSpecs.find? id = some spec ∧
    spec.campaignSpecId = campaignSpec

instance {store : Store} {campaignSpec : CampaignSpecId} {row : Changeset} :
    Decidable (store.Points campaignSpec row) :=
  decidable_of_iff (row.currentSpecId.any fun id =>
    (store.changesetSpecs.find? id).any (·.campaignSpecId == campaignSpec)) (by
      simp [Points, Option.any_eq_true])

end Store

namespace Generation

variable {generation : Generation} {store : Store} {id : ChangesetId} {before : Option Changeset}
  {row : Changeset} {campaign : CampaignId}

/-- Specs that are paired are those of the generation. -/
theorem campaignSpecId_of_paired {spec : ChangesetSpec} {partner : Option Changeset}
    (paired : (spec, partner) ∈ store.pairs generation.spec generation.campaign) :
    spec.campaignSpecId = generation.spec := by
  have member := (Store.mem_pairings paired).1
  simp only [Store.specsOf, List.mem_filter, beq_iff_eq] at member
  exact member.2

/-- Only the campaign that created a changeset moves it on, and others do not take it out of that
campaign, or in. -/
theorem Fate.stands (fate : generation.Fate store id before (some row))
    (other : generation.campaign ≠ campaign) (owned : row.ownerId = some campaign)
    (attached : row.isAttachedTo campaign = true) :
    ∃ earlier, before = some earlier ∧ earlier.ownerId = some campaign ∧
      earlier.isAttachedTo campaign = true ∧ earlier.currentSpecId = row.currentSpecId := by
  have held := fate.any_isAttachedTo other
  rw [Option.any_some, attached] at held
  obtain ⟨earlier, rfl, attachedBefore⟩ := (Option.any_eq_true ..).mp held.symm
  have same : row.ownerId = earlier.ownerId := congrArg (·.1.2.2.2.1) fate.unedited
  refine ⟨earlier, rfl, same.symm.trans owned, attachedBefore, ?_⟩
  generalize later : some row = after at fate
  cases fate with
  | kept =>
    cases later
    rfl
  | left unwanted decided =>
    cases later
    exact (Placement.currentSpecId_of_ofDropped decided).symm
  | deleted => cases later
  | @followed _ spec paired =>
    cases later
    cases pushes : spec.branchPush? with
    | none => exact (earlier.currentSpecId_following _ _ pushes).symm
    | some push =>
      have about := ((Store.mem_pairings paired).2 earlier rfl).2
      simp only [Store.isAbout, ChangesetSpec.target_of_branchPush? pushes, Bool.and_eq_true,
        Changeset.isOwnedBy, beq_iff_eq, same.symm.trans owned, Option.some.injEq] at about
      exact absurd about.2.1.symm other

end Generation

namespace System

variable {system : System} {event : Event} {events : List Event} {generation : Generation}
  {id : ChangesetId} {row : Changeset} {campaign : CampaignId} {spec : CampaignSpecId}

/-- The transaction of an application brings a generation about. -/
def Brings (system : System) (event : Event) (generation : Generation) : Prop :=
  ∃ number visible revision applied, event = .proceed number visible ∧
    system.Commits event revision applied ∧
    generation = ⟨visible, revision.application.actor, revision.spec.id, applied.id, revision.now⟩

/-- It is a transaction that succeeds. -/
theorem Brings.transacts (brings : system.Brings event generation) :
    ∃ (application : Application) (visible : Visibility) (spec : CampaignSpec)
      (campaign applied : Campaign) (now : Time) (backend : Backend),
      Access.Ends (application.transact visible spec campaign now) system.world.backend
        (.ok applied) backend ∧
      (system.step event).store = backend.store ∧
      generation = ⟨visible, application.actor, spec.id, applied.id, now⟩ := by
  obtain ⟨number, visible, revision, applied, rfl, commits, rfl⟩ := brings
  obtain ⟨_, _, backend, ⟨⟩, done, reached⟩ := commits.transacts
  exact ⟨_, _, _, _, applied, _, backend, done, reached, rfl⟩

/-- It decides the fate of each changeset. -/
theorem Brings.transacted (brings : system.Brings event generation) (sound : system.Sound) :
    system.store.Transacted (system.step event).store (generation.Fate system.store) := by
  obtain ⟨_, _, _, _, _, _, _, done, reached, rfl⟩ := brings.transacts
  rw [reached]
  exact (Application.transact_ok sound.numbered done).2.2

/-- It says why each changeset is part of its campaign. -/
theorem Brings.holds (brings : system.Brings event generation) (sound : system.Sound)
    (found : (system.step event).store.changesets.find? id = some row)
    (attached : row.isAttachedTo generation.campaign = true) :
    generation.Holds system.store id (system.store.changesets.find? id) row := by
  obtain ⟨_, _, _, _, _, _, _, done, reached, rfl⟩ := brings.transacts
  exact Application.holds_of_transact sound.numbered done (reached ▸ found) attached

private theorem Brings.record (brings : system.Brings event generation) (sound : system.Sound)
    (drawn : ∀ revision, system.Prepares revision → ∃ existing, revision.Draws existing) :
    ∃ applied, (system.step event).store.campaigns.find? generation.campaign = some applied ∧
      applied.campaignSpecId = generation.spec := by
  obtain ⟨number, visible, revision, applied, rfl, commits, rfl⟩ := brings
  refine ⟨applied, ?_, ?_⟩
  · rw [commits.find? sound, if_pos rfl]
  · obtain ⟨existing, -, revised⟩ := drawn revision commits.prepares
    rw [commits.record sound, revised]
    rfl

/-- An event brings a generation about, or moves no changeset on, in or out. -/
theorem brings_or_keeps (sound : system.Sound) (event : Event) :
    (∃ generation, system.Brings event generation ∧
      system.store.Transacted (system.step event).store (generation.Fate system.store)) ∨
    ∀ id row, (system.step event).store.changesets.find? id = some row →
      ∃ before, system.store.changesets.find? id = some before ∧
        before.memberships = row.memberships ∧ before.currentSpecId = row.currentSpecId := by
  have happens := System.transition sound.numbered event
  by_cases transacts : system.Transacts event
  · cases event with
    | proceed number visible =>
      obtain ⟨application, spec, campaign, now, under⟩ := transacts
      rcases commits_or_same under visible with ⟨applied, commits⟩ | same
      · have brings : system.Brings (.proceed number visible)
            ⟨visible, application.actor, spec.id, applied.id, now⟩ :=
          ⟨number, visible, ⟨application, spec, campaign, now⟩, applied, rfl, commits, rfl⟩
        exact .inl ⟨_, brings, brings.transacted sound⟩
      · exact .inr fun id row found => ⟨row, same ▸ found, rfl, rfl⟩
    | close closure =>
      refine .inr fun id row found => ?_
      have fate := (closure.run_store sound.numbered
        (Access.ends_self (closure.run system.now) system.world.backend)).row id
      rw [show (closure.run system.now system.world.backend).2.store.changesets.find? id = some row
        from found] at fate
      generalize stored : system.world.backend.store.changesets.find? id = before at fate
      cases fate with
      | kept => exact ⟨row, stored, rfl, rfl⟩
      | closed attached opened => exact ⟨_, stored, rfl, rfl⟩
    | _ => cases transacts
  · refine .inr fun id row found => ?_
    have members := (happens.change sound id).memberships transacts
    rw [found, Option.map_some] at members
    obtain ⟨before, stored, same⟩ := Option.map_eq_some_iff.mp members.symm
    refine ⟨before, stored, same, ?_⟩
    by_contra moved
    obtain ⟨spec, push, moves, -⟩ := sound.movesOn stored found (Ne.symm moved)
    obtain ⟨number, visible, applying, generation, rfl, under, makes, -⟩ := moves.transacts
    exact transacts (transacts_of_makes under makes)

/-- Only a generation of the campaign that created a changeset moves it on, or takes it in. -/
theorem stands_of_other (sound : system.Sound)
    (other : ∀ generation, system.Brings event generation → generation.campaign ≠ campaign)
    (found : (system.step event).store.changesets.find? id = some row)
    (owned : row.ownerId = some campaign) (attached : row.isAttachedTo campaign = true) :
    ∃ before, system.store.changesets.find? id = some before ∧ before.ownerId = some campaign ∧
      before.isAttachedTo campaign = true ∧ before.currentSpecId = row.currentSpecId := by
  rcases brings_or_keeps sound event with ⟨generation, brings, transacted⟩ | keeps
  · have fate := transacted.row id
    rw [found] at fate
    exact fate.stands (other generation brings) owned attached
  · obtain ⟨before, stored, members, current⟩ := keeps id row found
    simp only [Changeset.memberships, Prod.mk.injEq] at members
    refine ⟨before, stored, members.2.trans owned, ?_, current⟩
    rw [Changeset.isAttachedTo, members.1]
    exact attached

end System

namespace Sample

/-- Who applies the next generation. -/
def applying (name : String) : Application := { randId := name, actor := ⟨⟨1⟩, false⟩ }

/-- Whether an application succeeds and leaves a changeset that meets a test. -/
def leads (system : System) (application : Application) (id : ChangesetId)
    (test : Campaign → Store → Changeset → Bool) : Bool :=
  match application.run visible system.now system.world.backend with
  | (.ok applied, backend) =>
    (backend.store.changesets.find? id).any (test applied backend.store)
  | (.error _, _) => false

theorem of_leads {system : System} {application : Application} {id : ChangesetId}
    {test : Campaign → Store → Changeset → Bool} (meets : leads system application id test = true) :
    ∃ applied backend row, Access.Ends (application.run visible system.now) system.world.backend
        (.ok applied) backend ∧
      backend.store.changesets.find? id = some row ∧ test applied backend.store row = true := by
  simp only [leads] at meets
  split at meets
  · next applied backend ran =>
    obtain ⟨row, found, known⟩ := (Option.any_eq_true ..).mp meets
    exact ⟨applied, backend, row, ran, found, known⟩
  · cases meets

end Sample

/-- An application by an actor who can see all repositories succeeds, and a changeset that its
campaign created and holds is at no spec of the campaign's spec. -/
def System.Dangles (system : System) (application : Application) (id : ChangesetId) : Prop :=
  ∃ applied backend row, Access.Ends (application.run (fun _ _ => true) system.now)
      system.world.backend (.ok applied) backend ∧
    backend.store.changesets.find? id = some row ∧ row.isOwnedBy applied.id = true ∧
    row.isAttachedTo applied.id = true ∧ ¬ backend.store.Points applied.campaignSpecId row

private theorem System.Dangles.of_leads {system : System} {application : Application}
    {id : ChangesetId} (dangles : Sample.leads system application id (fun applied store row =>
      row.isOwnedBy applied.id && row.isAttachedTo applied.id &&
        !decide (store.Points applied.campaignSpecId row)) = true) :
    system.Dangles application id := by
  obtain ⟨applied, backend, row, ran, found, known⟩ := Sample.of_leads dangles
  simp only [Bool.and_eq_true, Bool.not_eq_true', decide_eq_false_iff_not] at known
  exact ⟨applied, backend, row, ran, found, known.1.1, known.1.2, known.2⟩

end BatchChanges
