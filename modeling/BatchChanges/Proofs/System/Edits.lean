import BatchChanges.Proofs.Attempt.Knowledge
import BatchChanges.Proofs.System.Requeue

/-! # Who edits a changeset

Only applications and closures change what campaigns want of a changeset. An application moves it on
to a spec or lets it leave the campaign, and a closure queues it to be closed; all other events
spare it. Whatever is shown of runs is shown under a condition that each of their events meets.
-/

namespace BatchChanges

theorem ChangesetSpec.target_of_branchPush? {spec : ChangesetSpec} {push : BranchPush}
    (pushes : spec.branchPush? = some push) : spec.target = .branchPush push := by
  simp only [branchPush?] at pushes
  split at pushes
  · next target => rw [target, Option.some.inj pushes]
  · cases pushes

namespace Changeset

variable {spec : ChangesetSpec} {push : BranchPush}

/-- A changeset that moves on to a branch push is queued for it. Its current spec becomes the
previous one, unless it waits in the queue or has failed. -/
theorem following_eq (row : Changeset) (campaign : CampaignId) (now : Time)
    (pushes : spec.branchPush? = some push) :
    row.following campaign now spec =
      requeued { row with
        campaignIds := row.campaignIds.add campaign
        updatedAt := now
        previousSpecId :=
          if row.queueState == .errored || row.queueState == .queued then row.previousSpecId
          else row.currentSpecId
        currentSpecId := some spec.id
        diffStat := spec.diffStat
        closing := false } := by
  simp only [following, ChangesetSpec.target_of_branchPush? pushes]

/-- A changeset that a spec tracks becomes part of the campaign, and may be queued again. -/
theorem following_eq_of_tracks (row : Changeset) (campaign : CampaignId) (now : Time)
    (tracks : spec.branchPush? = none) :
    row.following campaign now spec =
        { row with campaignIds := row.campaignIds.add campaign, updatedAt := now } ∨
      row.following campaign now spec =
        requeued { row with campaignIds := row.campaignIds.add campaign, updatedAt := now } := by
  simp only [ChangesetSpec.branchPush?] at tracks
  simp only [following]
  split at tracks
  · cases tracks
  · next target =>
    rw [target]
    dsimp only
    split
    · exact .inr rfl
    · exact .inl rfl

/-- So it goes on to be wanted closed if it was. -/
theorem closing_following (row : Changeset) (campaign : CampaignId) (now : Time)
    (tracks : spec.branchPush? = none) :
    (row.following campaign now spec).closing = row.closing := by
  rcases row.following_eq_of_tracks campaign now tracks with same | same
  · rw [same]
  · rw [same]
    rfl

/-- And it keeps its current spec. -/
theorem currentSpecId_following (row : Changeset) (campaign : CampaignId) (now : Time)
    (tracks : spec.branchPush? = none) :
    (row.following campaign now spec).currentSpecId = row.currentSpecId := by
  rcases row.following_eq_of_tracks campaign now tracks with same | same
  · rw [same]
  · rw [same]
    rfl

/-- Only pull requests that were opened are closed with a campaign. -/
theorem published_of_isClosedWith {row : Changeset} {campaign : CampaignId}
    (opened : row.isClosedWith campaign = true) : row.publication = .published := by
  simp only [isClosedWith, isPublished, Bool.and_eq_true, beq_iff_eq] at opened
  exact opened.1.2

/-- What campaigns do not edit. -/
def unedited (row : Changeset) :
    (ChangesetId × RepoId × CodeHost × Option CampaignId × Time) ×
      (Publication × Option HostState) × Option String × Bool :=
  (row.identity, row.sight)

theorem unedited_following (row : Changeset) (campaign : CampaignId) (now : Time)
    (spec : ChangesetSpec) : (row.following campaign now spec).unedited = row.unedited := by
  simp only [following]
  split
  · split <;> rfl
  · rfl

theorem unedited_released (row : Changeset) : row.released.unedited = row.unedited := by
  simp only [released]
  split <;> rfl

@[simp] theorem standing_following (row : Changeset) (campaign : CampaignId) (now : Time)
    (spec : ChangesetSpec) : (row.following campaign now spec).standing = row.standing :=
  congrArg (·.2.1) (row.unedited_following campaign now spec)

@[simp] theorem standing_released (row : Changeset) : row.released.standing = row.standing :=
  congrArg (·.2.1) row.unedited_released

@[simp] theorem standing_withOutcome (row outcome : Changeset) (closing : Bool) :
    (row.withOutcome outcome closing).standing = outcome.standing := rfl

/-- An attempt's outcome knows of the pull request what the attempt knows. -/
theorem unedited_of_settled {row outcome : Changeset} {policy : RetryPolicy}
    {failure : Option ReconcileError} {now : Time}
    (settled : row.settled? policy failure now = some outcome) :
    outcome.unedited = row.unedited := by
  obtain ⟨-, rfl⟩ | ⟨error, retryAt, -, rfl⟩ := settled?_eq_some settled
  · rfl
  · rfl

theorem standing_of_settled {row outcome : Changeset} {policy : RetryPolicy}
    {failure : Option ReconcileError} {now : Time}
    (settled : row.settled? policy failure now = some outcome) :
    outcome.standing = row.standing :=
  congrArg (·.2.1) (unedited_of_settled settled)

end Changeset

/-- Leaving a campaign changes the current spec as little as what is known of the pull request. -/
theorem Placement.currentSpecId_of_ofDropped {campaign : CampaignId} {now : Time}
    {row placed : Changeset} (decided : Placement.ofDropped campaign now row = .staged placed) :
    placed.currentSpecId = row.currentSpecId := by
  obtain ⟨-, rfl⟩ | ⟨-, rfl⟩ := Placement.ofDropped_eq_staged decided
  · rfl
  · rfl

theorem Placement.unedited_of_ofDropped {campaign : CampaignId} {now : Time}
    {row placed : Changeset} (decided : Placement.ofDropped campaign now row = .staged placed) :
    placed.unedited = row.unedited := by
  obtain ⟨-, rfl⟩ | ⟨-, rfl⟩ := Placement.ofDropped_eq_staged decided
  · rfl
  · rfl

theorem Placement.standing_of_ofDropped {campaign : CampaignId} {now : Time}
    {row placed : Changeset} (decided : Placement.ofDropped campaign now row = .staged placed) :
    placed.standing = row.standing :=
  congrArg (·.2.1) (Placement.unedited_of_ofDropped decided)

/-- A changeset that moves on to a branch push is held by the campaign that created it. -/
theorem Store.held_of_paired {store : Store} {campaignSpec : CampaignSpecId}
    {campaign : CampaignId} {spec : ChangesetSpec} {push : BranchPush} {row : Changeset}
    (paired : (spec, some row) ∈ store.pairs campaignSpec campaign)
    (pushes : spec.branchPush? = some push) (now : Time) :
    (row.following campaign now spec).isOwnedAndAttached = true := by
  have about := ((Store.mem_pairings paired).2 row rfl).2
  simp only [Store.isAbout, ChangesetSpec.target_of_branchPush? pushes, Bool.and_eq_true,
    Changeset.isOwnedBy, beq_iff_eq] at about
  obtain ⟨-, owned, -⟩ := about
  rw [row.following_eq campaign now pushes]
  simp [Changeset.isOwnedAndAttached, Changeset.isAttachedTo, Changeset.requeued, owned,
    IdSet.contains_add]

variable {id : ChangesetId} {row after : Changeset}

/-- Applications learn nothing about pull requests. -/
theorem Generation.Fate.unedited {generation : Generation} {store : Store}
    (fate : generation.Fate store id (some row) (some after)) :
    after.unedited = row.unedited := by
  cases fate with
  | kept => rfl
  | left unwanted decided => exact Placement.unedited_of_ofDropped decided
  | followed paired => exact row.unedited_following _ _ _

/-- Nor do closures. -/
theorem Closure.Fate.unedited {closure : Closure} {now : Time}
    (fate : closure.Fate now (some row) (some after)) : after.unedited = row.unedited := by
  cases fate with
  | kept => rfl
  | closed attached opened => rfl

/-- A published changeset is not deleted. -/
theorem Generation.Fate.present {generation : Generation} {store : Store} {result : Option Changeset}
    (fate : generation.Fate store id (some row) result) (published : row.publication = .published) :
    ∃ after, result = some after := by
  cases fate with
  | kept => exact ⟨row, rfl⟩
  | left unwanted decided => exact ⟨_, rfl⟩
  | deleted unwanted decided =>
    have unpublished := (Placement.ofDropped_eq_deleted decided).2.2.1
    rw [Changeset.isPublished, published] at unpublished
    cases unpublished
  | followed paired => exact ⟨_, rfl⟩

namespace System

variable {system : System} {event : Event} {events first second : List Event}
  {condition weaker : System → Event → Prop}

/-- Every event of a run meets a condition in the system that it finds. -/
def Along (condition : System → Event → Prop) : System → List Event → Prop
  | _, [] => True
  | system, event :: rest => condition system event ∧ Along condition (system.step event) rest

instance decidableAlong [∀ system event, Decidable (condition system event)] :
    (system : System) → (events : List Event) → Decidable (Along condition system events)
  | _, [] => .isTrue trivial
  | system, event :: rest =>
    have := decidableAlong (system.step event) rest
    inferInstanceAs (Decidable (condition system event ∧ Along condition (system.step event) rest))

theorem along_append :
    system.Along condition (first ++ second) ↔
      system.Along condition first ∧ (system.run first).Along condition second := by
  induction first generalizing system with
  | nil => simp [Along]
  | cons event rest ih => simp [Along, ih, and_assoc]

theorem along_of_forall (met : ∀ system event, condition system event) :
    system.Along condition events := by
  induction events generalizing system with
  | nil => trivial
  | cons event rest ih => exact ⟨met system event, ih⟩

theorem along_of_mem (met : ∀ event ∈ events, ∀ system, condition system event) :
    system.Along condition events := by
  induction events generalizing system with
  | nil => trivial
  | cons event rest ih =>
    rw [List.forall_mem_cons] at met
    exact ⟨met.1 system, ih met.2⟩

/-- A weaker condition is met, too. -/
theorem Along.mono (along : system.Along condition events) (sound : system.Sound)
    (weakens : ∀ {system : System} {event}, system.Sound → condition system event →
      weaker system event) : system.Along weaker events := by
  induction events generalizing system with
  | nil => trivial
  | cons event rest ih => exact ⟨weakens sound along.1, ih along.2 (sound.step event)⟩

/-- What each event under the condition keeps, the run keeps. -/
theorem Along.keeps {invariant : System → Prop} (along : system.Along condition events)
    (sound : system.Sound)
    (keeps : ∀ {system : System} {event}, system.Sound → condition system event →
      invariant system → invariant (system.step event))
    (holds : invariant system) : invariant (system.run events) := by
  induction events generalizing system with
  | nil => exact holds
  | cons event rest ih => exact ih along.2 (sound.step event) (keeps sound along.1 holds)

/-- An event is no call of an application and no closure that changes the changeset. -/
def Spares (id : ChangesetId) (system : System) (event : Event) : Prop :=
  event.editsCampaign = true →
    (system.step event).store.changesets.find? id = system.store.changesets.find? id

instance : Decidable (Spares id system event) := inferInstanceAs (Decidable (_ → _))

/-- An application moves a changeset on to a spec. -/
structure MovesOn (system : System) (event : Event) (id : ChangesetId) (row : Changeset)
    (spec : ChangesetSpec) (moved : Changeset) : Prop where
  found : system.store.changesets.find? id = some row
  stored : (system.step event).store.changesets.find? id = some moved
  transacts : ∃ number visible applying generation, event = .proceed number visible ∧
    system.applications number = some applying ∧ applying.Makes visible generation ∧
    (spec, some row) ∈ system.store.pairs generation.spec generation.campaign ∧
    moved = row.following generation.campaign generation.now spec

variable {moved : Changeset} {spec : ChangesetSpec} {push : BranchPush}

theorem MovesOn.known (moves : system.MovesOn event id row spec moved) (sound : system.Sound) :
    system.store.changesetSpecs.find? spec.id = some spec := by
  obtain ⟨number, visible, applying, generation, -, -, -, paired, -⟩ := moves.transacts
  exact sound.numbered.find?_of_paired paired

theorem MovesOn.standing (moves : system.MovesOn event id row spec moved) :
    moved.standing = row.standing := by
  obtain ⟨number, visible, applying, generation, -, -, -, -, rfl⟩ := moves.transacts
  exact Changeset.standing_following row _ _ _

/-- Only an application that moves a changeset on to a branch push changes its current spec. -/
theorem Sound.movesOn (sound : system.Sound)
    (found : system.store.changesets.find? id = some row)
    (stored : (system.step event).store.changesets.find? id = some moved)
    (other : moved.currentSpecId ≠ row.currentSpecId) :
    ∃ spec push, system.MovesOn event id row spec moved ∧ spec.branchPush? = some push ∧
      moved.currentSpecId = some spec.id := by
  have change := (System.transition sound.numbered event).change sound id
  rw [found] at change
  generalize later : (system.step event).store.changesets.find? id = after at change
  generalize system.store.leases.find? id = lease,
    (system.step event).store.leases.find? id = lease' at change
  rw [later] at stored
  cases change with
  | reset happens expired =>
    cases stored
    refine absurd ?_ other
    simp only [Changeset.released]
    split <;> rfl
  | @rewired number visible applying _ _ _ generation happens under makes fate =>
    subst stored
    cases fate with
    | kept => exact absurd rfl other
    | left unwanted decided => exact absurd (Placement.currentSpecId_of_ofDropped decided) other
    | @followed _ spec paired =>
      cases pushes : spec.branchPush? with
      | none => exact absurd (row.currentSpecId_following _ _ pushes) other
      | some push =>
        refine ⟨spec, push, ⟨found, later, number, visible, applying, generation, happens, under,
          makes, paired, rfl⟩, pushes, ?_⟩
        rw [row.following_eq generation.campaign generation.now pushes]
        rfl
  | closed happens fate =>
    subst stored
    cases fate <;> exact absurd rfl other
  | _ =>
    cases stored
    exact absurd rfl other

/-- A changeset that an application moves on to a branch push is held by its campaign, wanted, and
queued. -/
theorem MovesOn.wanted (moves : system.MovesOn event id row spec moved)
    (pushes : spec.branchPush? = some push) :
    moved.currentSpecId = some spec.id ∧
      moved.previousSpecId =
        (if row.queueState == .errored || row.queueState == .queued then row.previousSpecId
          else row.currentSpecId) ∧
      moved.closing = false ∧ moved.isOwnedAndAttached = true ∧ moved.queueState = .queued := by
  obtain ⟨number, visible, applying, generation, -, -, -, paired, rfl⟩ := moves.transacts
  have held := Store.held_of_paired paired pushes generation.now
  rw [row.following_eq generation.campaign generation.now pushes] at held ⊢
  exact ⟨rfl, rfl, rfl, held, rfl⟩

end System

end BatchChanges
