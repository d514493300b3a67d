import BatchChanges.Proofs.System.Edits

/-! # What changesets know of their pull requests

A changeset learns about its pull request from write-backs only, so that under a lease it knows what
its attempt was claimed with. A changeset that a campaign created is published by an attempt that
has opened its pull request; since then the state of the pull request is known. Only a changeset
that is published is ever wished closed.
-/

namespace BatchChanges

namespace Changeset

/-- What is known of the pull request makes sense: its state is known if it was opened for a
campaign, and it is there if it is to be closed. -/
structure Sighted (row : Changeset) : Prop where
  state (published : row.publication = .published) (owned : row.ownerId ≠ none) :
    row.externalState ≠ none
  published (closing : row.closing = true) : row.publication = .published

private theorem sighted_ofSpec (campaign : CampaignId) (now : Time) (repo : Repo)
    (spec : ChangesetSpec) (id : ChangesetId) :
    Sighted { ofSpec campaign now repo spec with id } := by
  cases target : spec.target with
  | trackExisting externalId =>
    refine ⟨fun published owned => ?_, fun closing => ?_⟩
    · simp [ofSpec, target] at owned
    · simp [ofSpec, target] at closing
  | branchPush push =>
    refine ⟨fun published owned => ?_, fun closing => ?_⟩
    · simp [ofSpec, target] at published
    · simp [ofSpec, target] at closing

end Changeset

private theorem Operation.Runs.standing {push : Option BranchPush} {claimed row : Changeset}
    {run : List Operation} {told : List Effect} (runs : Runs push claimed run row told) :
    row.standing = claimed.standing ∨ row.externalState ≠ none := by
  refine runs.keeps (fun row => row.standing = claimed.standing ∨ row.externalState ≠ none)
    (.inl rfl) (fun known => known) (fun _ known => known)
    fun {operation before} _ view _ _ => ?_
  have state : (operation.answered view before).externalState = some view.state := by
    cases operation <;> rfl
  exact .inr (by simp [state])

private theorem Flight.Course.standing {specs : Table .changesetSpec ChangesetSpec}
    {flight : Flight} (course : flight.Course specs) :
    flight.attempt.row.standing = flight.claimed.standing ∨
      flight.attempt.row.externalState ≠ none := by
  cases course with
  | planned follows between acts => exact follows.runs.standing
  | _ => exact .inl rfl

namespace System

variable {system next : System} {event : Event} {events : List Event} {id : ChangesetId}
  {row after : Changeset} {lease lease' : Option LeaseRecord} {later : Option Changeset}

/-- A published changeset is not deleted. -/
theorem Change.present (change : Change system event next id (some row) lease later lease')
    (published : row.publication = .published) : ∃ after, later = some after := by
  cases change with
  | rewired generation happens under makes fate => exact fate.present published
  | closed happens fate => cases fate <;> exact ⟨_, rfl⟩
  | _ => exact ⟨_, rfl⟩

/-- A changeset learns about its pull request from write-backs only, which end a lease. -/
theorem Change.sight (change : Change system event next id (some row) lease (some after) lease') :
    after.sight = row.sight ∨
      lease' = none ∧ ∃ number flight record, system.flights number = some flight ∧
        flight.claimed.id = id ∧ lease = some record ∧ record.lease.token = leaseToken number ∧
        after.sight = flight.attempt.row.sight := by
  generalize present : some after = later at change
  cases change with
  | concluded happens under stopped gone settled here token =>
    cases present
    refine .inr ⟨rfl, _, _, _, under, here, rfl, token, ?_⟩
    exact congrArg Prod.snd (Changeset.unedited_of_settled settled)
  | reset happens expired =>
    cases present
    exact .inl (congrArg Prod.snd row.unedited_released)
  | rewired generation happens under makes fate =>
    subst present
    exact .inl (congrArg Prod.snd fate.unedited)
  | closed happens fate =>
    subst present
    exact .inl (congrArg Prod.snd fate.unedited)
  | _ =>
    cases present
    exact .inl rfl

theorem Change.standing (change : Change system event next id (some row) lease (some after) lease') :
    after.standing = row.standing ∨
      lease' = none ∧ ∃ number flight record, system.flights number = some flight ∧
        flight.claimed.id = id ∧ lease = some record ∧ record.lease.token = leaseToken number ∧
        after.standing = flight.attempt.row.standing := by
  rcases change.sight with same | ⟨gone, number, flight, record, under, here, leased, token, same⟩
  · exact .inl (congrArg Prod.fst same)
  · exact .inr ⟨gone, number, flight, record, under, here, leased, token, congrArg Prod.fst same⟩

/-- Applications and closures learn nothing about pull requests. -/
theorem Change.standing_of_edits
    (change : Change system event next id (some row) lease (some after) lease')
    (edits : event.editsCampaign = true) : after.standing = row.standing := by
  rcases change.standing with same | ⟨gone, _, _, record, -, -, leased, -, -⟩
  · exact same
  · obtain ⟨held, stays⟩ := change.lease_of_edits edits leased
    rw [gone] at stays
    cases stays

/-- A changeset stays the one that it is. -/
theorem Change.identity
    (change : Change system event next id (some row) lease (some after) lease') :
    after.identity = row.identity := by
  generalize present : some after = later at change
  cases change with
  | reset happens expired =>
    cases present
    exact congrArg Prod.fst row.unedited_released
  | rewired generation happens under makes fate =>
    subst present
    exact congrArg Prod.fst fate.unedited
  | closed happens fate =>
    subst present
    exact congrArg Prod.fst fate.unedited
  | _ =>
    cases present
    rfl

/-- A changeset keeps its owner. -/
theorem Change.ownerId (change : Change system event next id (some row) lease (some after) lease') :
    after.ownerId = row.ownerId :=
  congrArg (·.2.2.2.1) change.identity

private theorem Change.unedited_of_leased {record : LeaseRecord}
    (change : Change system event next id (some row) lease (some after) (some record)) :
    after.unedited = row.unedited := by
  obtain same | ⟨gone, -⟩ := change.sight
  · exact Prod.ext change.identity same
  · cases gone

/-- Only a pull request that is open comes to be wished closed, while the campaign that opened it
holds its changeset. -/
theorem Change.closing (change : Change system event next id (some row) lease (some after) lease')
    (closing : after.closing = true) :
    row.closing = true ∨
      row.publication = .published ∧ row.isOpen = true ∧ row.isOwnedAndAttached = true := by
  generalize present : some after = later at change
  cases change with
  | concluded happens under stopped gone settled here token =>
    cases present
    simp only [Changeset.withOutcome] at closing
    split at closing
    · cases closing
    · exact .inl closing
  | reset happens expired =>
    cases present
    simp only [Changeset.released] at closing
    split at closing <;> exact .inl closing
  | rewired generation happens under makes fate =>
    subst present
    cases fate with
    | kept => exact .inl closing
    | left unwanted decided =>
      obtain ⟨⟨owned, published, opened⟩, -⟩ | ⟨-, rfl⟩ := Placement.ofDropped_eq_staged decided
      · simp only [Changeset.isOwnedBy, Changeset.isPublished, beq_iff_eq] at owned published
        refine .inr ⟨published, opened, ?_⟩
        simp only [Changeset.isOwnedAndAttached, owned, unwanted.attached]
      · exact .inl closing
    | @followed _ spec paired =>
      cases tracks : spec.branchPush? with
      | some push =>
        rw [row.following_eq generation.campaign generation.now tracks] at closing
        cases closing
      | none =>
        rw [row.closing_following generation.campaign generation.now tracks] at closing
        exact .inl closing
  | closed happens fate =>
    subst present
    cases fate with
    | kept => exact .inl closing
    | closed attached opened =>
      simp only [Changeset.isClosedWith, Changeset.isOwnedBy, Changeset.isPublished,
        Bool.and_eq_true, beq_iff_eq] at opened
      refine .inr ⟨opened.1.2, opened.2, ?_⟩
      simp only [Changeset.isOwnedAndAttached, opened.1.1, attached]
  | _ =>
    cases present
    exact .inl closing

/-- A new changeset comes from the transaction of an application, for a spec that has none. -/
theorem Change.created (change : Change system event next id none lease (some after) lease') :
    ∃ number visible applying generation spec repo, event = .proceed number visible ∧
      system.applications number = some applying ∧ applying.Makes visible generation ∧
      applying.Numbers system.store.lastId generation ∧
      (spec, none) ∈ system.store.pairs generation.spec generation.campaign ∧
      system.store.repos.find? spec.repoId = some repo ∧ system.store.lastId < id.value ∧
      after = { Changeset.ofSpec generation.campaign generation.now repo spec with id } := by
  generalize present : some after = later at change
  cases change with
  | rewired generation happens under makes fate fresh =>
    subst present
    cases fate with
    | created paired located new =>
      exact ⟨_, _, _, generation, _, _, happens, under, makes, fresh, paired, located, new, rfl⟩
  | closed happens fate =>
    subst present
    cases fate
  | _ => cases present

/-- What is known of pull requests at all times: under a lease, a changeset knows what its attempt
was claimed with. -/
structure Informed (system : System) : Prop where
  row {id : ChangesetId} {row : Changeset} (found : system.store.changesets.find? id = some row) :
    row.Sighted
  guarded {number : Nat} {flight : Flight} {record : LeaseRecord} {row : Changeset}
    (under : system.flights number = some flight)
    (leased : system.store.leases.find? flight.claimed.id = some record)
    (token : record.lease.token = leaseToken number)
    (found : system.store.changesets.find? flight.claimed.id = some row) :
    row.standing = flight.claimed.standing ∧ row.ownerId = flight.claimed.ownerId
  marked {id : ChangesetId} {record : LeaseRecord} {row : Changeset}
    (leased : system.store.leases.find? id = some record) (wished : record.closingAtClaim = true)
    (found : system.store.changesets.find? id = some row) : row.publication = .published

theorem informed_start (faults : List Fault) (now : Time) : (start faults now).Informed where
  row found := by cases found
  guarded under := by cases under
  marked leased := by cases leased

/-- A write-back leaves a changeset published, and its state known, as it was claimed. -/
theorem Informed.row_step (informed : system.Informed) (sound : system.Sound)
    (change : Change system event next id (some row) (system.store.leases.find? id) (some after)
      lease')
    (found : system.store.changesets.find? id = some row) : after.Sighted := by
  have sighted := informed.row found
  have published : row.publication = .published → after.publication = .published := by
    intro before
    rcases change.standing with same | ⟨-, number, flight, record, under, rfl, leased, token, same⟩
    · exact (congrArg Prod.fst same).trans before
    · have claimed := (informed.guarded under leased token found).1
      exact (congrArg Prod.fst same).trans ((sound.flight under).course.published
        ((congrArg Prod.fst claimed).symm.trans before))
  constructor
  · intro isPublished owned
    rw [change.ownerId] at owned
    have kept : after.standing = row.standing → after.externalState ≠ none := by
      intro same
      rw [show after.externalState = row.externalState from congrArg Prod.snd same]
      exact sighted.state ((congrArg Prod.fst same).symm.trans isPublished) owned
    rcases change.standing with same | ⟨-, number, flight, record, under, rfl, leased, token, same⟩
    · exact kept same
    · have claimed := (informed.guarded under leased token found).1
      rcases (sound.flight under).course.standing with unchanged | known
      · exact kept (same.trans (unchanged.trans claimed.symm))
      · rw [show after.externalState = flight.attempt.row.externalState from congrArg Prod.snd same]
        exact known
  · intro closing
    rcases change.closing closing with before | ⟨before, -⟩
    · exact published (sighted.published before)
    · exact published before

private theorem Informed.row_transition (informed : system.Informed) (sound : system.Sound)
    (happens : Transition system event next)
    (found : next.store.changesets.find? id = some after) : after.Sighted := by
  have change := happens.change sound id
  rw [found] at change
  cases stored : system.store.changesets.find? id with
  | some row =>
    rw [stored] at change
    exact informed.row_step sound change stored
  | none =>
    rw [stored] at change
    obtain ⟨_, _, _, _, spec, repo, -, -, -, -, -, -, -, rfl⟩ := change.created
    exact Changeset.sighted_ofSpec _ _ repo spec id

/-- Under a lease that stays, nothing more becomes known. -/
theorem leased_stays (sound : system.Sound) (happens : Transition system event next)
    {held record : LeaseRecord} (leasedBefore : system.store.leases.find? id = some held)
    (leased : next.store.leases.find? id = some record)
    (found : next.store.changesets.find? id = some after) :
    ∃ row, system.store.changesets.find? id = some row ∧ after.unedited = row.unedited := by
  have change := happens.change sound id
  rw [leased, leasedBefore, found] at change
  obtain ⟨row, stored, -⟩ := change.leased sound.numbered leasedBefore rfl rfl
  rw [stored] at change
  exact ⟨row, stored, change.unedited_of_leased⟩

/-- Under the lease of an attempt, a changeset shows what it showed at the claim. -/
structure Guards {β : Type} (shows : Changeset → β) (system : System) : Prop where
  claimed {number : Nat} {flight : Flight} {record : LeaseRecord} {row : Changeset}
    (under : system.flights number = some flight)
    (leased : system.store.leases.find? flight.claimed.id = some record)
    (token : record.lease.token = leaseToken number)
    (found : system.store.changesets.find? flight.claimed.id = some row) :
    shows row = shows flight.claimed

/-- A transition does not change that, for what campaigns do not edit. -/
theorem Guards.transition {β : Type} {shows : Changeset → β} (guards : Guards shows system)
    (unedited : ∀ {row after : Changeset}, after.unedited = row.unedited → shows after = shows row)
    (sound : system.Sound) (happens : Transition system event next) : Guards shows next := by
  refine ⟨?_⟩
  intro number flight record row under leased token found
  rcases (happens.flies under).claimed_eq with ⟨before, flying, same⟩ |
    ⟨claimed, expiresAt, worker, -, begins, stored, -⟩
  · have change := happens.change sound flight.claimed.id
    rw [leased] at change
    obtain ⟨held, leasedBefore, tokenBefore, -⟩ := change.held (sound.flight flying).number_lt token
    obtain ⟨earlier, foundBefore, kept⟩ := leased_stays sound happens leasedBefore leased found
    rw [← same] at leasedBefore foundBefore ⊢
    exact (unedited kept).trans (guards.claimed flying leasedBefore tokenBefore foundBefore)
  · have here : flight.claimed.id = claimed.id := by rw [begins]
    rw [here, stored] at found
    cases found
    rfl

/-- Every transition keeps what is known of pull requests. -/
theorem Informed.transition (informed : system.Informed) (sound : system.Sound)
    (happens : Transition system event next) : next.Informed where
  row found := informed.row_transition sound happens found
  guarded {number flight record row} under leased token found := by
    have guards : Guards (fun row => (row.standing, row.ownerId)) system :=
      ⟨fun under leased token found => Prod.ext (informed.guarded under leased token found).1
        (informed.guarded under leased token found).2⟩
    have guarded := guards.transition (fun same => Prod.ext (congrArg (·.2.1) same)
      (congrArg (·.1.2.2.2.1) same)) sound happens
    exact Prod.mk.inj (guarded.claimed under leased token found)
  marked {id record row} leased wished found := by
    have change := happens.change sound id
    rw [leased] at change
    obtain ⟨held, leasedBefore, mark⟩ | ⟨-, -, claimed, same, -, noted⟩ := change.record
    · have wishedBefore : held.closingAtClaim = true := (congrArg Prod.snd mark).symm.trans wished
      obtain ⟨earlier, foundBefore, same⟩ :=
        leased_stays sound happens leasedBefore leased found
      exact (congrArg (·.2.1.1) same).trans
        (informed.marked leasedBefore wishedBefore foundBefore)
    · rw [found] at same
      cases same
      exact (informed.row_transition sound happens found).published (noted.symm.trans wished)

theorem Informed.run (informed : system.Informed) (sound : system.Sound) (events : List Event) :
    (system.run events).Informed :=
  sound.keeps Informed informed events fun sound event informed =>
    informed.transition sound (System.transition sound.numbered event)

end System

end BatchChanges
