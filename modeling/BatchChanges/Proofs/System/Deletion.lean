import BatchChanges.Proofs.System.OneWay
import BatchChanges.Proofs.System.Records

/-! # Which changesets are deleted

The only way for a changeset to disappear is that an application to the campaign that created it
succeeds and wants nothing of it any more. Even then it stays if it was ever published, if another
campaign holds it, or if the actor cannot see its repository. As long as it is not published its
pull request has no number either: attempts learn a number with the answer that publishes the
changeset, and all else that they ask of a code host is about a number that they have.
-/

namespace BatchChanges

namespace Changeset

variable {row after : Changeset}

/-- The pull request of a changeset that is not published has no number. -/
def Unopened (row : Changeset) : Prop := row.publication = .unpublished → row.externalId = none

private theorem Unopened.congr (unopened : row.Unopened) (same : after.sight = row.sight) :
    after.Unopened := by
  intro unpublished
  rw [show after.externalId = row.externalId from congrArg (·.2.1) same]
  exact unopened ((congrArg (·.1.1) same).symm.trans unpublished)

/-- A new changeset has the number of a pull request only if it tracks it. -/
theorem unopened_ofSpec (campaign : CampaignId) (now : Time) (repo : Repo) (spec : ChangesetSpec)
    (id : ChangesetId) : Unopened { ofSpec campaign now repo spec with id } := by
  intro unpublished
  cases target : spec.target with
  | trackExisting externalId => simp [ofSpec, target] at unpublished
  | branchPush push => simp [ofSpec, target]

end Changeset

/-- An operation that asks about a pull request has its number, or publishes the changeset. -/
theorem Operation.Performs.unopened {push : Option BranchPush} {row : Changeset}
    {operation : Operation} {asked : HostRequest}
    (performs : Performs push row operation (.request asked)) (unopened : row.Unopened)
    (view : PullRequest) : (operation.answered view row).Unopened := by
  have published : ∀ {externalId}, row.externalId = some externalId →
      row.publication ≠ .unpublished := by
    intro externalId opened unpublished
    rw [unopened unpublished] at opened
    cases opened
  intro unpublished
  cases performs with
  | publish given => cases unpublished
  | publishDraft given => cases unpublished
  | update given opened => exact absurd unpublished (published opened)
  | undraft opened => exact absurd unpublished (published opened)
  | sync opened => exact absurd unpublished (published opened)
  | close opened => exact absurd unpublished (published opened)
  | reopen opened => exact absurd unpublished (published opened)

private theorem Operation.Runs.unopened {push : Option BranchPush} {claimed row : Changeset}
    {run : List Operation} {told : List Effect} (runs : Runs push claimed run row told)
    (unopened : claimed.Unopened) : row.Unopened := by
  refine runs.keeps Changeset.Unopened unopened (fun before => before.congr rfl)
    (fun _ before => before.congr rfl) ?_
  exact fun view acts before => (performs_of_effect acts).unopened before view

private theorem Flight.Course.unopened {specs : Table .changesetSpec ChangesetSpec}
    {flight : Flight} (course : flight.Course specs) (unopened : flight.claimed.Unopened) :
    flight.attempt.row.Unopened := by
  cases course with
  | planned follows between acts => exact follows.runs.unopened unopened
  | _ => exact unopened

namespace System

variable {system next : System} {event : Event} {id : ChangesetId} {row after : Changeset}

/-- No changeset that is not published has a number, be it in the store or with an attempt. -/
structure Unopened (system : System) : Prop where
  row {id : ChangesetId} {row : Changeset} (found : system.store.changesets.find? id = some row) :
    row.Unopened
  claimed {number : Nat} {flight : Flight} (under : system.flights number = some flight) :
    flight.claimed.Unopened

private theorem unopened_start (faults : List Fault) (now : Time) :
    (start faults now).Unopened where
  row found := by cases found
  claimed under := by cases under

private theorem Unopened.row_transition (unopened : system.Unopened) (sound : system.Sound)
    (happens : Transition system event next)
    (found : next.store.changesets.find? id = some after) : after.Unopened := by
  have change := happens.change sound id
  rw [found] at change
  cases stored : system.store.changesets.find? id with
  | some row =>
    rw [stored] at change
    rcases change.sight with same | ⟨-, number, flight, record, under, -, -, -, same⟩
    · exact (unopened.row stored).congr same
    · exact ((sound.flight under).course.unopened (unopened.claimed under)).congr same
  | none =>
    rw [stored] at change
    obtain ⟨_, _, _, _, spec, repo, -, -, -, -, -, -, -, rfl⟩ := change.created
    exact Changeset.unopened_ofSpec _ _ repo spec id

private theorem Unopened.transition (unopened : system.Unopened) (sound : system.Sound)
    (happens : Transition system event next) : next.Unopened where
  row found := unopened.row_transition sound happens found
  claimed {number flight} under := by
    rcases (happens.flies under).claimed_eq with ⟨before, flying, same⟩ |
      ⟨claimed, expiresAt, worker, -, begins, stored, -⟩
    · exact same ▸ unopened.claimed flying
    · exact unopened.row_transition sound happens stored

private theorem Unopened.run (unopened : system.Unopened) (sound : system.Sound)
    (events : List Event) : (system.run events).Unopened :=
  sound.keeps Unopened unopened events fun sound event unopened =>
    unopened.transition sound (System.transition sound.numbered event)

/-- An application succeeds that rejects a changeset, which its campaign has created. -/
def Deletes (system : System) (event : Event) (row : Changeset) : Prop :=
  ∃ (number : Nat) (visible : Visibility) (revision : Revision) (applied : Campaign)
      (next : Backend), event = .proceed number visible ∧
    system.applications number = some
      (.rewiring revision.application revision.spec revision.campaign revision.now) ∧
    Access.Ends (revision.application.transact visible revision.spec revision.campaign revision.now)
      system.world.backend (.ok applied) next ∧
    Generation.Rejects
      ⟨visible, revision.application.actor, revision.spec.id, applied.id, revision.now⟩
      system.store row

private theorem deletes_of_gone (sound : system.Sound)
    (found : system.store.changesets.find? id = some row)
    (gone : (system.step event).store.changesets.find? id = none) : system.Deletes event row := by
  obtain ⟨number, visible, rfl, applying, generation, _, under, makes, -⟩ :=
    discards_of_gone sound found gone
  cases applying with
  | rewiring application spec campaign now =>
    rcases commits_or_same under visible with ⟨applied, commits⟩ | same
    · obtain ⟨_, _, next, ⟨⟩, done, reached⟩ := commits.transacts
      have fate := (Application.transact_ok sound.numbered done).2.2.row id
      rw [show system.world.backend.store.changesets.find? id = some row from found, ← reached,
        gone] at fate
      exact ⟨number, visible, ⟨application, spec, campaign, now⟩, applied, next, rfl, under, done,
        fate.rejects⟩
    · rw [same, found] at gone
      cases gone
  | _ => cases makes

/-- A changeset that was published or that nobody created stays. -/
theorem lasts_run (sound : system.Sound) (guards : Guards Changeset.sight system)
    (found : system.store.changesets.find? id = some row)
    (lasting : row.publication = .published ∨ row.ownerId = none) (events : List Event) :
    ∃ after, (system.run events).store.changesets.find? id = some after := by
  induction events generalizing system row with
  | nil => exact ⟨row, found⟩
  | cons event rest ih =>
    have happens := System.transition sound.numbered event
    have change := happens.change sound id
    cases stored : (system.step event).store.changesets.find? id with
    | none =>
      obtain ⟨_, _, _, _, _, -, -, -, rejects⟩ := deletes_of_gone sound found stored
      rcases lasting with published | nobody
      · rw [rejects.unpublished] at published
        cases published
      · have owned := rejects.owned
        rw [Changeset.isOwnedBy, nobody] at owned
        cases owned
    | some after =>
      rw [found, stored] at change
      refine ih (sound.step event) (guards.transition (congrArg Prod.snd) sound happens) stored ?_
      exact lasting.imp (change.advances sound guards found).published change.ownerId.trans

/-- In every run that starts with the empty store, whatever happens in which order and whichever
calls of the store fail, a changeset disappears only when an application to the campaign that
created it succeeds; and only if at that moment it was never published and its pull request has no
number, no other campaign holds it, its repository is visible to the actor, and no spec is paired
with it. So a changeset that was published, or that no campaign created, is there for good. -/
theorem changesets_not_lost (faults : List Fault) (now : Time) (events : List Event)
    (id : ChangesetId) (row : Changeset)
    (found : ((start faults now).run events).store.changesets.find? id = some row) :
    (∀ event,
      (((start faults now).run events).step event).store.changesets.find? id = none →
      row.externalId = none ∧ ((start faults now).run events).Deletes event row) ∧
    (row.publication = .published ∨ row.ownerId = none → ∀ later, ∃ after,
      ((start faults now).run (events ++ later)).store.changesets.find? id = some after) := by
  have sound := (sound_start faults now).run events
  have guards := (guards_start faults now).run (sound_start faults now) events
  have unopened := (unopened_start faults now).run (sound_start faults now) events
  constructor
  · intro event gone
    have deletes := deletes_of_gone sound found gone
    refine ⟨?_, deletes⟩
    obtain ⟨_, _, _, _, _, -, -, -, rejects⟩ := deletes
    exact unopened.row found rejects.unpublished
  · intro lasting later
    rw [run_append]
    exact lasts_run sound guards found lasting later

end System

open Sample in
/-- A changeset that no spec wants any more is deleted while its pull request is being opened; one
that has been published stays, whatever comes. -/
theorem System.changesets_not_lost_dropping :
    (∃ row, ((start [] (instant 0)).run dropping).store.changesets.find? changeset = some row ∧
      row.externalId = none ∧
      ((start [] (instant 0)).run dropping).Deletes (.proceed 0 visible) row) ∧
    ∃ row, ((start [] (instant 0)).run (completing ++ [.conclude 0 {}])).store.changesets.find?
        changeset = some row ∧
      row.publication = .published ∧
      ∀ later, ∃ after, ((start [] (instant 0)).run
        ((completing ++ [.conclude 0 {}]) ++ later)).store.changesets.find? changeset =
          some after := by
  constructor
  · obtain ⟨row, found⟩ : ∃ row,
        ((start [] (instant 0)).run dropping).store.changesets.find? changeset = some row :=
      Option.isSome_iff_exists.mp (by decide +kernel)
    have gone : (((start [] (instant 0)).run dropping).step
        (.proceed 0 visible)).store.changesets.find? changeset = none :=
      Option.isNone_iff_eq_none.mp (by decide +kernel)
    obtain ⟨unnamed, deletes⟩ :=
      (changesets_not_lost [] (instant 0) dropping changeset row found).1 _ gone
    exact ⟨row, found, unnamed, deletes⟩
  · obtain ⟨row, found, published⟩ := Option.map_eq_some_iff.mp (show
      (((start [] (instant 0)).run (completing ++ [.conclude 0 {}])).store.changesets.find?
        changeset).map (·.publication) = some .published by decide +kernel)
    exact ⟨row, found, published,
      (changesets_not_lost [] (instant 0) _ changeset row found).2 (.inl published)⟩

end BatchChanges
