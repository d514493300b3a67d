import BatchChanges.Preview
import Mathlib.Tactic.SplitIfs

/-! # A preview foretells the plan

A snapshot has no identifiers, no queue record and one campaign that stands for whichever campaign
created the changeset. Planning reads less than a snapshot holds: two changesets that agree in that
have the same plan, whatever else is on their records. What remains of a record in the preview is
the identifier in the message of a plan that fails.
-/

namespace BatchChanges

namespace Plan

/-- Two changesets are the same to planning. -/
structure Alike (left right : Changeset) : Prop where
  externalState : left.externalState = right.externalState
  closing : left.closing = right.closing
  owned : left.ownerId.isSome = right.ownerId.isSome
  held : left.isOwnedAndAttached = right.isOwnedAndAttached
  unsynced : left.unsynced = right.unsynced
  publication : left.publication = right.publication
  codeHost : left.codeHost = right.codeHost

variable {left right : Changeset}

/-- Changesets that are the same to planning have one plan, or fail alike: only the error tells
which of them was planned for. -/
theorem between_of_alike (alike : Alike left right) (previous current : Option BranchPush) :
    (between previous current left).mapError
        (fun cause => { cause with changesetId := right.id }) =
      between previous current right := by
  have merged : left.isMerged = right.isMerged := by
    rw [Changeset.isMerged, Changeset.isMerged, alike.externalState]
  unfold between
  rw [merged, alike.closing, alike.externalState, alike.held, alike.owned, alike.unsynced,
    alike.publication, alike.codeHost]
  -- the rules now ask the same of both, so that one rule decides for both
  cases current with
  | none => split_ifs <;> rfl
  | some push => cases right.publication <;> split_ifs <;> rfl

end Plan

namespace Snapshot

variable {snapshot : Snapshot} {row other : Changeset}

/-- The snapshot was taken of the changeset. Whether a changeset that no campaign created is
attached says nothing. -/
structure Shows (snapshot : Snapshot) (row : Changeset) : Prop where
  publication : snapshot.publication = row.publication
  externalState : snapshot.externalState = row.externalState
  codeHost : snapshot.codeHost = row.codeHost
  closing : snapshot.closing = row.closing
  unsynced : snapshot.unsynced = row.unsynced
  owned : snapshot.owned = row.ownerId.isSome
  attached : ∀ {owner : CampaignId}, row.ownerId = some owner →
    snapshot.attached = row.isAttachedTo owner

/-- The snapshot of a changeset; `unowned` stands for what nothing is said about. -/
def ofChangeset (row : Changeset) (unowned : Bool) : Snapshot where
  publication := row.publication
  externalState := row.externalState
  codeHost := row.codeHost
  closing := row.closing
  unsynced := row.unsynced
  owned := row.ownerId.isSome
  attached := (row.ownerId.map row.isAttachedTo).getD unowned

private theorem shows_ofChangeset (row : Changeset) (unowned : Bool) :
    (ofChangeset row unowned).Shows row where
  publication := rfl
  externalState := rfl
  codeHost := rfl
  closing := rfl
  unsynced := rfl
  owned := rfl
  attached := by
    intro owner created
    rw [ofChangeset, created, Option.map_some, Option.getD_some]

private theorem isSome_ownerId_toChangeset (snapshot : Snapshot) :
    snapshot.toChangeset.ownerId.isSome = snapshot.owned := by
  cases owned : snapshot.owned <;> simp [toChangeset, owned]

/-- The campaign of a snapshot stands for the one that created the changeset. -/
theorem isOwnedAndAttached_toChangeset (snapshot : Snapshot) :
    snapshot.toChangeset.isOwnedAndAttached = (snapshot.owned && snapshot.attached) := by
  obtain ⟨_, _, _, _, _, owned, attached⟩ := snapshot
  cases owned <;> cases attached <;> rfl

private theorem shows_toChangeset (snapshot : Snapshot) : snapshot.Shows snapshot.toChangeset where
  publication := rfl
  externalState := rfl
  codeHost := rfl
  closing := rfl
  unsynced := rfl
  owned := (isSome_ownerId_toChangeset snapshot).symm
  attached := by
    intro owner created
    have held := isOwnedAndAttached_toChangeset snapshot
    have owned := isSome_ownerId_toChangeset snapshot
    rw [created, Option.isSome_some] at owned
    rw [Changeset.isOwnedAndAttached, created, ← owned, Bool.true_and] at held
    exact held.symm

private theorem Shows.isOwnedAndAttached (shows : snapshot.Shows row) :
    row.isOwnedAndAttached = (snapshot.owned && snapshot.attached) := by
  rw [shows.owned, Changeset.isOwnedAndAttached]
  cases created : row.ownerId with
  | none => rfl
  | some owner => rw [Option.isSome_some, Bool.true_and, shows.attached created]

private theorem Shows.alike (shows : snapshot.Shows row) (also : snapshot.Shows other) :
    Plan.Alike row other where
  externalState := shows.externalState.symm.trans also.externalState
  closing := shows.closing.symm.trans also.closing
  owned := shows.owned.symm.trans also.owned
  held := shows.isOwnedAndAttached.trans also.isOwnedAndAttached.symm
  unsynced := shows.unsynced.symm.trans also.unsynced
  publication := shows.publication.symm.trans also.publication
  codeHost := shows.codeHost.symm.trans also.codeHost

end Snapshot

namespace Preview

variable {snapshot : Snapshot} {row : Changeset} {previous current : Option BranchPush}
  {previousSpec currentSpec : Option ChangesetSpec}

/-- A preview of a changeset shows the operations and the difference that the reconciler plans for
the changeset between two specs with these branch pushes, and it fails where the reconciler fails,
with the same message about an identifier of its own. -/
theorem plan_eq_determine (shows : snapshot.Shows row)
    (previously : previousSpec.bind ChangesetSpec.branchPush? = previous)
    (currently : currentSpec.bind ChangesetSpec.branchPush? = current) :
    (plan { snapshot, previous, current }).mapError
        (fun cause => { cause with changesetId := row.id }) =
      Plan.determine previousSpec currentSpec row := by
  rw [Plan.determine, previously, currently]
  exact Plan.between_of_alike (snapshot.shows_toChangeset.alike shows) previous current

namespace Sample

def push (title : String) (intent : PublishIntent) : BranchPush where
  baseRef := "refs/heads/main"
  baseRev := "0"
  headRef := "refs/heads/fix"
  title := title
  body := ""
  commit := { message := "fix", diff := "", authorName := none, authorEmail := none }
  published := intent

def spec (id : Int) (title : String) (intent : PublishIntent) : ChangesetSpec where
  id := ⟨id⟩
  randId := title
  campaignSpecId := ⟨1⟩
  repoId := ⟨2⟩
  userId := ⟨1⟩
  target := .branchPush (push title intent)
  diffStat := none
  createdAt := .epoch

/-- A draft of the seventh campaign, which the third campaign tracks. -/
def draft : Changeset where
  id := ⟨4⟩
  repoId := ⟨2⟩
  codeHost := .gitlab
  externalId := some "12"
  externalState := some .draft
  publication := .published
  ownerId := some ⟨7⟩
  campaignIds := IdSet.ofList [⟨3⟩, ⟨7⟩]
  queueState := .errored
  failures := 2
  createdAt := .epoch
  updatedAt := .epoch

end Sample

open Preview.Sample in
/-- A draft that gets another title and is ready now; without its specs both plans fail. -/
theorem plan_eq_determine_draft :
    (plan {
        snapshot := .ofChangeset draft true
        previous := some (push "a" .draft)
        current := some (push "b" .published) }).mapError
        (fun cause => { cause with changesetId := draft.id }) =
      Plan.determine (some (spec 1 "a" .draft)) (some (spec 2 "b" .published)) draft ∧
    Plan.determine (some (spec 1 "a" .draft)) (some (spec 2 "b" .published)) draft =
      .ok {
        operations := [.undraft, .update]
        delta := { title := true, undraft := true } } ∧
    (plan { snapshot := .ofChangeset draft true }).mapError
        (fun cause => { cause with changesetId := draft.id }) =
      Plan.determine none none draft ∧
    Plan.determine none none draft = .error ⟨⟨4⟩⟩ :=
  ⟨plan_eq_determine (Snapshot.shows_ofChangeset draft true) rfl rfl, rfl,
    plan_eq_determine (Snapshot.shows_ofChangeset draft true) rfl rfl, rfl⟩

end Preview

end BatchChanges
