import BatchChanges.Changeset
import BatchChanges.Operation
import BatchChanges.Spec.Delta

/-! # Planning

A plan says which operations bring a changeset in line with its spec. It depends on the changeset
and on two branch pushes: the one the pull request was last made from, and the one that applies
now. The first rule that fits decides.

* A merged pull request is left alone.
* One that is to be closed is closed.
* One that is closed although its campaign still holds it is reopened.
* Without a branch push it is loaded if it never was. A changeset that a campaign created must have
  a branch push, so that its absence is an error.
* One that is not open yet is pushed and opened, as a draft only where drafts exist.
* An open one is changed as far as the two branch pushes differ.
-/

namespace BatchChanges

/-- The operations to run, and the difference they come from. -/
structure Plan where
  operations : List Operation := []
  delta : SpecDelta := .none
deriving DecidableEq

/-- A changeset has an owner but no branch push to follow. -/
structure MissingCurrentSpec where
  changesetId : ChangesetId
deriving DecidableEq

namespace MissingCurrentSpec

def message (cause : MissingCurrentSpec) : String :=
  "changeset " ++ cause.changesetId.text ++ " has no current spec"

end MissingCurrentSpec

namespace Plan

def opening (intent : PublishIntent) (host : CodeHost) : List Operation :=
  match intent with
  | .published => [.push, .publish]
  | .draft => if host.supportsDrafts then [.push, .publishDraft] else []
  | .unpublished => []

/-- How an open pull request is changed. -/
def changing (delta : SpecDelta) : List Operation :=
  (if delta.undraft then [.undraft] else []) ++
    (if delta.needsUpdate then [.update] else []) ++
    (if delta.needsPush then [.push, .sleep, .sync] else [])

/-- The plan for a changeset between two branch pushes. -/
def between (previous current : Option BranchPush) (changeset : Changeset) :
    Except MissingCurrentSpec Plan :=
  if changeset.isMerged then .ok {}
  else if changeset.closing then .ok { operations := [.close] }
  else if changeset.externalState == some .closed && changeset.isOwnedAndAttached then
    .ok { operations := [.reopen] }
  else
    match current with
    | none =>
      if changeset.ownerId.isSome then .error ⟨changeset.id⟩
      else if changeset.unsynced then .ok { operations := [.sync] }
      else .ok {}
    | some current =>
      match changeset.publication with
      | .unpublished => .ok { operations := opening current.published changeset.codeHost }
      | .published =>
        let delta := (previous.map (SpecDelta.compare · current)).getD .none
        .ok { operations := changing delta, delta }

/-- The plan for a changeset between two specs; a spec that tracks a pull request has no branch
push. -/
def determine (previous current : Option ChangesetSpec) (changeset : Changeset) :
    Except MissingCurrentSpec Plan :=
  between (previous.bind ChangesetSpec.branchPush?) (current.bind ChangesetSpec.branchPush?)
    changeset

theorem length_opening (intent : PublishIntent) (host : CodeHost) :
    (opening intent host).length ≤ 2 := by
  cases intent <;> cases host <;> decide

theorem length_changing (delta : SpecDelta) : (changing delta).length ≤ 5 := by
  simp only [changing, List.length_append]
  split <;> split <;> split <;> simp

/-- No plan is longer than five operations. -/
theorem length_between {previous current : Option BranchPush} {changeset : Changeset}
    {plan : Plan} (planned : between previous current changeset = .ok plan) :
    plan.operations.length ≤ 5 := by
  unfold between at planned
  split at planned
  · cases planned
    decide
  · split at planned
    · cases planned
      decide
    · split at planned
      · cases planned
        decide
      · split at planned
        · split at planned
          · cases planned
          · split at planned <;> cases planned <;> decide
        · split at planned
          · cases planned
            exact Nat.le_trans (length_opening _ _) (by decide)
          · cases planned
            exact length_changing _

theorem length_determine {previous current : Option ChangesetSpec} {changeset : Changeset}
    {plan : Plan} (planned : determine previous current changeset = .ok plan) :
    plan.operations.length ≤ 5 :=
  length_between planned

def toJson (plan : Plan) : Json :=
  .object [("ops", .array (plan.operations.map Operation.toJson)), ("delta", plan.delta.toJson)]

end Plan

end BatchChanges
