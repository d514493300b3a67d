import BatchChanges.Reconcile.Error

/-! # What operations do

An operation first looks at the changeset and its branch push: something it needs may be missing.
It then has at most one effect outside, and when that has succeeded its outcome is written into the
changeset. So a failed operation leaves no trace in the changeset.
-/

namespace BatchChanges

/-- What an operation does outside of the changeset. -/
inductive Effect where
  /-- Push a branch. -/
  | push (push : BranchPush)
  /-- Ask the code host about a pull request. -/
  | request (request : HostRequest)
  /-- Wait. -/
  | pause
deriving DecidableEq

namespace Operation

def requirePush (operation : Operation) (push : Option BranchPush) (changeset : Changeset) :
    Except ReconcileError BranchPush :=
  match push with
  | some push => .ok push
  | none => .error (.missingBranchPush changeset.id operation)

def requireExternalId (operation : Operation) (changeset : Changeset) :
    Except ReconcileError String :=
  match changeset.externalId with
  | some externalId => .ok externalId
  | none => .error (.missingExternalId changeset.id operation)

/-- What an operation is to do. Of the things that it needs, the branch push is missed first.
Closing does nothing for a pull request that was never opened. -/
def effect (operation : Operation) (push : Option BranchPush) (changeset : Changeset) :
    Except ReconcileError (Option Effect) :=
  match operation with
  | .push => do return some (.push (← operation.requirePush push changeset))
  | .publish => do return some (.request (.create (← operation.requirePush push changeset) false))
  | .publishDraft => do
    return some (.request (.create (← operation.requirePush push changeset) true))
  | .update => do
    let push ← operation.requirePush push changeset
    return some (.request (.update (← operation.requireExternalId changeset) push))
  | .undraft => do return some (.request (.undraft (← operation.requireExternalId changeset)))
  | .sleep => .ok (some .pause)
  | .sync => do return some (.request (.load (← operation.requireExternalId changeset)))
  | .close => .ok (changeset.externalId.map fun externalId => .request (.close externalId))
  | .reopen => do return some (.request (.reopen (← operation.requireExternalId changeset)))

def mark (operation : Operation) (changeset : Changeset) : Changeset :=
  match operation with
  | .publish | .publishDraft => { changeset with publication := .published }
  | .sync => { changeset with unsynced := false }
  | .close => { changeset with closing := false }
  | .push | .update | .undraft | .reopen | .sleep => changeset

def pushed (push : BranchPush) (changeset : Changeset) : Changeset :=
  { changeset with externalBranch := some push.headRef }

/-- The changeset after the code host answered an operation's request. -/
def answered (operation : Operation) (view : PullRequest) (changeset : Changeset) : Changeset :=
  operation.mark (changeset.withHostView view)

end Operation

end BatchChanges
