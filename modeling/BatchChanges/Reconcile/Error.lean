import BatchChanges.Host
import BatchChanges.Plan
import BatchChanges.Store.Error

/-! # Failures of the reconciler

A failure is worth another attempt only if it lies with the store, or is a passing one of the code
host.
-/

namespace BatchChanges

/-- Why a changeset could not be reconciled. -/
inductive ReconcileError where
  | store (error : StoreError)
  | missingCurrentSpec (cause : MissingCurrentSpec)
  | specNotFound (id : ChangesetSpecId)
  | repoNotFound (id : RepoId)
  /-- The operation pushes or describes a branch and the changeset has none. -/
  | missingBranchPush (id : ChangesetId) (operation : Operation)
  /-- The operation is about a pull request that was never opened. -/
  | missingExternalId (id : ChangesetId) (operation : Operation)
  /-- The lease ended before the operation could run. -/
  | leaseLost (id : ChangesetId) (operation : Operation)
  /-- The code host failed during the operation. -/
  | host (operation : Operation) (error : HostError)
  /-- A worker ended before it was told to. -/
  | workerFailed (detail : String)
deriving DecidableEq

namespace ReconcileError

def message : ReconcileError → String
  | store error => "store error: " ++ error.message
  | missingCurrentSpec cause => cause.message
  | specNotFound id => "changeset spec " ++ id.text ++ " not found"
  | repoNotFound id => "repository " ++ id.text ++ " not found"
  | missingBranchPush id operation =>
    "operation " ++ operation.text ++ " needs a branch-push spec on changeset " ++ id.text
  | missingExternalId id operation =>
    "operation " ++ operation.text ++ " needs an external id on changeset " ++ id.text
  | leaseLost id operation =>
    "lease on changeset " ++ id.text ++ " lost before " ++ operation.text
  | host operation error => operation.text ++ " failed: " ++ error.message
  | workerFailed detail => "worker task failed: " ++ detail

/-- Whether another attempt may succeed without anyone's help. -/
def isRetryable : ReconcileError → Bool
  | store _ => true
  | host _ error => error.isRetryable
  | _ => false

end ReconcileError

end BatchChanges
