import BatchChanges.Lease
import BatchChanges.Operation.Effect

/-! # Questions to the rest of the world

Whoever reconciles a changeset asks the store and the code host, and waits. The type of an answer
depends on the question. The answer to an operation's question is written into the changeset only
if it is no failure.
-/

namespace BatchChanges

/-- What is asked while a changeset is reconciled. -/
inductive Question where
  | changesetSpec (id : ChangesetSpecId)
  | repo (id : RepoId)
  /-- Prolong the lease. -/
  | renewal (lease : Lease)
  | push (repo : Repo) (push : BranchPush)
  | request (repo : Repo) (request : HostRequest)
  /-- Let some time pass. -/
  | pause
deriving DecidableEq

/-- The answers to a question. -/
def Question.Answer : Question → Type
  | .changesetSpec _ => Except StoreError (Option ChangesetSpec)
  | .repo _ => Except StoreError (Option Repo)
  | .renewal _ => Except StoreError (Verdict × Lease)
  | .push _ _ => Except HostError Unit
  | .request _ _ => Except HostError PullRequest
  | .pause => Unit

def Effect.question (repo : Repo) : Effect → Question
  | .push branch => .push repo branch
  | .request asked => .request repo asked
  | .pause => .pause

def Operation.absorb (operation : Operation) (repo : Repo) (effect : Effect) (row : Changeset)
    (answer : (effect.question repo).Answer) : Except ReconcileError Changeset :=
  match effect, answer with
  | .push branch, .ok () => .ok (Operation.pushed branch row)
  | .push _, .error error => .error (.host operation error)
  | .request _, .ok view => .ok (operation.answered view row)
  | .request _, .error error => .error (.host operation error)
  | .pause, () => .ok row

end BatchChanges
