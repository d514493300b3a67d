import BatchChanges.Changeset

/-! # The code host

The reconciler asks a code host to push a branch, and to create, change or load a pull request. The
host fails or, after a request, says how the pull request stands. Its answer is written into the
changeset; statistics of the diff only if it gives any.
-/

namespace BatchChanges

/-- A pull request as its code host sees it. -/
structure PullRequest where
  externalId : String
  branch : String
  state : HostState
  title : String
  diffStat : Option DiffStat
  updatedAt : Time
deriving DecidableEq

/-- What a code host is asked to do with a pull request. -/
inductive HostRequest where
  | create (push : BranchPush) (draft : Bool)
  | update (externalId : String) (push : BranchPush)
  | undraft (externalId : String)
  | close (externalId : String)
  | reopen (externalId : String)
  | load (externalId : String)
deriving DecidableEq

/-- Why a code host does not do what it is asked to. -/
inductive HostError where
  /-- The request may not have reached the host. -/
  | network (detail : String)
  /-- The host wants to be asked less often. -/
  | rateLimited
  | unavailable (detail : String)
  /-- There is no such pull request or branch. -/
  | notFound (detail : String)
  /-- The host refuses the request. -/
  | rejected (detail : String)
deriving DecidableEq

namespace HostError

def message : HostError → String
  | network detail => "network error: " ++ detail
  | rateLimited => "rate limited by code host"
  | unavailable detail => "code host unavailable: " ++ detail
  | notFound detail => "not found on code host: " ++ detail
  | rejected detail => "rejected by code host: " ++ detail

/-- Whether the request may succeed when it is made again. -/
def isRetryable : HostError → Bool
  | network _ | rateLimited | unavailable _ => true
  | notFound _ | rejected _ => false

def ofName? (detail : String) : String → Option HostError
  | "Network" => some (network detail)
  | "RateLimited" => some rateLimited
  | "Unavailable" => some (unavailable detail)
  | "NotFound" => some (notFound detail)
  | "Rejected" => some (rejected detail)
  | _ => none

end HostError

namespace Changeset

def withHostView (changeset : Changeset) (view : PullRequest) : Changeset :=
  { changeset with
    externalId := some view.externalId
    externalBranch := some view.branch
    externalState := some view.state
    externalTitle := some view.title
    externalUpdatedAt := some view.updatedAt
    diffStat := view.diffStat <|> changeset.diffStat }

end Changeset

end BatchChanges
