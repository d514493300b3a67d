import BatchChanges.Changeset

/-! # Who acts

A user may do what is about his own specs and campaigns, a site admin may do everything. Which
repositories somebody can see is decided outside; whoever cannot see a repository is treated as if
it did not exist.
-/

namespace BatchChanges

/-- The user on whose behalf something is done. -/
structure Actor where
  userId : UserId
  siteAdmin : Bool := false
deriving DecidableEq

/-- Which repositories an actor can see. -/
abbrev Visibility := Actor → Repo → Bool

namespace Actor

/-- Whether an actor may act for a user. -/
def mayActFor (actor : Actor) (owner : UserId) : Bool := actor.siteAdmin || actor.userId == owner

end Actor

end BatchChanges
