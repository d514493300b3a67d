import BatchChanges.Actor
import BatchChanges.Backend
import BatchChanges.Campaign.Error

/-! # Specs and changesets, side by side

A mapping row names a spec, a changeset or both; a mapping holds them, together with the repository
if the actor can see it. Every changeset and every spec is used for one mapping only.
-/

namespace BatchChanges

/-- What a campaign wants in a repository, and what exists there. -/
structure Mapping where
  repoId : RepoId
  /-- Nothing if the actor cannot see the repository. -/
  repo : Option Repo
  changeset : Option Changeset
  spec : Option ChangesetSpec
deriving DecidableEq

namespace Mapping

def take {kind : Kind} {α : Type} (missing : Id kind → CampaignError) (table : Table kind α) :
    Option (Id kind) → Except CampaignError (Option α × Table kind α)
  | none => .ok (none, table)
  | some id =>
    match table.find? id with
    | some row => .ok (some row, table.erase id)
    | none => .error (missing id)

def ofRows (repos : Table .repo Repo) :
    Table .changeset Changeset → Table .changesetSpec ChangesetSpec → List MappingRow →
      Except CampaignError (List Mapping)
  | _, _, [] => .ok []
  | changesets, specs, row :: rest => do
    let (changeset, changesets) ← take .changesetNotFound changesets row.changesetId
    let (spec, specs) ← take .changesetSpecNotFound specs row.specId
    let others ← ofRows repos changesets specs rest
    return ⟨row.repoId, repos.find? row.repoId, changeset, spec⟩ :: others

/-- Reads what mapping rows name, as far as an actor can see it. -/
def hydrate (visible : Visibility) (actor : Actor) (rows : List MappingRow) :
    Access CampaignError (List Mapping) := do
  let changesets ← Access.wrapping .store (Access.readChangesets (rows.filterMap (·.changesetId)))
  let specs ← Access.wrapping .store (Access.readChangesetSpecs (rows.filterMap (·.specId)))
  let repos ← Access.wrapping .store Access.readRepos
  ExceptT.mk (pure (ofRows (repos.filter fun _ repo => visible actor repo)
    (changesets.foldl (fun table changeset => table.insert changeset.id changeset) ∅)
    (specs.foldl (fun table spec => table.insert spec.id spec) ∅) rows))

end Mapping

end BatchChanges
