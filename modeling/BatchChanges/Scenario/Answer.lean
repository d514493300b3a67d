import BatchChanges.Campaign.Codec
import BatchChanges.Campaign.Rewire
import BatchChanges.Reconcile
import BatchChanges.Settings.File

/-! # Answers in JSON

Results and failures as they are shown to whoever makes requests. A failure has a kind and a
message, and says what the caller can do about it.
-/

namespace BatchChanges

namespace StoreError

def kind : StoreError → String
  | campaignNotFound _ => "CampaignNotFound"
  | changesetNotFound _ => "ChangesetNotFound"
  | duplicateCampaign _ _ => "DuplicateCampaign"
  | backend _ => "Backend"

def toJson (error : StoreError) : Json :=
  .object [("error", .text error.kind), ("message", .text error.message)]

end StoreError

namespace CampaignError

def kind : CampaignError → String
  | store _ => "Store"
  | campaignSpecNotFound _ => "CampaignSpecNotFound"
  | campaignNotFound _ => "CampaignNotFound"
  | unauthorized _ => "Unauthorized"
  | campaignExists => "MatchingCampaignExists"
  | otherCampaign _ _ => "EnsureCampaignFailed"
  | campaignClosed _ => "ApplyClosedCampaign"
  | repoNotFound _ => "RepoNotFound"
  | changesetNotFound _ => "ChangesetNotFound"
  | changesetSpecNotFound _ => "ChangesetSpecNotFound"

def jsonFields (error : CampaignError) : List (String × Json) :=
  [("error", .text error.kind), ("message", .text error.message)]

def toJson (error : CampaignError) : Json :=
  .object (error.jsonFields ++ [("guard", .bool error.isGuard)])

end CampaignError

namespace ReconcileError

def kind : ReconcileError → String
  | store _ => "Store"
  | missingCurrentSpec _ => "MissingCurrentSpec"
  | specNotFound _ => "SpecNotFound"
  | repoNotFound _ => "RepoNotFound"
  | missingBranchPush _ _ => "MissingBranchPush"
  | missingExternalId _ _ => "MissingExternalId"
  | leaseLost _ _ => "LeaseLost"
  | host _ _ => "Source"
  | workerFailed _ => "Join"

def toJson (error : ReconcileError) : Json :=
  .object [("error", .text error.kind), ("message", .text error.message),
    ("retryable", .bool error.isRetryable)]

end ReconcileError

namespace MissingCurrentSpec

def toJson (cause : MissingCurrentSpec) : Json :=
  .object [("error", .text "MissingCurrentSpec"), ("message", .text cause.message)]

end MissingCurrentSpec

namespace Settings.LoadError

def kind : LoadError → String
  | unreadable _ => "Io"
  | malformed _ => "Parse"
  | homeNotFound => "HomeNotFound"

def toJson (error : LoadError) : Json :=
  .object [("error", .text error.kind), ("message", .text error.message)]

end Settings.LoadError

namespace Interrupt

variable {ε : Type}

def toJson (write : ε → Json) : Interrupt ε → Json
  | failed error => write error
  | overflow => .object [("error", .text "Panic")]

end Interrupt

namespace Verdict

def word : Verdict → String
  | applied => "Success"
  | rowGone => "NotFound"
  | leaseLost => "LeaseLost"

def toJson (verdict : Verdict) : Json :=
  .object [("cas", .text verdict.word), ("success", .bool verdict.isApplied)]

end Verdict

namespace Lease

def toPublicJson (lease : Lease) : Json :=
  .object [("changeset_id", lease.changesetId.toJson), ("worker_id", .text lease.workerId),
    ("expires_at", lease.expiresAt.toJson)]

end Lease

namespace AttemptReport

def toJson (report : AttemptReport) : Json :=
  .object [("changeset_id", report.changesetId.toJson),
    ("ops", .array (report.operations.map Operation.toJson)),
    ("display", .text (Operation.listText report.operations)),
    ("state", report.state.toJson),
    ("failure_message", .ofOption .text report.failureMessage),
    ("retry_at", .ofOption Time.toJson report.retryAt),
    ("write_back", .text report.writeBack.word)]

end AttemptReport

namespace MappingRow

def toJson (row : MappingRow) : Json :=
  .array [row.repoId.toJson, .ofOption Id.toJson row.changesetId, .ofOption Id.toJson row.specId]

end MappingRow

namespace Mapping

def toJson (mapping : Mapping) : Json :=
  .object [("repo_id", mapping.repoId.toJson), ("repo", .ofOption Repo.toJson mapping.repo),
    ("changeset", .ofOption Changeset.toJson mapping.changeset),
    ("changeset_spec", .ofOption ChangesetSpec.toJson mapping.spec)]

/-- A mapping, whose fields may be null but for the number of the repository. -/
def read? (value : Json) : Option Mapping := do
  let fields : Fields Json ← Document.fields? value
  return {
    repoId := ← fields.required "repo_id" Id.read?
    repo := ← fields.optional "repo" Repo.read?
    changeset := ← fields.optional "changeset" Changeset.read?
    spec := ← fields.optional "changeset_spec" ChangesetSpec.read? }

end Mapping

end BatchChanges
