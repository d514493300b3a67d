import BatchChanges.Document
import BatchChanges.Spec
import BatchChanges.Text.Quoted
import BatchChanges.Time.Text

/-! # Specs in data formats

Specs are written as JSON objects in the order of their fields, optional fields only when they have
a value. They are read from any data format.
-/

namespace BatchChanges

variable {V : Type} [Document V]

namespace Id

variable {kind : Kind}

def toJson (id : Id kind) : Json := .integer id.value

def read? (value : V) : Option (Id kind) := (Document.int64? value).map Id.mk

end Id

namespace Time

def toJson (time : Time) : Json := .text time.text

def read? (value : V) : Option Time := (Document.text? value).bind parse?

end Time

namespace Namespace

def toJson : Namespace → Json
  | user id => .object [("user", id.toJson)]
  | org id => .object [("org", id.toJson)]

/-- Exactly one field tells the kind of the namespace. -/
def read? (value : V) : Option Namespace :=
  match Document.fields? value with
  | some [("user", id)] => (Id.read? id).map user
  | some [("org", id)] => (Id.read? id).map org
  | _ => none

end Namespace

namespace CodeHost

def toJson (host : CodeHost) : Json := .text host.word

def read? (value : V) : Option CodeHost := (Document.word? value).bind ofWord?

end CodeHost

namespace PublishIntent

/-- Why a value is no publish intent. -/
inductive ReadError where
  | unknownWord (word : String)
  | noIntent
deriving DecidableEq

namespace ReadError

def message : ReadError → String
  | unknownWord word =>
    "invalid published value " ++ Text.quoted word ++ "; expected true, false or \"draft\""
  | noIntent => "data did not match any variant of untagged enum Raw"

end ReadError

def toJson : PublishIntent → Json
  | unpublished => .bool false
  | draft => .text "draft"
  | published => .bool true

/-- A truth value, or the word for a draft. -/
def decode (value : V) : Except ReadError PublishIntent :=
  match Document.bool? value with
  | some true => .ok published
  | some false => .ok unpublished
  | none =>
    match Document.properText? value with
    | some word => if word = "draft" then .ok draft else .error (.unknownWord word)
    | none => .error .noIntent

def read? (value : V) : Option PublishIntent := (decode value).toOption

end PublishIntent

namespace DiffStat

def toJson (stat : DiffStat) : Json :=
  .object [("added", .natural stat.added.toNat), ("changed", .natural stat.changed.toNat),
    ("deleted", .natural stat.deleted.toNat)]

def read? (value : V) : Option DiffStat := do
  let fields : Fields V ← Document.record? ["added", "changed", "deleted"] value
  return {
    added := ← fields.required "added" Document.uint32?
    changed := ← fields.required "changed" Document.uint32?
    deleted := ← fields.required "deleted" Document.uint32? }

end DiffStat

namespace Commit

def toJson (commit : Commit) : Json :=
  .ofFields [("message", some (.text commit.message)), ("diff", some (.text commit.diff)),
    ("author_name", commit.authorName.map .text), ("author_email", commit.authorEmail.map .text)]

def read? (value : V) : Option Commit := do
  let fields : Fields V ←
    Document.record? ["message", "diff", "author_name", "author_email"] value
  return {
    message := ← fields.required "message" Document.text?
    diff := ← fields.required "diff" Document.text?
    authorName := ← fields.optional "author_name" Document.text?
    authorEmail := ← fields.optional "author_email" Document.text? }

end Commit

namespace BranchPush

def jsonFields (push : BranchPush) : List (String × Option Json) :=
  [("base_ref", some (.text push.baseRef)), ("base_rev", some (.text push.baseRev)),
    ("head_ref", some (.text push.headRef)), ("title", some (.text push.title)),
    ("body", some (.text push.body)), ("commit", some push.commit.toJson),
    ("published", some push.published.toJson)]

def toJson (push : BranchPush) : Json := .ofFields push.jsonFields

def read? (value : V) : Option BranchPush := do
  let fields : Fields V ← Document.record?
    ["base_ref", "base_rev", "head_ref", "title", "body", "commit", "published"] value
  return {
    baseRef := ← fields.required "base_ref" Document.text?
    baseRev := ← fields.withDefault "base_rev" "" Document.text?
    headRef := ← fields.required "head_ref" Document.text?
    title := ← fields.required "title" Document.text?
    body := ← fields.withDefault "body" "" Document.text?
    commit := ← fields.required "commit" Commit.read?
    published := ← fields.withDefault "published" .unpublished PublishIntent.read? }

end BranchPush

namespace SpecTarget

def toJson : SpecTarget → Json
  | trackExisting externalId =>
    .object [("kind", .text "track_existing"), ("external_id", .text externalId)]
  | branchPush push => .ofFields (("kind", some (.text "branch_push")) :: push.jsonFields)

/-- The kind of a target and the value of its other fields: a record with a field for the kind, or
an array that starts with it. -/
def split? : Json → Option (String × Json)
  | .object members => do
    let kind ← (members.lookup "kind").bind (Document.text? (V := Json))
    return (kind, .object (members.filter fun member => member.1 ≠ "kind"))
  | .array (kind :: rest) => (Document.text? kind).map (·, .array rest)
  | _ => none

def read? (value : Json) : Option SpecTarget := do
  let (kind, rest) ← split? value
  if kind = "track_existing" then
    let fields : Fields Json ← Document.record? ["external_id"] rest
    return trackExisting (← fields.required "external_id" Document.text?)
  else if kind = "branch_push" then
    return branchPush (← BranchPush.read? rest)
  else none

end SpecTarget

namespace ChangesetSpec

def toJson (spec : ChangesetSpec) : Json :=
  .ofFields [("id", some spec.id.toJson), ("rand_id", some (.text spec.randId)),
    ("campaign_spec_id", some spec.campaignSpecId.toJson), ("repo_id", some spec.repoId.toJson),
    ("user_id", some spec.userId.toJson), ("description", some spec.target.toJson),
    ("diff_stat", spec.diffStat.map DiffStat.toJson), ("created_at", some spec.createdAt.toJson)]

def read? (value : Json) : Option ChangesetSpec := do
  let fields : Fields Json ← Document.record? ["id", "rand_id", "campaign_spec_id", "repo_id",
    "user_id", "description", "diff_stat", "created_at"] value
  return {
    id := ← fields.required "id" Id.read?
    randId := ← fields.required "rand_id" Document.text?
    campaignSpecId := ← fields.required "campaign_spec_id" Id.read?
    repoId := ← fields.required "repo_id" Id.read?
    userId := ← fields.required "user_id" Id.read?
    target := ← fields.required "description" SpecTarget.read?
    diffStat := ← fields.optional "diff_stat" DiffStat.read?
    createdAt := ← fields.required "created_at" Time.read? }

end ChangesetSpec

namespace ChangesetTemplate

def toJson (template : ChangesetTemplate) : Json :=
  .object [("title", .text template.title), ("body", .text template.body),
    ("branch", .text template.branch), ("commit_message", .text template.commitMessage),
    ("published", template.published.toJson)]

def read? (value : V) : Option ChangesetTemplate := do
  let fields : Fields V ←
    Document.record? ["title", "body", "branch", "commit_message", "published"] value
  return {
    title := ← fields.required "title" Document.text?
    body := ← fields.withDefault "body" "" Document.text?
    branch := ← fields.required "branch" Document.text?
    commitMessage := ← fields.required "commit_message" Document.text?
    published := ← fields.withDefault "published" .unpublished PublishIntent.read? }

end ChangesetTemplate

namespace CampaignSpec

def toJson (spec : CampaignSpec) : Json :=
  .ofFields [("id", some spec.id.toJson), ("rand_id", some (.text spec.randId)),
    ("user_id", some spec.userId.toJson), ("namespace", some spec.space.toJson),
    ("name", some (.text spec.name)), ("description", some (.text spec.description)),
    ("changeset_template", spec.template.map ChangesetTemplate.toJson),
    ("created_at", some spec.createdAt.toJson)]

def read? (value : V) : Option CampaignSpec := do
  let fields : Fields V ← Document.record? ["id", "rand_id", "user_id", "namespace", "name",
    "description", "changeset_template", "created_at"] value
  return {
    id := ← fields.required "id" Id.read?
    randId := ← fields.required "rand_id" Document.text?
    userId := ← fields.required "user_id" Id.read?
    space := ← fields.required "namespace" Namespace.read?
    name := ← fields.required "name" Document.text?
    description := ← fields.withDefault "description" "" Document.text?
    template := ← fields.optional "changeset_template" ChangesetTemplate.read?
    createdAt := ← fields.required "created_at" Time.read? }

end CampaignSpec

end BatchChanges
