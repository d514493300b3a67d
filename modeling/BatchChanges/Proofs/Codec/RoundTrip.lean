import BatchChanges.Proofs.Codec.Records

/-! # Stored types survive the wire

A stored value is written as a text and read from the text as itself. Nothing is lost on the way: a
text that was written once is written again when what was read from it is.
-/

namespace BatchChanges.Wire

variable {α : Type} {write : α → Json} {read : Json → Option α} {value : α}

def encode (write : α → Json) (value : α) : String := (write value).compact

/-- The value that a text stands for, if it stands for one. -/
def decode? (read : Json → Option α) (text : String) : Option α := (Json.parse? text).bind read

/-- A value is read back from what is written for it, and written as before. -/
structure Survives (write : α → Json) (read : Json → Option α) (value : α) : Prop where
  /-- It is read back from the JSON value. -/
  document : read (write value) = some value
  /-- It is read back from the text of the JSON value. -/
  text : decode? read (encode write value) = some value
  /-- It is written as the same text again. -/
  again : (decode? read (encode write value)).map (encode write) = some (encode write value)

/-- A value survives if it is nested no deeper than the reader follows. -/
theorem survives_of_codes (codes : Codes 127 (write value) read value) :
    Survives write read value := by
  have text : decode? read (encode write value) = some value := by
    rw [decode?, encode, Json.parse?_compact codes.plain, Option.bind_some, codes.read]
  exact ⟨codes.read, text, by rw [text, Option.map_some]⟩

/-- All stored types survive the wire, with any texts, instants, counters and sets, whichever of
their optional fields have a value, and for both kinds of targets of a changeset spec. -/
theorem stored_types_survive :
    (∀ changeset : Changeset, changeset.IsStorable →
      Survives Changeset.toJson Changeset.read? changeset) ∧
    (∀ campaign : Campaign, campaign.IsStorable →
      Survives Campaign.toJson Campaign.read? campaign) ∧
    (∀ spec : CampaignSpec, spec.IsStorable →
      Survives CampaignSpec.toJson CampaignSpec.read? spec) ∧
    (∀ spec : ChangesetSpec, spec.IsStorable →
      Survives ChangesetSpec.toJson ChangesetSpec.read? spec) ∧
    (∀ template : ChangesetTemplate,
      Survives ChangesetTemplate.toJson ChangesetTemplate.read? template) ∧
    (∀ push : BranchPush, Survives BranchPush.toJson BranchPush.read? push) ∧
    (∀ repo : Repo, repo.id.IsStorable → Survives Repo.toJson Repo.read? repo) ∧
    (∀ lease : Lease, lease.changesetId.IsStorable → Survives Lease.toJson Lease.read? lease) := by
  refine ⟨?_, ?_, ?_, ?_, ?_, ?_, ?_, ?_⟩
  · exact fun _ storable => survives_of_codes (Changeset.codes storable)
  · exact fun _ storable => survives_of_codes (Campaign.codes storable)
  · exact fun _ storable => survives_of_codes (CampaignSpec.codes storable)
  · exact fun _ storable => survives_of_codes (ChangesetSpec.codes storable)
  · exact fun template => survives_of_codes (ChangesetTemplate.codes template)
  · exact fun push => survives_of_codes (BranchPush.codes push)
  · exact fun _ storable => survives_of_codes (Repo.codes storable)
  · exact fun _ storable => survives_of_codes (Lease.codes storable)

namespace Sample

def push : BranchPush where
  baseRef := "refs/heads/main"
  baseRev := ""
  headRef := "refs/heads/tidy"
  title := "Tidy \"all\""
  body := "first\nsecond"
  commit := { message := "tidy", diff := "+a\t+b", authorName := none, authorEmail := some "a@b" }
  published := .draft

def template : ChangesetTemplate := ⟨"Tidy", "", "tidy", "tidy", .published⟩

def changesetSpec (target : SpecTarget) : ChangesetSpec where
  id := ⟨4⟩
  randId := "r4"
  campaignSpecId := ⟨9223372036854775807⟩
  repoId := ⟨2⟩
  userId := ⟨-9223372036854775808⟩
  target
  diffStat := some ⟨1, 4294967295, 0⟩
  createdAt := .epoch

def campaignSpec : CampaignSpec where
  id := ⟨3⟩
  randId := "r3"
  userId := ⟨1⟩
  space := .org ⟨5⟩
  name := "tidy"
  description := ""
  template := some template
  createdAt := .epoch

/-- A draft with a spec of its own and none before. -/
def changeset : Changeset where
  id := ⟨6⟩
  repoId := ⟨2⟩
  codeHost := .bitbucketServer
  externalId := some "12"
  externalState := some .draft
  publication := .published
  currentSpecId := some ⟨4⟩
  ownerId := some ⟨7⟩
  campaignIds := IdSet.ofList [⟨7⟩, ⟨3⟩]
  failures := 2
  createdAt := .epoch
  updatedAt := .epoch

def campaign : Campaign where
  id := ⟨7⟩
  name := "tidy"
  description := "Tidies."
  space := .user ⟨1⟩
  campaignSpecId := ⟨3⟩
  changesetIds := IdSet.ofList [⟨6⟩]
  initialApplierId := ⟨1⟩
  lastApplierId := ⟨1⟩
  lastAppliedAt := .epoch
  closedAt := none
  createdAt := .epoch
  updatedAt := .epoch

def repo : Repo := ⟨⟨2⟩, "github.com/acme/app", .github⟩

def lease : Lease := ⟨⟨6⟩, "worker", "token", .epoch⟩

private theorem isStorable_changesetSpec (target : SpecTarget) :
    (changesetSpec target).IsStorable := by
  constructor <;> simp [changesetSpec, Id.IsStorable]

private theorem isStorable_campaignSpec : campaignSpec.IsStorable :=
    ⟨by decide, by decide, by decide⟩

private theorem isStorable_changeset : changeset.IsStorable :=
  ⟨by decide, by decide, by decide, by decide, by decide, by decide⟩

private theorem isStorable_campaign : campaign.IsStorable :=
  ⟨by decide, by decide, by decide, by decide, by decide, by decide⟩

end Sample

open Wire.Sample in
/-- A branch push and a tracked pull request, optional fields with and without a value, and the
largest numbers. -/
theorem stored_types_survive_mixed :
    Survives Changeset.toJson Changeset.read? changeset ∧
    Survives Campaign.toJson Campaign.read? campaign ∧
    Survives CampaignSpec.toJson CampaignSpec.read? campaignSpec ∧
    Survives ChangesetSpec.toJson ChangesetSpec.read? (changesetSpec (.branchPush push)) ∧
    Survives ChangesetSpec.toJson ChangesetSpec.read? (changesetSpec (.trackExisting "12")) ∧
    Survives ChangesetTemplate.toJson ChangesetTemplate.read? template ∧
    Survives BranchPush.toJson BranchPush.read? push ∧
    Survives Repo.toJson Repo.read? repo ∧ Survives Lease.toJson Lease.read? lease := by
  obtain ⟨changesets, campaigns, campaignSpecs, changesetSpecs, templates, pushes, repos, leases⟩ :=
    stored_types_survive
  exact ⟨changesets changeset isStorable_changeset, campaigns campaign isStorable_campaign,
    campaignSpecs campaignSpec isStorable_campaignSpec,
    changesetSpecs _ (isStorable_changesetSpec (.branchPush push)),
    changesetSpecs _ (isStorable_changesetSpec (.trackExisting "12")), templates template,
    pushes push, repos repo (by decide), leases lease (by decide)⟩

end BatchChanges.Wire
