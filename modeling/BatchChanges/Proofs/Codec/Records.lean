import BatchChanges.Campaign.Codec
import BatchChanges.Lease
import BatchChanges.Proofs.Codec.Values

/-! # Records are read back

Every stored type is read back from what is written for it, whatever its texts, its instants and its
counters are and whichever of its optional fields have a value. Only identifiers are bounded: as row
numbers of the store they have 64 bits.
-/

namespace BatchChanges

open Fields

variable {depth : Nat}

private theorem DiffStat.codes (stat : DiffStat) :
    Codes (depth + 1) stat.toJson DiffStat.read? stat := by
  have added : Codes depth _ _ _ := Json.codes_uint32 stat.added
  have changed : Codes depth _ _ _ := Json.codes_uint32 stat.changed
  have deleted : Codes depth _ _ _ := Json.codes_uint32 stat.deleted
  refine codes_object rfl (by decide) ?_ ?_
  · simp [added.plain, changed.plain, deleted.plain]
  · rw [required_of rfl added, required_of rfl changed, required_of rfl deleted]
    rfl

private theorem Commit.codes (commit : Commit) :
    Codes (depth + 1) commit.toJson Commit.read? commit := by
  have text : ∀ value, Codes depth _ _ value := Json.codes_text
  refine codes_record rfl (by decide) ?_ fun members held => ?_
  · simp [(text _).plain]
  · rw [held.required rfl (text commit.message), held.required rfl (text commit.diff),
      held.optional rfl fun name _ => text name, held.optional rfl fun email _ => text email]
    rfl

theorem BranchPush.codes (push : BranchPush) :
    Codes (depth + 2) push.toJson BranchPush.read? push := by
  have text : ∀ value, Codes (depth + 1) _ _ value := Json.codes_text
  have commit : Codes (depth + 1) _ _ _ := Commit.codes push.commit
  have published : Codes (depth + 1) _ _ _ := PublishIntent.codes push.published
  refine codes_record rfl (by decide) ?_ fun members held => ?_
  · simp [BranchPush.jsonFields, (text _).plain, commit.plain, published.plain]
  · rw [held.required rfl (text push.baseRef), held.withDefault rfl (text push.baseRev),
      held.required rfl (text push.headRef), held.required rfl (text push.title),
      held.withDefault rfl (text push.body), held.required rfl commit,
      held.withDefault rfl published]
    rfl

/-- The field for the kind is taken away before a branch push is read. -/
theorem SpecTarget.split?_toJson (push : BranchPush) :
    split? (branchPush push).toJson = some ("branch_push", push.toJson) := rfl

private theorem SpecTarget.codes (target : SpecTarget) :
    Codes (depth + 2) target.toJson SpecTarget.read? target := by
  cases target with
  | trackExisting externalId => exact ⟨rfl, .object (by simp) (by simp [Json.IsPlain.text]), rfl⟩
  | branchPush push =>
    obtain ⟨read, plain, -⟩ : Codes (depth + 2) _ _ push := BranchPush.codes push
    refine ⟨?_, ?_, rfl⟩
    · rw [SpecTarget.read?, split?_toJson]
      simp [read]
    · cases plain with
      | object distinct plain =>
        refine .object (List.nodup_cons.mpr ⟨?_, distinct⟩)
          (List.forall_mem_cons.mpr ⟨.text "branch_push", plain⟩)
        simp [BranchPush.jsonFields]

/-- The identifiers of a changeset spec are row numbers. -/
structure ChangesetSpec.IsStorable (spec : ChangesetSpec) : Prop where
  id : spec.id.IsStorable
  campaignSpecId : spec.campaignSpecId.IsStorable
  repoId : spec.repoId.IsStorable
  userId : spec.userId.IsStorable

theorem ChangesetSpec.codes {spec : ChangesetSpec} (storable : spec.IsStorable) :
    Codes (depth + 3) spec.toJson ChangesetSpec.read? spec := by
  have randId : Codes (depth + 2) _ _ _ := Json.codes_text spec.randId
  have id : Codes (depth + 2) _ _ _ := Id.codes storable.id
  have campaignSpec : Codes (depth + 2) _ _ _ := Id.codes storable.campaignSpecId
  have repo : Codes (depth + 2) _ _ _ := Id.codes storable.repoId
  have user : Codes (depth + 2) _ _ _ := Id.codes storable.userId
  have target : Codes (depth + 2) _ _ _ := SpecTarget.codes spec.target
  have stat : ∀ value, Codes (depth + 2) _ _ value := DiffStat.codes
  have created : Codes (depth + 2) _ _ _ := Time.codes spec.createdAt
  refine codes_record rfl (by decide) ?_ fun members held => ?_
  · simp [randId.plain, id.plain, campaignSpec.plain, repo.plain, user.plain, target.plain,
      (stat _).plain, created.plain]
  · rw [held.required rfl id, held.required rfl randId, held.required rfl campaignSpec,
      held.required rfl repo, held.required rfl user, held.required rfl target,
      held.optional rfl fun value _ => stat value, held.required rfl created]
    rfl

theorem ChangesetTemplate.codes (template : ChangesetTemplate) :
    Codes (depth + 1) template.toJson ChangesetTemplate.read? template := by
  have text : ∀ value, Codes depth _ _ value := Json.codes_text
  have published : Codes depth _ _ _ := PublishIntent.codes template.published
  refine codes_object rfl (by decide) ?_ ?_
  · simp [(text _).plain, published.plain]
  · rw [required_of rfl (text template.title), withDefault_of rfl (text template.body),
      required_of rfl (text template.branch), required_of rfl (text template.commitMessage),
      withDefault_of rfl published]
    rfl

/-- The identifiers of a campaign spec are row numbers. -/
structure CampaignSpec.IsStorable (spec : CampaignSpec) : Prop where
  id : spec.id.IsStorable
  userId : spec.userId.IsStorable
  space : spec.space.IsStorable

theorem CampaignSpec.codes {spec : CampaignSpec} (storable : spec.IsStorable) :
    Codes (depth + 2) spec.toJson CampaignSpec.read? spec := by
  have text : ∀ value, Codes (depth + 1) _ _ value := Json.codes_text
  have id : Codes (depth + 1) _ _ _ := Id.codes storable.id
  have user : Codes (depth + 1) _ _ _ := Id.codes storable.userId
  have space : Codes (depth + 1) _ _ _ := Namespace.codes storable.space
  have template : ∀ value, Codes (depth + 1) _ _ value := ChangesetTemplate.codes
  have created : Codes (depth + 1) _ _ _ := Time.codes spec.createdAt
  refine codes_record rfl (by decide) ?_ fun members held => ?_
  · simp [(text _).plain, id.plain, user.plain, space.plain, (template _).plain, created.plain]
  · rw [held.required rfl id, held.required rfl (text spec.randId), held.required rfl user,
      held.required rfl space, held.required rfl (text spec.name),
      held.withDefault rfl (text spec.description), held.optional rfl fun value _ => template value,
      held.required rfl created]
    rfl

theorem Repo.codes {repo : Repo} (storable : repo.id.IsStorable) :
    Codes (depth + 1) repo.toJson Repo.read? repo := by
  have id : Codes depth _ _ _ := Id.codes storable
  have name : Codes depth _ _ _ := Json.codes_text repo.name
  have host : Codes depth _ _ _ := CodeHost.codes repo.codeHost
  refine codes_object rfl (by decide) ?_ ?_
  · simp [id.plain, name.plain, host.plain]
  · rw [required_of rfl id, required_of rfl name, required_of rfl host]
    rfl

theorem Lease.codes {lease : Lease} (storable : lease.changesetId.IsStorable) :
    Codes (depth + 1) lease.toJson Lease.read? lease := by
  have changeset : Codes depth _ _ _ := Id.codes storable
  have worker : Codes depth _ _ _ := Json.codes_text lease.workerId
  have token : Codes depth _ _ _ := Json.codes_text lease.token
  have expires : Codes depth _ _ _ := Time.codes lease.expiresAt
  refine codes_object rfl (by decide) ?_ ?_
  · simp [changeset.plain, worker.plain, token.plain, expires.plain]
  · rw [required_of rfl changeset, required_of rfl worker, required_of rfl token,
      required_of rfl expires]
    rfl

/-- The identifiers of a changeset are row numbers. -/
structure Changeset.IsStorable (changeset : Changeset) : Prop where
  id : changeset.id.IsStorable
  repoId : changeset.repoId.IsStorable
  currentSpecId : ∀ id ∈ changeset.currentSpecId, id.IsStorable
  previousSpecId : ∀ id ∈ changeset.previousSpecId, id.IsStorable
  ownerId : ∀ id ∈ changeset.ownerId, id.IsStorable
  campaignIds : ∀ id ∈ changeset.campaignIds.ids, id.IsStorable

theorem Changeset.codes {changeset : Changeset} (storable : changeset.IsStorable) :
    Codes (depth + 2) changeset.toJson Changeset.read? changeset := by
  have text : ∀ value, Codes (depth + 1) _ _ value := Json.codes_text
  have bool : ∀ value, Codes (depth + 1) _ _ value := Json.codes_bool
  have time : ∀ value, Codes (depth + 1) _ _ value := Time.codes
  have id : Codes (depth + 1) _ _ _ := Id.codes storable.id
  have repo : Codes (depth + 1) _ _ _ := Id.codes storable.repoId
  have host : Codes (depth + 1) _ _ _ := CodeHost.codes changeset.codeHost
  have state : ∀ value, Codes (depth + 1) _ _ value := HostState.codes
  have stat : ∀ value, Codes (depth + 1) _ _ value := DiffStat.codes
  have publication : Codes (depth + 1) _ _ _ := Publication.codes changeset.publication
  have current : ∀ id ∈ changeset.currentSpecId, Codes (depth + 1) _ _ id :=
    fun id held => Id.codes (storable.currentSpecId id held)
  have previous : ∀ id ∈ changeset.previousSpecId, Codes (depth + 1) _ _ id :=
    fun id held => Id.codes (storable.previousSpecId id held)
  have owner : ∀ id ∈ changeset.ownerId, Codes (depth + 1) _ _ id :=
    fun id held => Id.codes (storable.ownerId id held)
  have campaigns : Codes (depth + 1) _ _ _ := IdSet.codes storable.campaignIds
  have queue : Codes (depth + 1) _ _ _ := QueueState.codes changeset.queueState
  have failures : Codes (depth + 1) _ _ _ := Json.codes_uint32 changeset.failures
  refine codes_record rfl (by decide) ?_ fun members held => ?_
  · have ids := And.intro (fun id held => (current id held).plain) (And.intro
      (fun id held => (previous id held).plain) fun id held => (owner id held).plain)
    simpa [(text _).plain, (bool _).plain, (time _).plain, id.plain, repo.plain, host.plain,
      (state _).plain, (stat _).plain, publication.plain, campaigns.plain, queue.plain,
      failures.plain] using ids
  · rw [held.required rfl id, held.required rfl repo, held.required rfl host,
      held.optional rfl fun value _ => text value, held.optional rfl fun value _ => text value,
      held.optional rfl fun value _ => state value, held.optional rfl fun value _ => text value,
      held.optional rfl fun value _ => time value, held.optional rfl fun value _ => stat value,
      held.withDefault rfl publication, held.withDefault rfl (bool changeset.unsynced),
      held.optional rfl current, held.optional rfl previous, held.optional rfl owner,
      held.withDefault rfl campaigns, held.withDefault rfl (bool changeset.closing),
      held.withDefault rfl queue, held.optional rfl fun value _ => text value,
      held.withDefault rfl failures, held.optional rfl fun value _ => time value,
      held.required rfl (time changeset.createdAt), held.required rfl (time changeset.updatedAt)]
    rfl

/-- The identifiers of a campaign are row numbers. -/
structure Campaign.IsStorable (campaign : Campaign) : Prop where
  id : campaign.id.IsStorable
  space : campaign.space.IsStorable
  campaignSpecId : campaign.campaignSpecId.IsStorable
  changesetIds : ∀ id ∈ campaign.changesetIds.ids, id.IsStorable
  initialApplierId : campaign.initialApplierId.IsStorable
  lastApplierId : campaign.lastApplierId.IsStorable

theorem Campaign.codes {campaign : Campaign} (storable : campaign.IsStorable) :
    Codes (depth + 2) campaign.toJson Campaign.read? campaign := by
  have text : ∀ value, Codes (depth + 1) _ _ value := Json.codes_text
  have time : ∀ value, Codes (depth + 1) _ _ value := Time.codes
  have id : Codes (depth + 1) _ _ _ := Id.codes storable.id
  have space : Codes (depth + 1) _ _ _ := Namespace.codes storable.space
  have spec : Codes (depth + 1) _ _ _ := Id.codes storable.campaignSpecId
  have changesets : Codes (depth + 1) _ _ _ := IdSet.codes storable.changesetIds
  have initial : Codes (depth + 1) _ _ _ := Id.codes storable.initialApplierId
  have last : Codes (depth + 1) _ _ _ := Id.codes storable.lastApplierId
  refine codes_record rfl (by decide) ?_ fun members held => ?_
  · simp [(text _).plain, (time _).plain, id.plain, space.plain, spec.plain, changesets.plain,
      initial.plain, last.plain]
  · rw [held.required rfl id, held.required rfl (text campaign.name),
      held.withDefault rfl (text campaign.description), held.required rfl space,
      held.required rfl spec, held.withDefault rfl changesets, held.required rfl initial,
      held.required rfl last, held.required rfl (time campaign.lastAppliedAt),
      held.optional rfl fun value _ => time value, held.required rfl (time campaign.createdAt),
      held.required rfl (time campaign.updatedAt)]
    rfl

end BatchChanges
