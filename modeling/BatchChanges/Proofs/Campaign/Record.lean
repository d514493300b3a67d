import BatchChanges.Proofs.Campaign.Members

/-! # The record of a campaign

An application revises the record of a campaign that it has read before its transaction, and the
transaction writes the whole record back; only the number of a new campaign and the list of
changesets come from inside. So whatever has become of the stored record in between is lost.
-/

namespace BatchChanges

namespace Application

variable {application : Application} {visible : Visibility} {spec : CampaignSpec}
  {campaign applied : Campaign} {existing : Option Campaign} {now : Time} {backend next : Backend}

theorem readSpec_ok (done : Access.Ends application.readSpec backend (.ok spec) next) :
    backend.store.campaignSpecByRandId? application.randId = some spec ∧
      application.actor.mayActFor spec.userId = true := by
  simp only [readSpec, Access.ends_bind_ok, Access.ends_wrapping_ok] at done
  obtain ⟨found, middle, read, rest⟩ := done
  obtain ⟨rfl, -⟩ := Access.call_read_ok read
  split at rest
  · obtain ⟨nothing, -⟩ := Access.ends_throw.mp rest
    cases nothing
  · next stored known =>
    split at rest
    · next allowed =>
      obtain ⟨rfl, -⟩ := Access.ends_pure_ok.mp rest
      exact ⟨known, allowed⟩
    · obtain ⟨nothing, -⟩ := Access.ends_throw.mp rest
      cases nothing

theorem readCampaign_ok
    (done : Access.Ends (application.readCampaign spec) backend (.ok existing) next) :
    backend.store.campaignByName? spec.space spec.name = existing ∧
      application.refusal? existing = none := by
  simp only [readCampaign, Access.ends_bind_ok, Access.ends_wrapping_ok] at done
  obtain ⟨found, middle, read, rest⟩ := done
  obtain ⟨rfl, -⟩ := Access.call_read_ok read
  split at rest
  · obtain ⟨nothing, -⟩ := Access.ends_throw.mp rest
    cases nothing
  · next accepted =>
    obtain ⟨rfl, -⟩ := Access.ends_pure_ok.mp rest
    exact ⟨rfl, accepted⟩

/-- A campaign that was accepted was open when it was read. -/
theorem isClosed_of_refusal? (accepted : application.refusal? (some campaign) = none) :
    campaign.isClosed = false := by
  rw [← Bool.not_eq_true]
  intro closed
  simp only [refusal?, refusal?.closed?, Option.filter_some, closed, if_true, Option.map_some]
    at accepted
  split_ifs at accepted
  split at accepted
  · split_ifs at accepted
  · cases accepted

/-- So is the record that the application is going to write. -/
theorem isClosed_revised (accepted : application.refusal? existing = none) :
    (application.revised spec existing now).isClosed = false := by
  cases existing with
  | none => rfl
  | some campaign =>
    have still := isClosed_of_refusal? accepted
    exact still

private theorem record_of_write {changesets : List Changeset}
    (done : Access.Ends (write campaign changesets) backend (.ok applied) next) :
    applied = { campaign with changesetIds := applied.changesetIds } := by
  induction changesets generalizing campaign backend with
  | nil =>
    obtain ⟨rfl, -⟩ := Access.ends_pure_ok.mp done
    rfl
  | cons changeset rest ih =>
    simp only [write, Access.ends_bind_ok] at done
    obtain ⟨stored, middle, -, others⟩ := done
    split at others
    · have record := ih others
      exact record
    · exact ih others

private theorem record_of_rewires {actor : Actor} {spec : CampaignSpecId}
    (numbered : backend.store.Numbered)
    (rewires : Rewires visible actor spec campaign now backend applied next) :
    applied = { campaign with changesetIds := applied.changesetIds } ∧
      ∃ before, backend.store.campaigns.find? campaign.id = some before := by
  obtain ⟨same, -, -, -, deleted, wrote, updated⟩ := rewires
  have record := record_of_write wrote
  obtain ⟨before, found⟩ := (Access.updateCampaign_ok updated).1
  obtain ⟨kept, -⟩ := delete_ok deleted
  obtain ⟨writes, -, -⟩ := write_ok (numbered_of_delete deleted (same ▸ numbered)) wrote
  refine ⟨record, before, ?_⟩
  rw [record, writes.campaigns, kept, same] at found
  exact found

/-- The transaction writes the record that it was given. It is the record of a stored campaign, or
of one that gets a new number. -/
theorem record_of_transact (numbered : backend.store.Numbered)
    (done : Access.Ends (application.transact visible spec campaign now) backend (.ok applied)
      next) :
    applied = { campaign with id := applied.id, changesetIds := applied.changesetIds } ∧
      ((∃ before, backend.store.campaigns.find? campaign.id = some before) ∧
          applied.id = campaign.id ∨
        campaign.id.isUnsaved = true ∧ backend.store.lastId < applied.id.value) := by
  obtain ⟨saved, fresh, -⟩ := transact_ok numbered done
  obtain ⟨first, last, same, -, rewired⟩ := rewire_of_transact done
  rw [rewire_eq, Access.ends_bind_ok] at rewired
  rw [← same] at numbered
  obtain ⟨stored, middle, created, rest⟩ := rewired
  split at created
  · next unsaved =>
    rw [Access.ends_wrapping_ok] at created
    have numberedMiddle := Access.numbered_of_createCampaign created numbered
    obtain ⟨record, -⟩ :=
      record_of_rewires numberedMiddle (rewires_of_rewireStored numberedMiddle rest)
    refine ⟨?_, .inr ⟨unsaved, fresh unsaved⟩⟩
    have given := Access.call_ok created
    simp only [Store.insertCampaign] at given
    split_ifs at given
    simp only [Except.ok.injEq, Prod.mk.injEq] at given
    obtain ⟨rfl, -⟩ := given
    rw [record]
  · next known =>
    obtain ⟨rfl, rfl⟩ := Access.ends_pure_ok.mp created
    obtain ⟨record, before, found⟩ :=
      record_of_rewires numbered (rewires_of_rewireStored numbered rest)
    have same' := saved (Bool.eq_false_iff.mpr known)
    refine ⟨?_, .inl ⟨⟨before, same ▸ found⟩, same'⟩⟩
    rw [same']
    exact record

/-- An application that succeeds finds its campaign at the spec already and changes nothing, or its
transaction succeeds, after changesets were canceled. -/
theorem run_ok (done : Access.Ends (application.run visible now) backend (.ok applied) next) :
    ∃ spec existing, backend.store.campaignSpecByRandId? application.randId = some spec ∧
      application.refusal? existing = none ∧
      backend.store.campaignByName? spec.space spec.name = existing ∧
      (existing = some applied ∧ applied.campaignSpecId = spec.id ∧
          next.store = backend.store ∨
        ∃ middle, (middle.store = backend.store ∨
            ∃ campaign, middle.store = (backend.store.cancelQueued campaign).2) ∧
          Access.Ends (application.transact visible spec (application.revised spec existing now)
            now) middle (.ok applied) next) := by
  rw [run, Access.ends_bind_ok] at done
  obtain ⟨spec, first, readSpec, done⟩ := done
  rw [Access.ends_bind_ok] at done
  obtain ⟨existing, second, read, done⟩ := done
  have sameSpec := readSpec_store readSpec
  obtain ⟨found, accepted⟩ := readCampaign_ok read
  have same : second.store = backend.store := (readCampaign_store read).trans sameSpec
  refine ⟨spec, existing, (readSpec_ok readSpec).1, accepted, sameSpec ▸ found, ?_⟩
  split at done
  · next campaign already =>
    obtain ⟨rfl, rfl⟩ := Access.ends_pure_ok.mp done
    obtain ⟨known, here⟩ := Option.filter_eq_some_iff.mp already
    exact .inl ⟨known, beq_iff_eq.mp here, same⟩
  · rw [Access.ends_bind_ok] at done
    obtain ⟨⟨⟩, third, canceled, done⟩ := done
    refine .inr ⟨third, ?_, done⟩
    rcases cancel_store canceled with canceled | kept
    · exact .inr ⟨_, same ▸ canceled⟩
    · exact .inl (kept.trans same)

end Application

end BatchChanges
