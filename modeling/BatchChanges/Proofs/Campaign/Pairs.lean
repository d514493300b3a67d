import BatchChanges.Proofs.Campaign.Coverage

/-! # Specs and the changesets that they are paired with

Every spec of a generation is paired once, with a changeset or with none, and no changeset is paired
twice. That a spec is about a changeset and is not paired with it means that an earlier spec has
taken the changeset.
-/

namespace BatchChanges

namespace Store

variable {store : Store} {campaign : CampaignId} {campaignSpec : CampaignSpecId}
  {taken : IdSet .changeset} {specs : List ChangesetSpec} {spec : ChangesetSpec} {row : Changeset}

/-- Every spec is paired, in the order of the specs. -/
theorem map_fst_pairings (store : Store) (campaign : CampaignId) (taken : IdSet .changeset)
    (specs : List ChangesetSpec) :
    (store.pairings campaign taken specs).map Prod.fst = specs := by
  induction specs generalizing taken with
  | nil => rfl
  | cons first rest ih =>
    simp only [pairings]
    split <;> rw [List.map_cons, ih]

/-- Whoever a spec is about and is not paired with is taken, before or by a spec that comes
first. -/
theorem earlier_of_unpaired (member : row ∈ store.changesets.rows)
    (about : store.isAbout campaign spec row = true)
    (unpaired : (spec, none) ∈ store.pairings campaign taken specs) :
    taken.contains row.id = true ∨ ∃ other chosen, chosen.id = row.id ∧
      [(other, some chosen), (spec, none)].Sublist (store.pairings campaign taken specs) := by
  induction specs generalizing taken with
  | nil => cases unpaired
  | cons first rest ih =>
    simp only [pairings] at unpaired ⊢
    split at unpaired
    · next chosen found =>
      rcases List.mem_cons.mp unpaired with same | later
      · cases same
      · rcases ih later with before | ⟨other, partner, same, paired⟩
        · rw [IdSet.contains_add, Bool.or_eq_true, decide_eq_true_iff] at before
          rcases before with here | before
          · exact .inr ⟨first, chosen, here, (List.singleton_sublist.mpr later).cons_cons _⟩
          · exact .inl before
        · exact .inr ⟨other, partner, same, paired.cons _⟩
    · next nothing =>
      rcases List.mem_cons.mp unpaired with same | later
      · cases same
        have passed := List.find?_eq_none.mp nothing row member
        rw [about, Bool.and_true, Bool.not_eq_true', Bool.not_eq_false] at passed
        exact .inl passed
      · rcases ih later with before | ⟨other, partner, same, paired⟩
        · exact .inl before
        · exact .inr ⟨other, partner, same, paired.cons _⟩

theorem taken_of_unpaired (member : row ∈ store.changesets.rows)
    (about : store.isAbout campaign spec row = true)
    (unpaired : (spec, none) ∈ store.pairings campaign taken specs) :
    taken.contains row.id = true ∨ ∃ other chosen,
      (other, some chosen) ∈ store.pairings campaign taken specs ∧ chosen.id = row.id := by
  rcases earlier_of_unpaired member about unpaired with before | ⟨other, chosen, same, paired⟩
  · exact .inl before
  · exact .inr ⟨other, chosen, paired.subset List.mem_cons_self, same⟩

/-- No changeset is paired that was taken before, and none is paired twice. -/
theorem nodup_pairings (store : Store) (campaign : CampaignId) (taken : IdSet .changeset)
    (specs : List ChangesetSpec) :
    ((store.pairings campaign taken specs).filterMap fun pair => pair.2.map (·.id)).Nodup ∧
      ∀ pair ∈ store.pairings campaign taken specs, ∀ chosen, pair.2 = some chosen →
        taken.contains chosen.id = false := by
  induction specs generalizing taken with
  | nil => exact ⟨List.nodup_nil, fun _ member => absurd member List.not_mem_nil⟩
  | cons first rest ih =>
    simp only [pairings]
    split
    · next chosen found =>
      obtain ⟨distinct, free⟩ := ih (taken.add chosen.id)
      have untaken := List.find?_some found
      rw [Bool.and_eq_true, Bool.not_eq_true'] at untaken
      refine ⟨?_, List.forall_mem_cons.mpr ⟨?_, fun pair member other paired => ?_⟩⟩
      · rw [List.filterMap_cons, Option.map_some, List.nodup_cons]
        refine ⟨fun again => ?_, distinct⟩
        obtain ⟨pair, member, named⟩ := List.mem_filterMap.mp again
        obtain ⟨other, paired, same⟩ := Option.map_eq_some_iff.mp named
        have apart := free pair member other paired
        rw [same, IdSet.contains_add, decide_eq_true rfl] at apart
        cases apart
      · rintro _ ⟨⟩
        exact untaken.1
      · have apart := free pair member other paired
        rw [IdSet.contains_add, Bool.or_eq_false_iff] at apart
        exact apart.2
    · obtain ⟨distinct, free⟩ := ih taken
      refine ⟨?_, List.forall_mem_cons.mpr ⟨?_, free⟩⟩
      · rwa [List.filterMap_cons, Option.map_none]
      · rintro _ ⟨⟩

/-- The specs of a campaign spec are listed in the order of their numbers. -/
theorem Numbered.ascending_specsOf (numbered : store.Numbered) (campaignSpec : CampaignSpecId) :
    (store.specsOf campaignSpec).Pairwise fun first second => first.id < second.id := by
  have specs : store.changesetSpecs.rows.Pairwise fun first second => first.id < second.id := by
    refine List.pairwise_map.mpr (store.changesetSpecs.ascending.imp_of_mem ?_)
    rintro ⟨id, first⟩ ⟨other, second⟩ member later less
    rw [← Table.find?_eq_some_iff] at member later
    rw [(numbered.changesetSpecs member).1, (numbered.changesetSpecs later).1]
    exact less
  exact specs.filter _

theorem Numbered.ascending_pairs (numbered : store.Numbered) (campaignSpec : CampaignSpecId)
    (campaign : CampaignId) : (store.pairs campaignSpec campaign).Pairwise fun first second =>
      first.1.id < second.1.id := by
  have specs := numbered.ascending_specsOf campaignSpec
  rw [← store.map_fst_pairings campaign ∅ (store.specsOf campaignSpec)] at specs
  exact (List.pairwise_map (f := Prod.fst)).mp specs

/-- The specs of a campaign spec have different numbers. -/
theorem Numbered.pairwise_pairs (numbered : store.Numbered) (campaignSpec : CampaignSpecId)
    (campaign : CampaignId) : (store.pairs campaignSpec campaign).Pairwise fun first second =>
      first.1.id ≠ second.1.id :=
  (numbered.ascending_pairs campaignSpec campaign).imp Id.ne_of_lt

/-- A spec is paired once. -/
theorem Numbered.partner_unique (numbered : store.Numbered) {first second : Option Changeset}
    (one : (spec, first) ∈ store.pairs campaignSpec campaign)
    (two : (spec, second) ∈ store.pairs campaignSpec campaign) : first = second := by
  by_contra other
  have : Std.Symm fun first second : ChangesetSpec × Option Changeset =>
      first.1.id ≠ second.1.id := ⟨fun _ _ => Ne.symm⟩
  exact (numbered.pairwise_pairs campaignSpec campaign).forall one two
    (fun same => other (congrArg Prod.snd same)) rfl

/-- So no two mapping rows name a spec. -/
theorem Numbered.pairwise_mappingRows (numbered : store.Numbered) (campaignSpec : CampaignSpecId)
    (campaign : CampaignId) : (store.mappingRows campaignSpec campaign).Pairwise fun first second =>
      ∀ id, first.specId = some id → second.specId ≠ some id := by
  refine List.pairwise_append.mpr ⟨?_, ?_, ?_⟩
  · refine List.pairwise_map.mpr ((numbered.pairwise_pairs campaignSpec campaign).imp ?_)
    rintro first second other id ⟨⟩ same
    exact other (Option.some.inj same).symm
  · refine List.pairwise_map.mpr (List.pairwise_of_forall ?_)
    rintro first second id ⟨⟩
  · intro first member second later id named same
    obtain ⟨changeset, -, rfl⟩ := List.mem_map.mp later
    cases same

end Store

end BatchChanges
