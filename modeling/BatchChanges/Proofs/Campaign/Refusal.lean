import BatchChanges.Proofs.Campaign.Record

/-! # Why an application fails

An application is refused before it changes anything: its spec is missing, its actor may not apply
it, or a condition of the caller is not met. Whatever fails later is a failure of the store, or a
row that the transaction misses. Among the former is that the campaign to be created exists by now:
the store keeps names apart, even if nobody had the name when the application looked.
-/

namespace BatchChanges

namespace Access

variable {ε δ α β : Type} {errors : ε → Prop}

/-- All failures of an activity are of some kinds. -/
def Fails (errors : ε → Prop) (activity : Access ε α) : Prop :=
  ∀ ⦃backend error next⦄, Ends activity backend (.error error) next → errors error

private theorem fails_pure (given : α) : Fails errors (pure given : Access ε α) := by
  intro backend error next ended
  cases ended

private theorem fails_mk_pure {computed : Except ε α}
    (only : ∀ error, computed = .error error → errors error) :
    Fails errors (ExceptT.mk (pure computed)) := by
  intro backend error next ended
  exact only error (congrArg Prod.fst ended)

private theorem fails_wrapping {wrap : δ → ε} (only : ∀ cause, errors (wrap cause))
    (activity : Access δ α) : Fails errors (wrapping wrap activity) := by
  intro backend error next ended
  obtain ⟨cause, rfl, -⟩ := ends_wrapping_error.mp ended
  exact only cause

private theorem fails_bind {first : Access ε α} {second : α → Access ε β}
    (before : Fails errors first) (after : ∀ value, Fails errors (second value)) :
    Fails errors (first >>= second) := by
  intro backend error next ended
  rcases ends_bind.mp ended with ⟨value, middle, -, rest⟩ | ⟨cause, same, failed⟩
  · exact after value rest
  · cases same
    exact before failed

end Access

namespace CampaignError

/-- Whether an application is refused: its spec is missing, its actor may not apply it, or a
condition of the caller is not met. -/
def isRefusal : CampaignError → Bool
  | campaignSpecNotFound _ | unauthorized _ => true
  | error => error.isGuard

end CampaignError

private theorem Mapping.take_not_refused {kind : Kind} {α : Type}
    {missing : Id kind → CampaignError} (missed : ∀ id, (missing id).isRefusal = false)
    {table : Table kind α} {id : Option (Id kind)} {error : CampaignError}
    (failed : take missing table id = .error error) : error.isRefusal = false := by
  cases id with
  | none => cases failed
  | some id =>
    simp only [take] at failed
    split at failed
    · cases failed
    · cases failed
      exact missed id

private theorem Mapping.ofRows_not_refused {repos : Table .repo Repo}
    {changesets : Table .changeset Changeset} {specs : Table .changesetSpec ChangesetSpec}
    {rows : List MappingRow} {error : CampaignError}
    (failed : ofRows repos changesets specs rows = .error error) : error.isRefusal = false := by
  induction rows generalizing changesets specs with
  | nil => cases failed
  | cons row rest ih =>
    simp only [ofRows, bind, Except.bind] at failed
    split at failed
    · next missing =>
      cases failed
      exact take_not_refused (fun _ => rfl) missing
    · split at failed
      · next missing =>
        cases failed
        exact take_not_refused (fun _ => rfl) missing
      · split at failed
        · next others =>
          cases failed
          exact ih others
        · cases failed

private theorem Placement.ofMappings_eq_error {campaign : CampaignId} {now : Time}
    {mappings : List Mapping} {error : CampaignError}
    (failed : ofMappings campaign now mappings = .error error) :
    ∃ repoId, error = .repoNotFound repoId := by
  induction mappings with
  | nil => cases failed
  | cons mapping rest ih =>
    simp only [ofMappings, bind, Except.bind] at failed
    split at failed
    · next missing =>
      cases failed
      simp only [ofMapping] at missing
      split at missing <;> cases missing
      exact ⟨_, rfl⟩
    · split at failed
      · next others =>
        cases failed
        exact ih others
      · cases failed

theorem Campaign.rewire_eq_error {campaign : Campaign} {now : Time} {mappings : List Mapping}
    {error : CampaignError} (failed : campaign.rewire now mappings = .error error) :
    ∃ repoId, error = .repoNotFound repoId := by
  simp only [Campaign.rewire, bind, Except.bind] at failed
  split at failed
  · next missing =>
    cases failed
    exact Placement.ofMappings_eq_error missing
  · cases failed

namespace Store

/-- Another campaign is in the way if it has the namespace and the name. -/
theorem isDuplicate_iff {store : Store} {campaign : Campaign} :
    store.isDuplicate campaign = true ↔ ∃ id other, store.campaigns.find? id = some other ∧
      other.space = campaign.space ∧ other.name = campaign.name ∧ other.id ≠ campaign.id := by
  simp only [isDuplicate, List.any_eq_true, Bool.and_eq_true, beq_iff_eq, bne_iff_ne]
  constructor
  · rintro ⟨other, member, ⟨space, name⟩, apart⟩
    obtain ⟨id, found⟩ := Table.mem_rows_iff.mp member
    exact ⟨id, other, found, space, name, apart⟩
  · rintro ⟨id, other, found, space, name, apart⟩
    exact ⟨other, Table.mem_rows_iff.mpr ⟨id, found⟩, ⟨space, name⟩, apart⟩

end Store

namespace Application

open Access

variable {application : Application} {visible : Visibility} {spec : CampaignSpec}
  {campaign applied : Campaign} {now : Time} {backend next : Backend} {error : CampaignError}
  {result : Except CampaignError Campaign}

private theorem rewire_not_refused (application : Application) (visible : Visibility)
    (spec : CampaignSpec) (campaign : Campaign) (now : Time) :
    Fails (fun error => error.isRefusal = false)
      (application.rewire visible spec campaign now) := by
  have stored : ∀ cause, (CampaignError.store cause).isRefusal = false := fun _ => rfl
  rw [rewire_eq]
  refine fails_bind ?_ fun campaign => ?_
  · split
    · exact fails_wrapping stored _
    · exact fails_pure campaign
  · refine fails_bind (fails_wrapping stored _) fun rows => ?_
    refine fails_bind ?_ fun mappings => ?_
    · refine fails_bind (fails_wrapping stored _) fun changesets => ?_
      refine fails_bind (fails_wrapping stored _) fun specs => ?_
      refine fails_bind (fails_wrapping stored _) fun repos => ?_
      exact fails_mk_pure fun _ => Mapping.ofRows_not_refused
    · refine fails_bind (fails_mk_pure fun _ failed => ?_) fun rewiring => ?_
      · obtain ⟨_, rfl⟩ := Campaign.rewire_eq_error failed
        rfl
      refine fails_bind (fails_wrapping stored _) fun _ => ?_
      refine fails_bind (fails_wrapping stored _) fun written => ?_
      exact fails_bind (fails_wrapping stored _) fun _ => fails_pure written

/-- A transaction that fails is struck by a failure of the store, or fails inside. -/
theorem rewire_of_failed
    (failed : Ends (application.transact visible spec campaign now) backend (.error error) next) :
    (∃ detail, error = .store (.backend detail)) ∨ ∃ first last, first.store = backend.store ∧
      Ends (application.rewire visible spec campaign now) first (.error error) last := by
  rw [transact, ends_bind] at failed
  rcases failed with ⟨before, first, begun, rest⟩ | ⟨_, same, failed⟩
  · obtain ⟨-, same⟩ := begin_ok (ends_wrapping_ok.mp begun)
    rw [ends_bind] at rest
    rcases rest with ⟨tried, second, attempted, ended⟩ | ⟨_, -, failed⟩
    · obtain ⟨outcome, told, rewired⟩ := ends_attempt.mp attempted
      cases told
      cases tried with
      | ok rewiredCampaign =>
        rw [ends_bind] at ended
        rcases ended with ⟨⟨⟩, third, committed, returned⟩ | ⟨_, same, failed⟩
        · cases returned
        · cases same
          obtain ⟨cause, rfl, struck⟩ := ends_wrapping_error.mp failed
          obtain ⟨detail, -, rfl⟩ := commit_struck struck
          exact .inl ⟨detail, rfl⟩
      | error cause =>
        rw [ends_bind] at ended
        rcases ended with ⟨undone, third, rolledBack, thrown⟩ | ⟨_, -, failed⟩
        · obtain ⟨same', -⟩ := ends_throw.mp thrown
          cases same'
          exact .inr ⟨first, second, same, rewired⟩
        · obtain ⟨_, told, -⟩ := ends_attempt.mp failed
          cases told
    · obtain ⟨_, told, -⟩ := ends_attempt.mp failed
      cases told
  · cases same
    obtain ⟨detail, -, rfl⟩ := wrapped_read_struck failed
    exact .inl ⟨detail, rfl⟩

/-- No application is refused in its transaction. -/
theorem transact_not_refused
    (failed : Ends (application.transact visible spec campaign now) backend (.error error) next) :
    error.isRefusal = false := by
  rcases rewire_of_failed failed with ⟨detail, rfl⟩ | ⟨first, last, -, rewired⟩
  · rfl
  · exact rewire_not_refused application visible spec campaign now rewired

/-- A campaign is not created a second time. -/
theorem rewire_of_duplicate (unsaved : campaign.id.isUnsaved = true)
    (duplicate : backend.store.isDuplicate campaign = true)
    (done : Ends (application.rewire visible spec campaign now) backend result next) :
    ∃ cause, result = .error (.store cause) := by
  rw [rewire_eq, if_pos unsaved, ends_bind] at done
  rcases done with ⟨created, middle, inserted, -⟩ | ⟨error, rfl, failed⟩
  · have reached := call_ok (ends_wrapping_ok.mp inserted)
    simp only [Store.insertCampaign, duplicate, if_true, reduceCtorEq] at reached
  · obtain ⟨cause, rfl, -⟩ := ends_wrapping_error.mp failed
    exact ⟨cause, rfl⟩

/-- So an application that wants to create it fails with a failure of the store. -/
theorem transact_of_duplicate (unsaved : campaign.id.isUnsaved = true)
    (duplicate : backend.store.isDuplicate campaign = true)
    (done : Ends (application.transact visible spec campaign now) backend result next) :
    ∃ cause, result = .error (.store cause) := by
  cases result with
  | ok applied =>
    obtain ⟨first, last, same, -, rewired⟩ := rewire_of_transact done
    obtain ⟨cause, refused⟩ := rewire_of_duplicate unsaved (same ▸ duplicate) rewired
    cases refused
  | error error =>
    rcases rewire_of_failed done with ⟨detail, rfl⟩ | ⟨first, last, same, rewired⟩
    · exact ⟨.backend detail, rfl⟩
    · obtain ⟨cause, refused⟩ := rewire_of_duplicate unsaved (same ▸ duplicate) rewired
      cases refused
      exact ⟨cause, rfl⟩

end Application

end BatchChanges
