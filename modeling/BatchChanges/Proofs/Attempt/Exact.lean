import BatchChanges.Proofs.Attempt.Draft
import Mathlib.Tactic.SplitIfs

/-! # When a plan holds which operation

Three rules come before the specs: a merged pull request, one that is to be closed, and one that is
closed although its campaign holds it. To all other changesets the branch pushes decide. Then
nothing but a missing branch push makes planning fail, and what is done about an open pull request
is, part by part, what differs between the former branch push and the one that applies now.

The rule that reopens asks for the campaign, and no later rule does. So a closed pull request that
its campaign does not hold any more falls to the specs like an open one: it is not reopened, but it
is edited and pushed to as far as they differ.
-/

namespace BatchChanges

/-- None of the rules that come before the specs is about the changeset. -/
structure Changeset.LeftToSpecs (row : Changeset) : Prop where
  unmerged : row.isMerged = false
  wanted : row.closing = false
  unheld : ¬(row.externalState = some .closed ∧ row.isOwnedAndAttached = true)

/-- Two branch pushes ask for the same pull request from the same commit, and none that was a draft
is to be ready. -/
structure BranchPush.Agrees (former push : BranchPush) : Prop where
  title : former.title = push.title
  body : former.body = push.body
  baseRef : former.baseRef = push.baseRef
  diff : former.commit.diff = push.commit.diff
  message : former.commit.message = push.commit.message
  authorName : former.commit.authorName = push.commit.authorName
  authorEmail : former.commit.authorEmail = push.commit.authorEmail
  unreadied : ¬(former.published = .draft ∧ push.published = .published)

namespace SpecDelta

variable {delta : SpecDelta} {former push : BranchPush}

private theorem isEmpty_iff_changedFields : delta.isEmpty = true ↔ delta.changedFields = [] := by
  simp [isEmpty, needsUpdate, needsPush, changedFields, parts, and_assoc]

/-- Nothing has changed between two branch pushes exactly if they agree. -/
theorem isEmpty_compare_iff : (compare former push).isEmpty = true ↔ former.Agrees push := by
  simp only [isEmpty, needsUpdate, needsPush, compare, PublishIntent.isDraft,
    PublishIntent.isPublished, Bool.and_eq_true, Bool.not_eq_true', Bool.or_eq_false_iff,
    bne_eq_false_iff_eq, Bool.and_eq_false_iff, beq_eq_false_iff_ne]
  constructor
  · rintro ⟨⟨⟨⟨title, body⟩, baseRef⟩, ⟨⟨diff, message⟩, authorName⟩, authorEmail⟩, unreadied⟩
    exact ⟨title, body, baseRef, diff, message, authorName, authorEmail, not_and_or.mpr unreadied⟩
  · rintro ⟨title, body, baseRef, diff, message, authorName, authorEmail, unreadied⟩
    exact ⟨⟨⟨⟨title, body⟩, baseRef⟩, ⟨⟨diff, message⟩, authorName⟩, authorEmail⟩,
      not_and_or.mp unreadied⟩

end SpecDelta

namespace Plan

variable {previous current : Option BranchPush} {former push : BranchPush} {row : Changeset}
  {plan : Plan} {delta : SpecDelta} {cause : MissingCurrentSpec}

private theorem update_mem_changing_iff : .update ∈ changing delta ↔ delta.needsUpdate = true := by
  simp only [changing, List.mem_append]
  cases delta.undraft <;> cases delta.needsUpdate <;> cases delta.needsPush <;> decide

private theorem suffix_changing_iff :
    [.push, .sleep, .sync] <:+ changing delta ↔ delta.needsPush = true := by
  simp only [changing]
  cases delta.undraft <;> cases delta.needsUpdate <;> cases delta.needsPush <;> decide

private theorem changing_eq_nil_iff : changing delta = [] ↔ delta.isEmpty = true := by
  simp only [changing, SpecDelta.isEmpty]
  cases delta.undraft <;> cases delta.needsUpdate <;> cases delta.needsPush <;> decide

/-- A draft is marked as ready first, then the text is edited, then the commit is pushed. -/
theorem changing_split (delta : SpecDelta) :
    ∃ readied ∈ [[], [.undraft]], ∃ edited ∈ [[], [.update]],
      ∃ pushed ∈ [[], [.push, .sleep, .sync]], changing delta = readied ++ edited ++ pushed := by
  have some_or_none (wanted : Bool) (operations : List Operation) :
      (if wanted then operations else []) ∈ [[], operations] := by
    cases wanted <;> simp
  exact ⟨_, some_or_none _ _, _, some_or_none _ _, _, some_or_none _ _, rfl⟩

/-- Planning fails for a changeset that is left to its specs and has an owner but no branch push. -/
theorem between_eq_error_iff :
    between previous current row = .error cause ↔
      row.LeftToSpecs ∧ row.ownerId.isSome = true ∧ current = none ∧ cause = ⟨row.id⟩ := by
  constructor
  · intro failed
    cases current with
    | some push =>
      cases stage : row.publication <;> simp only [between, stage] at failed <;>
        split_ifs at failed
    | none =>
      simp only [between] at failed
      split_ifs at failed with merged closing closed owned unsynced
      cases failed
      simp only [Bool.and_eq_true, beq_iff_eq] at closed
      exact ⟨⟨Bool.eq_false_iff.mpr merged, Bool.eq_false_iff.mpr closing, closed⟩, owned, rfl, rfl⟩
  · rintro ⟨left, owned, rfl, rfl⟩
    simp [between, left.unmerged, left.wanted, left.unheld, owned]

/-- About an open pull request the two branch pushes decide. -/
theorem between_of_published (left : row.LeftToSpecs) (published : row.publication = .published)
    (previous : Option BranchPush) (push : BranchPush) :
    between previous (some push) row =
      .ok { operations := changing (deltaOf previous push), delta := deltaOf previous push } := by
  simp [between, left.unmerged, left.wanted, left.unheld, published, deltaOf]

/-- Each change of an open pull request is planned exactly if it is needed. -/
structure Changes (former push : BranchPush) (plan : Plan) : Prop where
  updates : .update ∈ plan.operations ↔
    former.title ≠ push.title ∨ former.body ≠ push.body ∨ former.baseRef ≠ push.baseRef
  pushes : [.push, .sleep, .sync] <:+ plan.operations ↔
    former.commit.diff ≠ push.commit.diff ∨ former.commit.message ≠ push.commit.message ∨
      former.commit.authorName ≠ push.commit.authorName ∨
      former.commit.authorEmail ≠ push.commit.authorEmail
  readies : .undraft ∈ plan.operations ↔ former.published = .draft ∧ push.published = .published
  nothing : plan.operations = [] ↔ former.Agrees push
  unchanged : plan.operations = [] ↔ plan.delta.changedFields = []

private theorem changes_of_published (left : row.LeftToSpecs)
    (published : row.publication = .published)
    (planned : between (some former) (some push) row = .ok plan) : Changes former push plan := by
  rw [between_of_published left published] at planned
  cases planned
  exact {
    updates := update_mem_changing_iff.trans (by
      simp [deltaOf, SpecDelta.needsUpdate, SpecDelta.compare, or_assoc])
    pushes := suffix_changing_iff.trans (by
      simp [deltaOf, SpecDelta.needsPush, SpecDelta.compare, or_assoc])
    readies := undraft_mem_changing_iff.trans (by simp [undraft_deltaOf_iff])
    nothing := changing_eq_nil_iff.trans SpecDelta.isEmpty_compare_iff
    unchanged := changing_eq_nil_iff.trans SpecDelta.isEmpty_iff_changedFields }

/-- What comes of planning between two branch pushes. -/
structure Exact (previous current : Option BranchPush) (row : Changeset)
    (result : Except MissingCurrentSpec Plan) : Prop where
  fails : (∃ cause, result = .error cause) ↔
    row.LeftToSpecs ∧ row.ownerId.isSome = true ∧ current = none
  shape {plan : Plan} (planned : result = .ok plan) :
    plan.operations ∈
        [[], [.close], [.reopen], [.sync], [.push, .publish], [.push, .publishDraft]] ∨
      row.publication = .published ∧
        ∃ readied ∈ [[], [.undraft]], ∃ edited ∈ [[], [.update]],
          ∃ pushed ∈ [[], [.push, .sleep, .sync]], plan.operations = readied ++ edited ++ pushed
  /-- Only what was not opened yet is opened. -/
  opens {plan : Plan} (planned : result = .ok plan)
    (opening : .publish ∈ plan.operations ∨ .publishDraft ∈ plan.operations) :
    row.publication = .unpublished
  drafts {plan : Plan} (planned : result = .ok plan) (opening : .publishDraft ∈ plan.operations) :
    row.codeHost.supportsDrafts = true
  changes {plan : Plan} {former push : BranchPush} (planned : result = .ok plan)
    (left : row.LeftToSpecs) (published : row.publication = .published)
    (formerly : previous = some former) (latterly : current = some push) : Changes former push plan

private theorem opening_mem (intent : PublishIntent) (host : CodeHost) :
    opening intent host ∈ [[], [.push, .publish], [.push, .publishDraft]] := by
  cases intent <;> cases host <;> decide

private theorem supportsDrafts_of_mem_opening {intent : PublishIntent} {host : CodeHost}
    (member : .publishDraft ∈ opening intent host) : host.supportsDrafts = true := by
  revert member
  cases intent <;> cases host <;> decide

/-- A plan is one of a few, or says of an open pull request, part by part, what has to change. -/
theorem Decides.shape (decides : Decides previous current row plan) :
    plan.operations ∈
        [[], [.close], [.reopen], [.sync], [.push, .publish], [.push, .publishDraft]] ∨
      row.publication = .published ∧
        ∃ readied ∈ [[], [.undraft]], ∃ edited ∈ [[], [.update]],
          ∃ pushed ∈ [[], [.push, .sleep, .sync]], plan.operations = readied ++ edited ++ pushed := by
  cases decides with
  | merged merged => exact .inl (by decide)
  | closing closing => exact .inl (by decide)
  | reopening closed held => exact .inl (by decide)
  | loading pushless unsynced => exact .inl (by decide)
  | tracking pushless => exact .inl (by decide)
  | @opening push pushes unpublished =>
    have few := opening_mem push.published row.codeHost
    exact .inl ((show ([[], [.push, .publish], [.push, .publishDraft]] : List (List Operation)) ⊆
      [[], [.close], [.reopen], [.sync], [.push, .publish], [.push, .publishDraft]] by decide) few)
  | changing pushes published differs => exact .inr ⟨published, changing_split _⟩

private theorem Decides.supportsDrafts (decides : Decides previous current row plan)
    (member : .publishDraft ∈ plan.operations) : row.codeHost.supportsDrafts = true := by
  obtain ⟨push, -, operations⟩ := decides.opening_of_mem member rfl
  rw [operations] at member
  exact supportsDrafts_of_mem_opening member

/-- Planning fails, does nothing and does each single thing exactly when it has to. -/
theorem between_exact (previous current : Option BranchPush) (row : Changeset) :
    Exact previous current row (between previous current row) where
  fails := by
    simp only [between_eq_error_iff]
    exact ⟨fun ⟨_, left, owned, absent, _⟩ => ⟨left, owned, absent⟩,
      fun ⟨left, owned, absent⟩ => ⟨_, left, owned, absent, rfl⟩⟩
  shape planned := (decides_of_between planned).shape
  opens planned opening := by
    rcases opening with member | member
    · exact (decides_of_between planned).unpublished member rfl
    · exact (decides_of_between planned).unpublished member rfl
  drafts planned opening := (decides_of_between planned).supportsDrafts opening
  changes planned left published formerly latterly := by
    subst formerly latterly
    exact changes_of_published left published planned

/-- A closed pull request whose campaign does not hold it any more is neither reopened nor closed
nor opened anew. It is changed like an open one, and nothing is done exactly if there is no former
branch push to compare with or the two agree. -/
theorem detached_left_closed {owner : CampaignId} (published : row.publication = .published)
    (closed : row.externalState = some .closed) (owned : row.ownerId = some owner)
    (detached : row.isAttachedTo owner = false) (wanted : row.closing = false)
    (planned : between previous current row = .ok plan) :
    (∀ operation ∈ plan.operations, operation ∈ [.undraft, .update, .push, .sleep, .sync]) ∧
      (plan.operations = [] ↔
        ∀ former push, previous = some former → current = some push → former.Agrees push) := by
  have unmerged : row.isMerged = false := by
    rw [Changeset.isMerged, closed]
    rfl
  have unheld : row.isOwnedAndAttached = false := by
    rw [Changeset.isOwnedAndAttached, owned]
    exact detached
  have left : row.LeftToSpecs := ⟨unmerged, wanted, by simp [unheld]⟩
  cases current with
  | none =>
    have failed : between previous none row = .error ⟨row.id⟩ :=
      between_eq_error_iff.mpr ⟨left, by rw [owned, Option.isSome_some], rfl, rfl⟩
    cases planned.symm.trans failed
  | some push =>
    have made := planned
    rw [between_of_published left published] at made
    cases made
    refine ⟨fun operation member => (changing_sublist _).subset member, ?_⟩
    cases previous with
    | none =>
      refine ⟨fun _ former push formerly => ?_, fun _ => rfl⟩
      cases formerly
    | some former =>
      have nothing := (changes_of_published left published planned).nothing
      exact nothing.trans (by simp)

namespace Sample

def titled (title : String) : BranchPush where
  baseRef := "refs/heads/main"
  baseRev := ""
  headRef := "refs/heads/bump"
  title := title
  body := "body"
  commit := { message := "bump", diff := "d", authorName := none, authorEmail := none }
  published := .published

/-- A closed pull request that the campaign which created it does not hold any more. -/
def abandoned : Changeset where
  id := ⟨7⟩
  repoId := ⟨1⟩
  codeHost := .github
  externalId := some "101"
  externalState := some .closed
  publication := .published
  ownerId := some ⟨1⟩
  createdAt := .epoch
  updatedAt := .epoch

end Sample

open Sample in
/-- Its title may have changed. -/
theorem detached_left_closed_retitled :
    between (some (titled "A")) (some (titled "B")) abandoned =
        .ok { operations := [.update], delta := { title := true } } ∧
      (∀ operation ∈ [Operation.update], operation ∈ [.undraft, .update, .push, .sleep, .sync]) ∧
      ([Operation.update] = [] ↔ ∀ former push, some (titled "A") = some former →
        some (titled "B") = some push → former.Agrees push) := by
  have planned : between (some (titled "A")) (some (titled "B")) abandoned =
      .ok { operations := [.update], delta := { title := true } } := rfl
  exact ⟨planned, detached_left_closed rfl rfl (rfl : abandoned.ownerId = some ⟨1⟩) rfl rfl planned⟩

open Sample in
/-- So it is not left alone: the title of a closed pull request is edited. -/
theorem detached_pull_request_edited :
    ¬ ∀ (previous current : Option BranchPush) (row : Changeset) (owner : CampaignId) (plan : Plan),
      row.publication = .published → row.externalState = some .closed →
      row.ownerId = some owner → row.isAttachedTo owner = false → row.closing = false →
      between previous current row = .ok plan → plan.operations = [] := by
  intro quiet
  have nothing := quiet (some (titled "A")) (some (titled "B")) abandoned ⟨1⟩
    { operations := [.update], delta := { title := true } } rfl rfl rfl rfl rfl rfl
  cases nothing

end Plan

end BatchChanges
