import BatchChanges.Proofs.Attempt.Facet

/-! # Drafts

A pull request is opened as a draft if its branch push says so, and an attempt marks it as ready
exactly if the previous branch push wanted a draft and the current one does not. What the planner
sees are these two branch pushes only: it does not look at the pull request itself.
-/

namespace BatchChanges

/-- Whether and how the branch push of a number is to be published. -/
def Table.intent? (specs : Table .changesetSpec ChangesetSpec) (id : Option ChangesetSpecId) :
    Option PublishIntent :=
  ((id.bind specs.find?).bind ChangesetSpec.branchPush?).map (·.published)

private theorem Table.Names.intent? {specs : Table .changesetSpec ChangesetSpec}
    {id : Option ChangesetSpecId} {spec : Option ChangesetSpec} (names : specs.Names id spec) :
    specs.intent? id = (spec.bind ChangesetSpec.branchPush?).map (·.published) := by
  cases names with
  | nothing => rfl
  | row found => rw [Table.intent?, Option.bind_some, found]

/-- More specs do not matter for one that is stored. -/
theorem Table.intent?_grown {specs larger : Table .changesetSpec ChangesetSpec}
    {id : Option ChangesetSpecId}
    (stored : ∀ {number}, id = some number → ∃ spec, specs.find? number = some spec)
    (grown : ∀ {id spec}, specs.find? id = some spec → larger.find? id = some spec) :
    larger.intent? id = specs.intent? id := by
  cases id with
  | none => rfl
  | some number =>
    obtain ⟨spec, found⟩ := stored rfl
    rw [intent?, intent?, Option.bind_some, Option.bind_some, found, grown found]

namespace Changeset

/-- The branch push that the planner takes for the former one is a draft, and the current one is
not. -/
def Promoting (specs : Table .changesetSpec ChangesetSpec) (row : Changeset) : Prop :=
  specs.intent? row.previousSpecId = some .draft ∧ specs.intent? row.currentSpecId = some .published

variable {specs : Table .changesetSpec ChangesetSpec} {row after : Changeset}

/-- Only the specs that a changeset names matter. -/
theorem Promoting.congr (promoting : row.Promoting specs)
    (current : after.currentSpecId = row.currentSpecId)
    (previous : after.previousSpecId = row.previousSpecId) : after.Promoting specs := by
  rw [Promoting, current, previous]
  exact promoting

end Changeset

namespace Plan

variable {previous current : Option BranchPush} {row : Changeset} {plan : Plan}

private theorem intent_of_mem_opening {intent : PublishIntent} {host : CodeHost}
    {operation : Operation} (member : operation ∈ opening intent host) :
    operation = .push ∨ operation = .publish ∧ intent = .published ∨
      operation = .publishDraft ∧ intent = .draft := by
  cases intent with
  | published => simpa [opening] using member
  | draft =>
    simp only [opening] at member
    split at member
    · simpa using member
    · cases member
  | unpublished => cases member

/-- A plan that opens a pull request does so as the branch push says. -/
theorem Decides.opening_of_mem {operation : Operation} (decides : Decides previous current row plan)
    (member : operation ∈ plan.operations) (opening : opens operation = true) :
    ∃ push, current = some push ∧
      plan.operations = Plan.opening push.published row.codeHost := by
  cases decides with
  | opening pushes unpublished => exact ⟨_, pushes, rfl⟩
  | merged merged => cases member
  | closing closing =>
    cases List.mem_singleton.mp member
    cases opening
  | reopening closed held =>
    cases List.mem_singleton.mp member
    cases opening
  | loading pushless unsynced =>
    cases List.mem_singleton.mp member
    cases opening
  | tracking pushless => cases member
  | changing pushes published differs =>
    rw [opens_of_mem_changing member] at opening
    cases opening

theorem undraft_mem_changing_iff {delta : SpecDelta} :
    .undraft ∈ changing delta ↔ delta.undraft = true := by
  simp only [changing, List.mem_append]
  cases delta.undraft <;> cases delta.needsUpdate <;> cases delta.needsPush <;> decide

theorem undraft_deltaOf_iff {previous : Option BranchPush} {push : BranchPush} :
    (deltaOf previous push).undraft = true ↔
      previous.map (·.published) = some .draft ∧ push.published = .published := by
  cases previous with
  | none => simp [deltaOf, SpecDelta.none]
  | some old =>
    simp [deltaOf, SpecDelta.compare, PublishIntent.isDraft, PublishIntent.isPublished]

/-- A draft is marked as ready only between a draft and a branch push that is to be published. -/
theorem Decides.of_undraft (decides : Decides previous current row plan)
    (member : .undraft ∈ plan.operations) :
    previous.map (·.published) = some .draft ∧ current.map (·.published) = some .published := by
  cases decides with
  | @changing push delta pushes published differs =>
    rw [undraft_mem_changing_iff, differs] at member
    obtain ⟨former, latter⟩ := undraft_deltaOf_iff.mp member
    rw [pushes, Option.map_some, latter]
    exact ⟨former, rfl⟩
  | opening pushes unpublished =>
    rcases intent_of_mem_opening member with other | ⟨other, -⟩ | ⟨other, -⟩ <;> cases other
  | merged merged => cases member
  | closing closing => cases List.mem_singleton.mp member
  | reopening closed held => cases List.mem_singleton.mp member
  | loading pushless unsynced => cases List.mem_singleton.mp member
  | tracking pushless => cases member

end Plan

namespace Flight.Course

variable {specs : Table .changesetSpec ChangesetSpec} {flight : Flight}

/-- An attempt marks a pull request as ready only if the specs of its changeset say so. -/
theorem promoting_of_told (course : flight.Course specs) {externalId : String}
    (told : .request (.undraft externalId) ∈ flight.told) : flight.claimed.Promoting specs := by
  obtain ⟨previous, current, plan, namesPrevious, namesCurrent, planned, operation, member, row,
    performs⟩ := course.told_performed told
  cases performs with
  | undraft opened =>
    obtain ⟨former, latter⟩ := (Plan.decides_of_between planned).of_undraft member
    exact ⟨namesPrevious.intent?.trans former, namesCurrent.intent?.trans latter⟩

/-- An attempt that has succeeded has marked an open pull request as ready if the specs say so. -/
theorem told_of_promoting (course : flight.Course specs)
    (stopped : flight.attempt.stage = .settled none)
    (promoting : flight.claimed.Promoting specs)
    (published : flight.claimed.publication = .published)
    (unmerged : flight.claimed.externalState ≠ some .merged)
    (unclosed : flight.claimed.externalState ≠ some .closed)
    (wanted : flight.claimed.closing = false) :
    ∃ externalId, .request (.undraft externalId) ∈ flight.told := by
  obtain ⟨previous, current, plan, namesPrevious, namesCurrent, planned, performed⟩ :=
    course.performed stopped
  obtain ⟨former, latter⟩ := promoting
  rw [namesPrevious.intent?] at former
  rw [namesCurrent.intent?] at latter
  obtain ⟨push, pushes, ready⟩ := Option.map_eq_some_iff.mp latter
  have decides := Plan.decides_of_between planned
  rw [pushes] at decides
  obtain ⟨unpublished, -⟩ | ⟨-, changing⟩ :=
    decides.opening_or_changing unmerged unclosed wanted
  · rw [published] at unpublished
    cases unpublished
  · have member : .undraft ∈ plan.operations := by
      rw [changing, Plan.undraft_mem_changing_iff, Plan.undraft_deltaOf_iff]
      exact ⟨former, ready⟩
    obtain ⟨⟨⟩⟩ | ⟨row, effect, performs, said⟩ := performed .undraft member
    cases performs with
    | undraft opened => exact ⟨_, said.resolve_left (by simp)⟩

/-- An attempt opens no pull request for a changeset that has one. -/
theorem not_created (course : flight.Course specs)
    (published : flight.claimed.publication = .published) {push : BranchPush} {draft : Bool} :
    .request (.create push draft) ∉ flight.told := by
  intro told
  obtain ⟨previous, current, plan, -, -, planned, operation, member, row, performs⟩ :=
    course.told_performed told
  have opens : Plan.opens operation = true := by
    cases performs with
    | publish given => rfl
    | publishDraft given => rfl
  rw [(Plan.decides_of_between planned).unpublished member opens] at published
  cases published

/-- An attempt that opens a pull request has told nothing but the push and to open it, as a draft
exactly if the current branch push is one. -/
theorem told_of_opened (course : flight.Course specs)
    (before : flight.claimed.publication = .unpublished)
    (after : flight.attempt.row.publication = .published) :
    ∃ push draft, .request (.create push draft) ∈ flight.told ∧
      (draft = true ↔ specs.intent? flight.claimed.currentSpecId = some .draft) ∧
      ∀ asked, .request asked ∈ flight.told → ∃ other, asked = .create other draft := by
  obtain ⟨-, push, -, -, -, draft, told⟩ := course.opened before after
  obtain ⟨previous, current, plan, namesPrevious, namesCurrent, planned, operation, member, row,
    performs⟩ := course.told_performed told
  have opens : Plan.opens operation = true := by
    cases performs with
    | publish given => rfl
    | publishDraft given => rfl
  obtain ⟨branch, pushes, opening⟩ :=
    (Plan.decides_of_between planned).opening_of_mem member opens
  have intent : specs.intent? flight.claimed.currentSpecId = some branch.published := by
    rw [namesCurrent.intent?, pushes, Option.map_some]
  have flag : draft = (branch.published == .draft) := by
    rw [opening] at member
    rcases Plan.intent_of_mem_opening member with rfl | ⟨rfl, published⟩ | ⟨rfl, drafted⟩
    · cases opens
    · rw [published]
      cases performs
      rfl
    · rw [drafted]
      cases performs
      rfl
  refine ⟨push, draft, told, ?_, ?_⟩
  · rw [intent, flag, beq_iff_eq, Option.some.injEq]
  · intro asked said
    obtain ⟨former, latter, other, namesFormer, namesLatter, plannedToo, last, memberToo, known,
      performsToo⟩ := course.told_performed said
    obtain rfl := namesFormer.unique namesPrevious
    obtain rfl := namesLatter.unique namesCurrent
    cases planned.symm.trans plannedToo
    rw [opening] at memberToo
    rcases Plan.intent_of_mem_opening memberToo with rfl | ⟨rfl, published⟩ | ⟨rfl, drafted⟩
    · cases performsToo
    · rw [flag, published]
      cases performsToo
      exact ⟨_, rfl⟩
    · rw [flag, drafted]
      cases performsToo
      exact ⟨_, rfl⟩

end Flight.Course

end BatchChanges
