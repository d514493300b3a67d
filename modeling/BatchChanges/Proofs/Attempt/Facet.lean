import BatchChanges.Proofs.Attempt.Told

/-! # Facets of a branch push

A branch push reaches the code host in two facets: the commit by pushing, and the text by opening or
editing the pull request. To the planner a facet of an open pull request is due exactly if it is
not the same in the previous and in the current branch push. So an attempt without failure tells
the host the facets that differ, and no attempt tells it another one.
-/

namespace BatchChanges

namespace Plan

variable {previous : Option BranchPush} {push : BranchPush} {row : Changeset} {plan : Plan}

def deltaOf (previous : Option BranchPush) (push : BranchPush) : SpecDelta :=
  (previous.map (SpecDelta.compare · push)).getD .none

/-- The plan for a changeset that is neither merged nor closed nor to be closed opens its pull
request or changes it. -/
theorem Decides.opening_or_changing (decides : Decides previous (some push) row plan)
    (unmerged : row.externalState ≠ some .merged) (unclosed : row.externalState ≠ some .closed)
    (wanted : row.closing = false) :
    (row.publication = .unpublished ∧
      plan.operations = Plan.opening push.published row.codeHost) ∨
    row.publication = .published ∧ plan.operations = Plan.changing (deltaOf previous push) := by
  cases decides with
  | merged merged => exact absurd (beq_iff_eq.mp merged) unmerged
  | closing closing =>
    rw [wanted] at closing
    cases closing
  | reopening closed held => exact absurd closed unclosed
  | loading pushless unsynced => cases pushless
  | tracking pushless => cases pushless
  | opening pushes unpublished =>
    cases pushes
    exact .inl ⟨unpublished, rfl⟩
  | changing pushes published differs =>
    cases pushes
    rw [differs]
    exact .inr ⟨published, rfl⟩

end Plan

/-- What a pull request says, with its base branch. -/
def BranchPush.text (push : BranchPush) : String × String × String :=
  (push.title, push.body, push.baseRef)

private theorem SpecDelta.needsPush_compare_iff (previous current : BranchPush) :
    (compare previous current).needsPush = true ↔ previous.commit ≠ current.commit := by
  obtain ⟨_, _, _, _, _, ⟨message, diff, name, email⟩, _⟩ := previous
  obtain ⟨_, _, _, _, _, ⟨message', diff', name', email'⟩, _⟩ := current
  simp only [needsPush, compare, Bool.or_eq_true, bne_iff_ne, ne_eq, Commit.mk.injEq]
  tauto

private theorem SpecDelta.needsUpdate_compare_iff (previous current : BranchPush) :
    (compare previous current).needsUpdate = true ↔ previous.text ≠ current.text := by
  simp only [needsUpdate, compare, BranchPush.text, Bool.or_eq_true, bne_iff_ne, ne_eq,
    Prod.mk.injEq]
  tauto

/-- A part of a branch push that reaches the code host by itself. -/
structure Facet (α : Type) where
  value : BranchPush → α
  /-- What an effect tells the code host of the facet. -/
  carried? : Effect → Option α
  /-- The operations that tell it. -/
  carries : Operation → Bool
  /-- Whether a difference makes it due. -/
  due : SpecDelta → Bool
  due_none : due .none = false
  due_compare (previous current : BranchPush) :
    due (.compare previous current) = true ↔ value previous ≠ value current
  performs {push : Option BranchPush} {row : Changeset} {operation : Operation} {effect : Effect}
    (performs : Operation.Performs push row operation effect) :
    (∃ branch, push = some branch ∧ carries operation = true ∧
      carried? effect = some (value branch)) ∨ carries operation = false ∧ carried? effect = none
  changing (delta : SpecDelta) : (Plan.changing delta).any carries = due delta
  opened (push : BranchPush) (draft : Bool) : carried? (.push push) = some (value push) ∨
    carried? (.request (.create push draft)) = some (value push)
  pause : carried? .pause = none
  close : carries .close = false

namespace Facet

/-- The commit is told by pushing it. -/
def commit : Facet Commit where
  value := BranchPush.commit
  carried?
    | .push push => some push.commit
    | _ => none
  carries
    | .push => true
    | _ => false
  due := SpecDelta.needsPush
  due_none := rfl
  due_compare := SpecDelta.needsPush_compare_iff
  performs performs := by
    cases performs with
    | push given => exact .inl ⟨_, given, rfl, rfl⟩
    | _ => exact .inr ⟨rfl, rfl⟩
  changing delta := by
    simp only [Plan.changing, List.any_append]
    cases delta.undraft <;> cases delta.needsUpdate <;> cases delta.needsPush <;> rfl
  opened push draft := .inl rfl
  pause := rfl
  close := rfl

/-- The text is told by opening or editing the pull request. -/
def text : Facet (String × String × String) where
  value := BranchPush.text
  carried?
    | .request (.create push _) | .request (.update _ push) => some push.text
    | _ => none
  carries
    | .publish | .publishDraft | .update => true
    | _ => false
  due := SpecDelta.needsUpdate
  due_none := rfl
  due_compare := SpecDelta.needsUpdate_compare_iff
  performs performs := by
    cases performs with
    | publish given => exact .inl ⟨_, given, rfl, rfl⟩
    | publishDraft given => exact .inl ⟨_, given, rfl, rfl⟩
    | update given opened => exact .inl ⟨_, given, rfl, rfl⟩
    | _ => exact .inr ⟨rfl, rfl⟩
  changing delta := by
    simp only [Plan.changing, List.any_append]
    cases delta.undraft <;> cases delta.needsUpdate <;> cases delta.needsPush <;> rfl
  opened push draft := .inr rfl
  pause := rfl
  close := rfl

variable {α : Type} (facet : Facet α) {specs : Table .changesetSpec ChangesetSpec}
  {flight : Flight} {effect : Effect} {told : α}

private theorem due_deltaOf_iff (previous : Option BranchPush) (push : BranchPush) :
    facet.due (Plan.deltaOf previous push) = true ↔
      ∃ old, previous = some old ∧ facet.value old ≠ facet.value push := by
  cases previous with
  | none => simp [Plan.deltaOf, facet.due_none]
  | some old => simp [Plan.deltaOf, facet.due_compare]

/-- An operation that performs an effect which tells a facet tells its value. -/
theorem eq_value_of_performs {push : Option BranchPush} {row : Changeset} {operation : Operation}
    (performs : Operation.Performs push row operation effect)
    (carried : facet.carried? effect = some told) :
    facet.carries operation = true ∧ ∃ branch, push = some branch ∧ told = facet.value branch := by
  obtain ⟨branch, given, carries, same⟩ | ⟨-, nothing⟩ := facet.performs performs
  · rw [same] at carried
    exact ⟨carries, branch, given, (Option.some.inj carried).symm⟩
  · rw [nothing] at carried
    cases carried

/-- Between the specs that a changeset names, the facet is not the same. -/
def Differs (specs : Table .changesetSpec ChangesetSpec) (row : Changeset) : Prop :=
  ∃ previous current old push, specs.Names row.previousSpecId (some previous) ∧
    previous.branchPush? = some old ∧ specs.Names row.currentSpecId (some current) ∧
    current.branchPush? = some push ∧ facet.value old ≠ facet.value push

/-- An attempt tells the facet as the current spec has it. -/
theorem told_eq_value (course : flight.Course specs) (member : effect ∈ flight.told)
    (carried : facet.carried? effect = some told) :
    ∃ current push, specs.Names flight.claimed.currentSpecId (some current) ∧
      current.branchPush? = some push ∧ told = facet.value push := by
  obtain ⟨previous, current, plan, -, names, -, operation, -, row, performs⟩ :=
    course.told_performed member
  obtain ⟨-, push, given, same⟩ := facet.eq_value_of_performs performs carried
  obtain ⟨spec, rfl, branch⟩ := Option.bind_eq_some_iff.mp given
  exact ⟨spec, push, names, branch, same⟩

/-- An attempt that opens a pull request tells the facet. -/
theorem told_of_opened (course : flight.Course specs)
    (before : flight.claimed.publication = .unpublished)
    (after : flight.attempt.row.publication = .published) :
    ∃ effect ∈ flight.told, ∃ told, facet.carried? effect = some told := by
  obtain ⟨current, push, -, -, pushed, draft, created⟩ := course.opened before after
  rcases facet.opened push draft with carried | carried
  · exact ⟨_, pushed, _, carried⟩
  · exact ⟨_, created, _, carried⟩

end Facet

/-- A changeset that has a branch to push, and whose pull request nobody wants or knows to be
closed. -/
structure Changeset.Steady (specs : Table .changesetSpec ChangesetSpec) (row : Changeset) :
    Prop where
  unmerged : row.externalState ≠ some .merged
  unclosed : row.externalState ≠ some .closed
  wanted : row.closing = false
  pushes : ∃ current push, specs.Names row.currentSpecId (some current) ∧
    current.branchPush? = some push

namespace Facet

variable {α : Type} (facet : Facet α) {specs : Table .changesetSpec ChangesetSpec}
  {flight : Flight} {effect : Effect} {told : α} {previous current : Option ChangesetSpec}
  {row : Changeset} {plan : Plan}

/-- An open pull request is changed by operations that tell a facet exactly if the facet differs. -/
theorem differs_iff_planned (steady : row.Steady specs) (published : row.publication = .published)
    (namesPrevious : specs.Names row.previousSpecId previous)
    (namesCurrent : specs.Names row.currentSpecId current)
    (planned : Plan.determine previous current row = .ok plan) :
    facet.Differs specs row ↔ ∃ operation ∈ plan.operations, facet.carries operation = true := by
  obtain ⟨spec, push, names, pushes⟩ := steady.pushes
  obtain rfl := names.unique namesCurrent
  have decides : Plan.Decides (previous.bind ChangesetSpec.branchPush?) (some push) row plan := by
    rw [← pushes]
    exact Plan.decides_of_between planned
  obtain ⟨unpublished, -⟩ | ⟨-, changing⟩ :=
    decides.opening_or_changing steady.unmerged steady.unclosed steady.wanted
  · rw [published] at unpublished
    cases unpublished
  · rw [changing, ← List.any_eq_true, facet.changing, facet.due_deltaOf_iff]
    constructor
    · rintro ⟨before, now, old, new, namesBefore, branch, namesNow, branchNow, differs⟩
      obtain rfl := namesBefore.unique namesPrevious
      cases namesNow.unique names
      cases pushes.symm.trans branchNow
      exact ⟨old, branch, differs⟩
    · rintro ⟨old, branch, differs⟩
      obtain ⟨before, rfl, branch⟩ := Option.bind_eq_some_iff.mp branch
      exact ⟨before, spec, old, push, namesPrevious, branch, names, pushes, differs⟩

/-- An attempt to change a pull request tells the facet only if it differs. -/
theorem differs_of_told (course : flight.Course specs) (steady : flight.claimed.Steady specs)
    (published : flight.claimed.publication = .published) (member : effect ∈ flight.told)
    (carried : facet.carried? effect = some told) : facet.Differs specs flight.claimed := by
  obtain ⟨previous, current, plan, namesPrevious, namesCurrent, planned, operation, member, row,
    performs⟩ := course.told_performed member
  exact (facet.differs_iff_planned steady published namesPrevious namesCurrent planned).mpr
    ⟨operation, member, (facet.eq_value_of_performs performs carried).1⟩

/-- An attempt that has changed a pull request without failure told the facet if it differs. -/
theorem told_of_differs (course : flight.Course specs)
    (stopped : flight.attempt.stage = .settled none) (steady : flight.claimed.Steady specs)
    (published : flight.claimed.publication = .published)
    (differs : facet.Differs specs flight.claimed) :
    ∃ effect ∈ flight.told, ∃ told, facet.carried? effect = some told := by
  obtain ⟨previous, current, plan, namesPrevious, namesCurrent, planned, performed⟩ :=
    course.performed stopped
  obtain ⟨operation, member, carries⟩ :=
    (facet.differs_iff_planned steady published namesPrevious namesCurrent planned).mp differs
  obtain rfl | ⟨row, effect, performs, said⟩ := performed operation member
  · rw [facet.close] at carries
    cases carries
  · obtain ⟨branch, -, -, carried⟩ | ⟨idle, -⟩ := facet.performs performs
    · rcases said with rfl | said
      · rw [facet.pause] at carried
        cases carried
      · exact ⟨effect, said, _, carried⟩
    · rw [idle] at carries
      cases carries

end Facet

end BatchChanges
