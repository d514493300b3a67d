import BatchChanges.Proofs.Attempt.Plan

/-! # What the code host was told

Of an attempt, the code host is told what the operations of its plan perform, and an operation that
was run has told what it performs. A changeset becomes published by opening its pull request, which
comes after a push.
-/

namespace BatchChanges

/-- Something that is asked and answered without a failure was told, unless it is a pause. -/
theorem Operation.told?_of_absorb_ok {operation : Operation} {repo : Repo} {effect : Effect}
    {row next : Changeset} {answer : (effect.question repo).Answer}
    (absorbed : operation.absorb repo effect row answer = .ok next) :
    effect = .pause ∨ (effect.question repo).told? answer = some effect := by
  cases absorbs_of_absorb absorbed with
  | pushed branch => exact .inr rfl
  | answered asked view => exact .inr rfl
  | paused => exact .inl rfl

private theorem Question.told?_eq_some {repo : Repo} {effect told : Effect}
    {answer : (effect.question repo).Answer}
    (said : (effect.question repo).told? answer = some told) : told = effect := by
  cases effect with
  | push branch =>
    rcases answer with _ | ⟨⟨⟩⟩
    · cases said
    · exact (Option.some.inj said).symm
  | request asked =>
    rcases answer with _ | view
    · cases said
    · exact (Option.some.inj said).symm
  | pause => cases said

/-- Whether the code host is asked. -/
def Question.asksHost : Question → Bool
  | .push _ _ | .request _ _ => true
  | _ => false

/-- Only operations ask the code host. -/
theorem Attempt.acting_of_asksHost {attempt : Attempt} {question : Question}
    {resume : question.Answer → Attempt} (asks : attempt.next = .ask question resume)
    (host : question.asksHost = true) :
    ∃ repo operation effect rest, attempt.stage = .acting repo operation effect rest ∧
      question = effect.question repo := by
  simp only [next] at asks
  split at asks
  · cases asks
    cases host
  · cases asks
    cases host
  · cases asks
    cases host
  · cases asks
    cases host
  · next repo operation effect rest stage =>
    cases asks
    exact ⟨repo, operation, effect, rest, stage, rfl⟩
  · cases asks

/-- An operation has no effect only if it closes a pull request that was never opened. -/
theorem Operation.eq_close_of_idle {operation : Operation} {push : Option BranchPush}
    {row : Changeset} (idle : operation.effect push row = .ok none) : operation = .close := by
  cases operation with
  | close => rfl
  | push | publish | publishDraft =>
    obtain ⟨branch, -, ⟨⟩⟩ := requirePush_bind_ok.mp idle
  | update =>
    obtain ⟨branch, -, rest⟩ := requirePush_bind_ok.mp idle
    obtain ⟨externalId, -, ⟨⟩⟩ := requireExternalId_bind_ok.mp rest
  | undraft | sync | reopen =>
    obtain ⟨externalId, -, ⟨⟩⟩ := requireExternalId_bind_ok.mp idle
  | sleep => cases idle

namespace Operation.Runs

variable {push : Option BranchPush} {claimed row : Changeset} {run : List Operation}
  {told : List Effect} {operation : Operation} {effect : Effect}

/-- What holds of a row at the claim and is kept by each thing that an operation can do to it holds
after every operation. -/
theorem keeps (runs : Runs push claimed run row told) (invariant : Changeset → Prop)
    (begins : invariant claimed)
    (closed : ∀ {before : Changeset}, invariant before → invariant (close.mark before))
    (pushed : ∀ {before : Changeset} (branch : BranchPush), invariant before →
      invariant (pushed branch before))
    (answered : ∀ {operation : Operation} {before : Changeset} {asked : HostRequest}
      (view : PullRequest), operation.effect push before = .ok (some (.request asked)) →
      invariant before → invariant (operation.answered view before)) : invariant row := by
  induction runs with
  | nothing => exact begins
  | marked before idle ih =>
    rw [eq_close_of_idle idle]
    exact closed ih
  | @acted operations row next told last asked repo answer before acts absorbed ih =>
    cases absorbs_of_absorb absorbed with
    | pushed branch => exact pushed branch ih
    | answered asked view => exact answered view acts ih
    | paused => exact ih

/-- An operation that was run has told what it performs. -/
theorem performed (runs : Runs push claimed run row told) (member : operation ∈ run) :
    operation = .close ∨ ∃ row effect, Performs push row operation effect ∧
      (effect = .pause ∨ effect ∈ told) := by
  induction runs with
  | nothing => cases member
  | marked before idle ih =>
    rcases List.mem_append.mp member with earlier | last
    · exact ih earlier
    · rw [List.mem_singleton.mp last]
      exact .inl (Operation.eq_close_of_idle idle)
  | @acted operations row next told last effect repo answer before acts absorbed ih =>
    rcases List.mem_append.mp member with earlier | here
    · rcases ih earlier with closing | ⟨row, effect, performs, pause | said⟩
      · exact .inl closing
      · exact .inr ⟨row, effect, performs, .inl pause⟩
      · exact .inr ⟨row, effect, performs, .inr (List.mem_append_right _ said)⟩
    · rw [List.mem_singleton.mp here]
      refine .inr ⟨row, effect, performs_of_effect acts, ?_⟩
      rcases Operation.told?_of_absorb_ok absorbed with pause | said
      · exact .inl pause
      · rw [said]
        exact .inr (by simp)

private theorem told_performed (runs : Runs push claimed run row told) (member : effect ∈ told) :
    ∃ operation ∈ run, ∃ row, Performs push row operation effect := by
  induction runs with
  | nothing => cases member
  | marked before idle ih =>
    obtain ⟨operation, earlier, performs⟩ := ih member
    exact ⟨operation, List.mem_append_left _ earlier, performs⟩
  | @acted operations row next told last asked repo answer before acts absorbed ih =>
    rcases List.mem_append.mp member with said | earlier
    · have same := Question.told?_eq_some (Option.mem_toList.mp said)
      rw [same]
      exact ⟨last, by simp, row, performs_of_effect acts⟩
    · obtain ⟨operation, earlier, performs⟩ := ih earlier
      exact ⟨operation, List.mem_append_left _ earlier, performs⟩

/-- As long as no operation was run, nothing has happened. -/
theorem of_nil (runs : Runs push claimed [] row told) : row = claimed ∧ told = [] := by
  generalize none : ([] : List Operation) = run at runs
  cases runs with
  | nothing => exact ⟨rfl, rfl⟩
  | marked before idle => simp at none
  | acted before acts absorbed => simp at none

/-- Operations publish a changeset by opening its pull request only. -/
theorem publication (runs : Runs push claimed run row told) :
    row.publication = claimed.publication ∨
      row.publication = .published ∧ ∃ operation ∈ run, Plan.opens operation = true := by
  have marked : ∀ (operation : Operation) (before : Changeset),
      (operation.mark before).publication = before.publication ∨
        (operation.mark before).publication = .published ∧ Plan.opens operation = true := by
    intro operation before
    cases operation with
    | publish | publishDraft => exact .inr ⟨rfl, rfl⟩
    | _ => exact .inl rfl
  have after : ∀ {operations : List Operation} {before next : Changeset} {last : Operation},
      (before.publication = claimed.publication ∨
        before.publication = .published ∧
          ∃ operation ∈ operations, Plan.opens operation = true) →
      (next.publication = before.publication ∨
        next.publication = .published ∧ Plan.opens last = true) →
      next.publication = claimed.publication ∨
        next.publication = .published ∧
          ∃ operation ∈ operations ++ [last], Plan.opens operation = true := by
    intro operations before next last earlier here
    rcases here with same | ⟨published, opens⟩
    · rw [same]
      rcases earlier with earlier | ⟨published, operation, member, opens⟩
      · exact .inl earlier
      · exact .inr ⟨published, operation, List.mem_append_left _ member, opens⟩
    · exact .inr ⟨published, last, by simp, opens⟩
  induction runs with
  | nothing => exact .inl rfl
  | marked before idle ih => exact after ih (marked _ _)
  | @acted operations row next told last asked repo answer before acts absorbed ih =>
    refine after ih ?_
    cases absorbs_of_absorb absorbed with
    | pushed branch => exact .inl rfl
    | answered asked view => exact marked last (row.withHostView view)
    | paused => exact .inl rfl

end Operation.Runs

namespace Flight.Course

variable {specs : Table .changesetSpec ChangesetSpec} {flight : Flight} {effect : Effect}

/-- Whatever an attempt told, an operation of its plan performs. -/
theorem told_performed (course : flight.Course specs) (member : effect ∈ flight.told) :
    ∃ previous current plan, specs.Names flight.claimed.previousSpecId previous ∧
      specs.Names flight.claimed.currentSpecId current ∧
      Plan.determine previous current flight.claimed = .ok plan ∧
      ∃ operation ∈ plan.operations, ∃ row,
        Operation.Performs (current.bind ChangesetSpec.branchPush?) row operation effect := by
  cases course with
  | @planned _ previous current plan run left follows between acts =>
    obtain ⟨operation, run, row, performs⟩ := follows.runs.told_performed member
    refine ⟨previous, current, plan, follows.namesPrevious, follows.namesCurrent, follows.planned,
      operation, ?_, row, performs⟩
    rw [follows.split]
    exact List.mem_append_left _ run
  | _ => cases member

/-- An attempt that has settled without failure has told what all operations of its plan perform. -/
theorem performed (course : flight.Course specs) (stopped : flight.attempt.stage = .settled none) :
    ∃ previous current plan, specs.Names flight.claimed.previousSpecId previous ∧
      specs.Names flight.claimed.currentSpecId current ∧
      Plan.determine previous current flight.claimed = .ok plan ∧
      ∀ operation ∈ plan.operations, operation = .close ∨ ∃ row effect,
        Operation.Performs (current.bind ChangesetSpec.branchPush?) row operation effect ∧
          (effect = .pause ∨ effect ∈ flight.told) := by
  obtain ⟨previous, current, plan, run, left, follows, done⟩ | ⟨failed, -⟩ := course.settled stopped
  · refine ⟨previous, current, plan, follows.namesPrevious, follows.namesCurrent, follows.planned,
      ?_⟩
    intro operation member
    rw [follows.split, done rfl, List.append_nil] at member
    exact follows.runs.performed member
  · cases failed

/-- An attempt whose plan has at most one operation has succeeded, or done nothing so far. -/
theorem succeeded_or_idle (course : flight.Course specs)
    (short : ∀ {previous current plan}, Plan.determine previous current flight.claimed = .ok plan →
      plan.operations.length ≤ 1) :
    flight.attempt.stage = .settled none ∨
      flight.attempt.row = flight.claimed ∧ flight.told = [] := by
  cases course with
  | @planned _ previous current plan run left follows between acts =>
    have length := short follows.planned
    rw [follows.split, List.length_append] at length
    cases run with
    | nil => exact .inr follows.runs.of_nil
    | cons operation rest =>
      have done : left = [] := by
        rw [List.length_cons] at length
        exact List.eq_nil_of_length_eq_zero (by omega)
      exact .inl (between.left_eq_nil_iff.mp done)
  | _ => exact .inr ⟨rfl, rfl⟩

/-- A question to the code host comes with an operation that is left of the plan. -/
theorem acting_of_asksHost (course : flight.Course specs) {question : Question}
    {resume : question.Answer → Attempt} (asks : flight.attempt.next = .ask question resume)
    (host : question.asksHost = true) :
    ∃ previous current plan operation row repo effect,
      Plan.determine previous current flight.claimed = .ok plan ∧ operation ∈ plan.operations ∧
        operation.effect (current.bind ChangesetSpec.branchPush?) row = .ok (some effect) ∧
        question = effect.question repo := by
  obtain ⟨repo, operation, effect, rest, stage, rfl⟩ := Attempt.acting_of_asksHost asks host
  cases course with
  | readingPrevious named => cases stage
  | readingCurrent names named => cases stage
  | unplanned => cases stage
  | @planned _ previous current plan run left follows between acts =>
    rw [stage] at between
    cases between
    have member : operation ∈ plan.operations :=
      follows.split ▸ List.mem_append_right _ List.mem_cons_self
    exact ⟨previous, current, plan, operation, _, repo, effect, follows.planned, member,
      acts stage, rfl⟩

/-- An attempt on a merged pull request does nothing. -/
theorem row_of_merged (course : flight.Course specs) (merged : flight.claimed.isMerged = true) :
    flight.attempt.row = flight.claimed := by
  cases course with
  | @planned _ previous current plan run left follows between acts =>
    have planned := follows.planned
    rw [Plan.determine_of_merged previous current merged] at planned
    cases planned
    have nothing := follows.split
    rw [eq_comm, List.append_eq_nil_iff] at nothing
    obtain ⟨rfl, -⟩ := nothing
    exact follows.runs.of_nil.1
  | _ => rfl

/-- An attempt leaves a published changeset published. -/
theorem published (course : flight.Course specs)
    (before : flight.claimed.publication = .published) :
    flight.attempt.row.publication = .published := by
  cases course with
  | planned follows between acts =>
    rcases follows.runs.publication with same | ⟨published, -⟩
    · exact same.trans before
    · exact published
  | _ => exact before

/-- An attempt that publishes a changeset has pushed its branch and opened its pull request. -/
theorem opened (course : flight.Course specs)
    (before : flight.claimed.publication = .unpublished)
    (after : flight.attempt.row.publication = .published) :
    ∃ current push, specs.Names flight.claimed.currentSpecId (some current) ∧
      current.branchPush? = some push ∧ .push push ∈ flight.told ∧
      ∃ draft, .request (.create push draft) ∈ flight.told := by
  cases course with
  | planned follows between acts =>
    rcases follows.runs.publication with same | ⟨-, operation, member, opens⟩
    · rw [same, before] at after
      cases after
    · obtain ⟨earlier, later, split⟩ := List.append_of_mem member
      have whole := follows.split
      rw [split, List.append_assoc, List.cons_append] at whole
      obtain ⟨rfl, -⟩ := (Plan.decides_of_between follows.planned).opens_last whole opens
      have pushed : Operation.push ∈ [.push] ++ operation :: later := by simp
      obtain ⟨⟨⟩⟩ | ⟨row, effect, performs, told⟩ := follows.runs.performed (split ▸ pushed)
      cases performs with
      | @push push given =>
        obtain ⟨spec, rfl, branch⟩ := Option.bind_eq_some_iff.mp given
        refine ⟨spec, push, follows.namesCurrent, branch, told.resolve_left (by simp), ?_⟩
        obtain rfl | ⟨row, effect, performs, told⟩ := follows.runs.performed member
        · cases opens
        · cases performs with
          | publish same =>
            cases given.symm.trans same
            exact ⟨false, told.resolve_left (by simp)⟩
          | publishDraft same =>
            cases given.symm.trans same
            exact ⟨true, told.resolve_left (by simp)⟩
          | _ => cases opens
  | _ =>
    rw [before] at after
    cases after

end Flight.Course

end BatchChanges
