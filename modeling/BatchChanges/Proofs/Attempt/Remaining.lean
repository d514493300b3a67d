import BatchChanges.Proofs.Attempt.Told

/-! # What is left of a plan

A plan is made once, at the beginning of an attempt; no answer of the code host makes the attempt
plan again. So the operations that are left after an answer are the later ones of the plan, whatever
the answer was. Plans keep to a few orders, and only in one of them does an operation that changes
something on the code host come after a request: an open pull request is first taken out of draft,
then edited, then pushed to.
-/

namespace BatchChanges

namespace Plan

variable {previous current : Option BranchPush} {row : Changeset} {plan : Plan}
  {run rest : List Operation} {first second : Operation}

/-- The orders that plans keep to. -/
def orders : List (List Operation) :=
  [[.close], [.reopen], [.push, .publish], [.push, .publishDraft],
    [.undraft, .update, .push, .sleep, .sync]]

private theorem Decides.sublist (decides : Decides previous current row plan) :
    ∃ order ∈ orders, plan.operations.Sublist order := by
  cases decides with
  | merged merged => exact ⟨[.close], by decide, List.nil_sublist _⟩
  | closing closing => exact ⟨[.close], by decide, List.Sublist.refl _⟩
  | reopening closed held => exact ⟨[.reopen], by decide, List.Sublist.refl _⟩
  | loading pushless unsynced =>
    exact ⟨[.undraft, .update, .push, .sleep, .sync], by decide, by decide⟩
  | tracking pushless => exact ⟨[.close], by decide, List.nil_sublist _⟩
  | @opening push pushes unpublished =>
    cases push.published with
    | published => exact ⟨[.push, .publish], by decide, List.Sublist.refl _⟩
    | draft =>
      refine ⟨[.push, .publishDraft], by decide, ?_⟩
      simp only [Plan.opening]
      split
      · exact List.Sublist.refl _
      · exact List.nil_sublist _
    | unpublished => exact ⟨[.close], by decide, List.nil_sublist _⟩
  | @changing push delta pushes published differs =>
    exact ⟨[.undraft, .update, .push, .sleep, .sync], by decide, changing_sublist delta⟩

/-- What comes after a request in an order, and changes something on the code host. -/
theorem eq_of_mem_orders (order : ∃ order ∈ orders, [first, second].Sublist order)
    (asks : first ≠ .push) (changes : second ≠ .sleep ∧ second ≠ .sync) :
    first = .undraft ∧ (second = .update ∨ second = .push) ∨ first = .update ∧ second = .push := by
  revert order asks changes
  cases first <;> cases second <;> decide

private theorem Decides.sublist_of_mem (decides : Decides previous current row plan)
    (split : plan.operations = run ++ first :: rest) (member : second ∈ rest) :
    ∃ order ∈ orders, [first, second].Sublist order := by
  obtain ⟨order, known, sublist⟩ := decides.sublist
  have later : [first, second].Sublist (first :: rest) :=
    (List.singleton_sublist.mpr member).cons_cons first
  rw [split] at sublist
  exact ⟨order, known, (List.sublist_append_of_sublist_right later).trans sublist⟩

end Plan

/-- Whether the code host is asked to change something. -/
def Question.changesHost : Question → Bool
  | .push _ _ => true
  | .request _ (.load _) => false
  | .request _ _ => true
  | _ => false

theorem Question.asksHost_of_changesHost {question : Question}
    (changes : question.changesHost = true) : question.asksHost = true := by
  cases question with
  | push repo branch => rfl
  | request repo asked => rfl
  | _ => cases changes

/-- A plan may ask this of the code host after a request, to change something. -/
inductive HostRequest.Precedes : HostRequest → Question → Prop
  | updated {draft externalId : String} {repo : Repo} {push : BranchPush} :
      Precedes (.undraft draft) (.request repo (.update externalId push))
  | pushedReady {draft : String} {repo : Repo} {push : BranchPush} :
      Precedes (.undraft draft) (.push repo push)
  | pushedUpdated {externalId : String} {text : BranchPush} {repo : Repo} {push : BranchPush} :
      Precedes (.update externalId text) (.push repo push)

/-- Whatever a plan asks of the code host after a request, it may ask. -/
theorem Plan.Decides.precedes {previous current branch later : Option BranchPush}
    {row here there : Changeset} {plan : Plan} {run rest : List Operation}
    {first second : Operation} {asked : HostRequest} {effect : Effect} {repo : Repo}
    (decides : Decides previous current row plan)
    (split : plan.operations = run ++ first :: rest) (member : second ∈ rest)
    (asks : first.Performs branch here (.request asked))
    (performs : second.Performs later there effect)
    (changes : (effect.question repo).changesHost = true) :
    asked.Precedes (effect.question repo) := by
  have isRequest : first ≠ .push := by
    rintro rfl
    cases asks
  have isChange : second ≠ .sleep ∧ second ≠ .sync := by
    constructor
    · rintro rfl
      cases performs
      cases changes
    · rintro rfl
      cases performs
      cases changes
  rcases eq_of_mem_orders (decides.sublist_of_mem split member) isRequest isChange with
    ⟨rfl, rfl | rfl⟩ | ⟨rfl, rfl⟩
  · cases asks
    cases performs
    exact .updated
  · cases asks
    cases performs
    exact .pushedReady
  · cases asks
    cases performs
    exact .pushedUpdated

/-- An attempt has at most the operations of a list before it, and reads no more specs. -/
inductive Stage.Within (operations : List Operation) : Stage → Prop
  | renewing {repo : Repo} {operation : Operation} {rest : List Operation}
      (left : operation :: rest <:+ operations) : Within operations (.renewing repo operation rest)
  | acting {repo : Repo} {operation : Operation} {effect : Effect} {rest : List Operation}
      (left : operation :: rest <:+ operations) :
      Within operations (.acting repo operation effect rest)
  | settled {failure : Option ReconcileError} : Within operations (.settled failure)

namespace Attempt

variable {attempt following : Attempt} {question : Question} {answer : question.Answer}
  {operations : List Operation}

/-- Whoever is about to act asks what comes with the effect. -/
theorem asks_of_acting {repo : Repo} {operation : Operation} {effect : Effect}
    {rest : List Operation} (acting : attempt.stage = .acting repo operation effect rest) :
    ∃ resume, attempt.next = .ask (effect.question repo) resume := by
  simp only [next, acting]
  exact ⟨_, rfl⟩

theorem within_proceed (attempt : Attempt) (repo : Repo) {rest : List Operation}
    (left : rest <:+ operations) : (attempt.proceed repo rest).stage.Within operations := by
  cases rest with
  | nil => exact .settled
  | cons operation rest => exact .renewing left

private theorem within_begin (attempt : Attempt) (repo : Repo) {operation : Operation}
    {rest : List Operation} (left : operation :: rest <:+ operations) :
    (attempt.begin repo operation rest).stage.Within operations := by
  simp only [begin]
  split
  · exact .settled
  · exact within_proceed _ repo ((List.suffix_cons operation rest).trans left)
  · exact .acting left

/-- No answer brings back an operation that is not left. -/
theorem Moves.within (moves : attempt.Moves question answer following)
    (within : attempt.stage.Within operations) : following.stage.Within operations := by
  generalize here : attempt.stage = stage at within
  cases moves with
  | failed error silent => exact .settled
  | readPrevious stage =>
    rw [stage] at here
    cases here
    cases within
  | readCurrent stage =>
    rw [stage] at here
    cases here
    cases within
  | readRepo stage =>
    rw [stage] at here
    cases here
    cases within
  | renewed stage =>
    rw [stage] at here
    cases here
    cases within with
    | renewing left => exact within_begin _ _ left
  | @acted repo operation effect rest answer row stage absorbed =>
    rw [stage] at here
    cases here
    cases within with
    | acting left => exact within_proceed _ _ ((List.suffix_cons operation rest).trans left)

end Attempt

end BatchChanges
