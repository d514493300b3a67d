import BatchChanges.Proofs.Attempt.Course

/-! # The plans that there are

A plan is one of few kinds, and its kind tells what is known of the changeset. Only one kind opens a
pull request, and it does so at its end.
-/

namespace BatchChanges

namespace Plan

variable {previous current : Option BranchPush} {row : Changeset} {plan : Plan}

/-- The kinds of plans. -/
inductive Decides (previous current : Option BranchPush) (row : Changeset) : Plan → Prop
  | merged (merged : row.isMerged = true) : Decides previous current row {}
  | closing (closing : row.closing = true) :
      Decides previous current row { operations := [.close] }
  | reopening (closed : row.externalState = some .closed) (held : row.isOwnedAndAttached = true) :
      Decides previous current row { operations := [.reopen] }
  | loading (pushless : current = none) (unsynced : row.unsynced = true) :
      Decides previous current row { operations := [.sync] }
  | tracking (pushless : current = none) : Decides previous current row {}
  | opening {push : BranchPush} (pushes : current = some push)
      (unpublished : row.publication = .unpublished) :
      Decides previous current row { operations := Plan.opening push.published row.codeHost }
  | changing {push : BranchPush} {delta : SpecDelta} (pushes : current = some push)
      (published : row.publication = .published)
      (differs : delta = (previous.map (SpecDelta.compare · push)).getD .none) :
      Decides previous current row { operations := Plan.changing delta, delta }

/-- Every plan is of one of these kinds. -/
theorem decides_of_between (planned : between previous current row = .ok plan) :
    Decides previous current row plan := by
  simp only [between] at planned
  split at planned
  · next merged =>
    cases planned
    exact .merged merged
  · split at planned
    · next closing =>
      cases planned
      exact .closing closing
    · split at planned
      · next closed =>
        cases planned
        simp only [Bool.and_eq_true, beq_iff_eq] at closed
        exact .reopening closed.1 closed.2
      · split at planned
        · split at planned
          · cases planned
          · split at planned
            · next unsynced =>
              cases planned
              exact .loading rfl unsynced
            · cases planned
              exact .tracking rfl
        · next push =>
          split at planned
          · next unpublished =>
            cases planned
            exact .opening rfl unpublished
          · next published =>
            cases planned
            exact .changing rfl published rfl

section

variable (previous current : Option ChangesetSpec)

/-- Nothing is done about a merged pull request. -/
theorem determine_of_merged (merged : row.isMerged = true) :
    determine previous current row = .ok {} := by
  simp only [determine, between, merged, if_true]

/-- A pull request that should be closed is closed, unless it was merged. -/
theorem determine_of_closing (closing : row.closing = true) :
    determine previous current row =
      .ok { operations := if row.isMerged then [] else [.close] } := by
  simp only [determine, between, closing, if_true]
  split <;> rfl

/-- A closed pull request that is still wanted is reopened. -/
theorem determine_of_closed (closed : row.externalState = some .closed)
    (held : row.isOwnedAndAttached = true) (wanted : row.closing = false) :
    determine previous current row = .ok { operations := [.reopen] } := by
  have unmerged : row.isMerged = false := by
    rw [Changeset.isMerged, closed]
    rfl
  simp [determine, between, unmerged, wanted, closed, held]

end

/-- An open pull request is changed in one order. -/
theorem changing_sublist (delta : SpecDelta) :
    (Plan.changing delta).Sublist [.undraft, .update, .push, .sleep, .sync] := by
  have some_or_none : ∀ (wanted : Bool) (operations : List Operation),
      (if wanted then operations else []).Sublist operations := by
    intro wanted operations
    cases wanted
    · exact List.nil_sublist _
    · exact List.Sublist.refl _
  exact ((some_or_none _ [.undraft]).append (some_or_none _ [.update])).append (some_or_none _ _)

def opens : Operation → Bool
  | .publish | .publishDraft => true
  | _ => false

theorem opens_of_mem_changing {delta : SpecDelta} {operation : Operation}
    (member : operation ∈ Plan.changing delta) : opens operation = false := by
  simp only [Plan.changing, List.mem_append] at member
  rcases member with (member | member) | member <;> split at member <;>
    simp_all [opens]
  rcases member with rfl | rfl | rfl <;> rfl

private theorem opening_split {intent : PublishIntent} {host : CodeHost} {run rest : List Operation}
    {operation : Operation} (split : Plan.opening intent host = run ++ operation :: rest)
    (opens : opens operation = true) : run = [.push] ∧ rest = [] := by
  have after : ∀ {second : Operation}, [.push, second] = run ++ operation :: rest →
      run = [.push] ∧ rest = [] := by
    intro second split
    match run with
    | [] =>
      cases split
      cases opens
    | [_] =>
      cases split
      exact ⟨rfl, rfl⟩
    | _ :: _ :: _ => cases run <;> simp at split
  cases intent with
  | published => exact after split
  | draft =>
    simp only [Plan.opening] at split
    split at split
    · exact after split
    · simp at split
  | unpublished => simp [Plan.opening] at split

/-- A pull request is opened at the end of a plan, right after the push. -/
theorem Decides.opens_last {run rest : List Operation} {operation : Operation}
    (decides : Decides previous current row plan)
    (split : plan.operations = run ++ operation :: rest) (opening : opens operation = true) :
    run = [.push] ∧ rest = [] := by
  have member : operation ∈ plan.operations := by simp [split]
  cases decides with
  | merged _ => cases member
  | closing _ =>
    cases List.mem_singleton.mp member
    cases opening
  | reopening _ _ =>
    cases List.mem_singleton.mp member
    cases opening
  | loading _ _ =>
    cases List.mem_singleton.mp member
    cases opening
  | tracking _ => cases member
  | @opening push pushes unpublished =>
    exact opening_split split opening
  | changing _ _ _ =>
    rw [opens_of_mem_changing member] at opening
    cases opening

/-- And only for a changeset that has none. -/
theorem Decides.unpublished {operation : Operation} (decides : Decides previous current row plan)
    (member : operation ∈ plan.operations) (opening : opens operation = true) :
    row.publication = .unpublished := by
  cases decides with
  | merged _ => cases member
  | closing _ =>
    cases List.mem_singleton.mp member
    cases opening
  | reopening _ _ =>
    cases List.mem_singleton.mp member
    cases opening
  | loading _ _ =>
    cases List.mem_singleton.mp member
    cases opening
  | tracking _ => cases member
  | opening pushes unpublished => exact unpublished
  | changing _ _ _ =>
    rw [opens_of_mem_changing member] at opening
    cases opening

end Plan

namespace Operation

variable {push : Option BranchPush} {row : Changeset} {operation : Operation} {effect : Effect}

/-- Which effect an operation has. -/
inductive Performs (push : Option BranchPush) (row : Changeset) : Operation → Effect → Prop
  | push {branch : BranchPush} (given : push = some branch) : Performs push row .push (.push branch)
  | publish {branch : BranchPush} (given : push = some branch) :
      Performs push row .publish (.request (.create branch false))
  | publishDraft {branch : BranchPush} (given : push = some branch) :
      Performs push row .publishDraft (.request (.create branch true))
  | update {branch : BranchPush} {externalId : String} (given : push = some branch)
      (opened : row.externalId = some externalId) :
      Performs push row .update (.request (.update externalId branch))
  | undraft {externalId : String} (opened : row.externalId = some externalId) :
      Performs push row .undraft (.request (.undraft externalId))
  | sync {externalId : String} (opened : row.externalId = some externalId) :
      Performs push row .sync (.request (.load externalId))
  | close {externalId : String} (opened : row.externalId = some externalId) :
      Performs push row .close (.request (.close externalId))
  | reopen {externalId : String} (opened : row.externalId = some externalId) :
      Performs push row .reopen (.request (.reopen externalId))
  | sleep : Performs push row .sleep .pause

theorem requirePush_bind_ok {α : Type} {rest : BranchPush → Except ReconcileError α} {result : α} :
    (operation.requirePush push row >>= rest) = .ok result ↔
      ∃ branch, push = some branch ∧ rest branch = .ok result := by
  cases push <;> simp [requirePush, bind, Except.bind]

theorem requireExternalId_bind_ok {α : Type} {rest : String → Except ReconcileError α}
    {result : α} :
    (operation.requireExternalId row >>= rest) = .ok result ↔
      ∃ externalId, row.externalId = some externalId ∧ rest externalId = .ok result := by
  simp only [requireExternalId]
  cases row.externalId <;> simp [bind, Except.bind]

/-- An operation that finds what it needs has its one effect. -/
theorem performs_of_effect (acts : operation.effect push row = .ok (some effect)) :
    Performs push row operation effect := by
  cases operation with
  | push =>
    obtain ⟨branch, given, ⟨⟩⟩ := requirePush_bind_ok.mp acts
    exact .push given
  | publish =>
    obtain ⟨branch, given, ⟨⟩⟩ := requirePush_bind_ok.mp acts
    exact .publish given
  | publishDraft =>
    obtain ⟨branch, given, ⟨⟩⟩ := requirePush_bind_ok.mp acts
    exact .publishDraft given
  | update =>
    obtain ⟨branch, given, rest⟩ := requirePush_bind_ok.mp acts
    obtain ⟨externalId, opened, ⟨⟩⟩ := requireExternalId_bind_ok.mp rest
    exact .update given opened
  | undraft =>
    obtain ⟨externalId, opened, ⟨⟩⟩ := requireExternalId_bind_ok.mp acts
    exact .undraft opened
  | sync =>
    obtain ⟨externalId, opened, ⟨⟩⟩ := requireExternalId_bind_ok.mp acts
    exact .sync opened
  | reopen =>
    obtain ⟨externalId, opened, ⟨⟩⟩ := requireExternalId_bind_ok.mp acts
    exact .reopen opened
  | close =>
    obtain ⟨externalId, opened, rfl⟩ := Option.map_eq_some_iff.mp (Except.ok.inj acts)
    exact .close opened
  | sleep =>
    cases acts
    exact .sleep

/-- Only operations that open a pull request ask for one. -/
theorem opens_of_effect {asked : BranchPush} {draft : Bool}
    (acts : operation.effect push row = .ok (some (.request (.create asked draft)))) :
    Plan.opens operation = true := by
  generalize named : Effect.request (.create asked draft) = effect at acts
  cases performs_of_effect acts with
  | publish given => rfl
  | publishDraft given => rfl
  | _ => cases named

end Operation

end BatchChanges
