import BatchChanges.Question

/-! # Attempts to reconcile a changeset

An attempt starts with a claimed changeset. It reads the two specs, plans, reads the repository and
runs the planned operations one after the other, renewing its lease before each but the first. Its
work consists of questions to the store and to the code host, and of waiting; whatever the rest of
the world does happens between two questions. `Attempt.next` says what an attempt asks next and
how it goes on with any answer, until it has settled with or without a failure.

An attempt settles after at most 14 questions (`Attempt.rank_resume_lt`).
-/

namespace BatchChanges

/-- Where an attempt stands: before which question, or at its end. -/
inductive Stage where
  | readingPrevious (id : ChangesetSpecId)
  | readingCurrent (previous : Option ChangesetSpec) (id : ChangesetSpecId)
  | readingRepo (first : Operation) (rest : List Operation)
  | renewing (repo : Repo) (operation : Operation) (rest : List Operation)
  | acting (repo : Repo) (operation : Operation) (effect : Effect) (rest : List Operation)
  | settled (failure : Option ReconcileError)
deriving DecidableEq

/-- A worker's work on one changeset. -/
structure Attempt where
  /-- The changeset, as the attempt knows it. -/
  row : Changeset
  lease : Lease
  /-- All planned operations; none before the planning. -/
  planned : List Operation := []
  /-- The branch push that applies. -/
  push : Option BranchPush := none
  stage : Stage
deriving DecidableEq

/-- What an attempt does next: it asks something and goes on with the answer, or it has settled. -/
inductive Attempt.Next where
  | ask (question : Question) (resume : question.Answer → Attempt)
  | settled (failure : Option ReconcileError)

namespace Attempt

def settle (attempt : Attempt) (failure : Option ReconcileError) : Attempt :=
  { attempt with stage := .settled failure }

def plan (attempt : Attempt) (previous current : Option ChangesetSpec) : Attempt :=
  match Plan.determine previous current attempt.row with
  | .error cause => attempt.settle (some (.missingCurrentSpec cause))
  | .ok plan =>
    match plan.operations with
    | [] => attempt.settle none
    | first :: rest =>
      { attempt with
        planned := plan.operations
        push := current.bind ChangesetSpec.branchPush?
        stage := .readingRepo first rest }

/-- Goes on to the spec that applies now. -/
def seekCurrent (attempt : Attempt) (previous : Option ChangesetSpec) : Attempt :=
  match attempt.row.currentSpecId with
  | some id => { attempt with stage := .readingCurrent previous id }
  | none => attempt.plan previous none

def start (row : Changeset) (lease : Lease) : Attempt :=
  match row.previousSpecId with
  | some id => { row, lease, stage := .readingPrevious id }
  | none => seekCurrent { row, lease, stage := .settled none } none

def proceed (attempt : Attempt) (repo : Repo) : List Operation → Attempt
  | [] => attempt.settle none
  | operation :: rest => { attempt with stage := .renewing repo operation rest }

def begin (attempt : Attempt) (repo : Repo) (operation : Operation) (rest : List Operation) :
    Attempt :=
  match operation.effect attempt.push attempt.row with
  | .error failure => attempt.settle (some failure)
  | .ok none => proceed { attempt with row := operation.mark attempt.row } repo rest
  | .ok (some effect) => { attempt with stage := .acting repo operation effect rest }

/-- What the attempt does next. -/
def next (attempt : Attempt) : Next :=
  match attempt.stage with
  | .readingPrevious id => .ask (.changesetSpec id) fun answer =>
      match answer with
      | .error error => attempt.settle (some (.store error))
      | .ok none => attempt.settle (some (.specNotFound id))
      | .ok (some spec) => attempt.seekCurrent (some spec)
  | .readingCurrent previous id => .ask (.changesetSpec id) fun answer =>
      match answer with
      | .error error => attempt.settle (some (.store error))
      | .ok none => attempt.settle (some (.specNotFound id))
      | .ok (some spec) => attempt.plan previous (some spec)
  | .readingRepo first rest => .ask (.repo attempt.row.repoId) fun answer =>
      match answer with
      | .error error => attempt.settle (some (.store error))
      | .ok none => attempt.settle (some (.repoNotFound attempt.row.repoId))
      | .ok (some repo) => attempt.begin repo first rest
  | .renewing repo operation rest => .ask (.renewal attempt.lease) fun answer =>
      match answer with
      | .error error => attempt.settle (some (.store error))
      | .ok (.applied, lease) => begin { attempt with lease } repo operation rest
      | .ok (.rowGone, _) | .ok (.leaseLost, _) =>
        attempt.settle (some (.leaseLost attempt.lease.changesetId operation))
  | .acting repo operation effect rest => .ask (effect.question repo) fun answer =>
      match operation.absorb repo effect attempt.row answer with
      | .error failure => attempt.settle (some failure)
      | .ok row => proceed { attempt with row } repo rest
  | .settled failure => .settled failure

/-- A bound on the number of questions that are left. -/
def rank (attempt : Attempt) : Nat :=
  match attempt.stage with
  | .readingPrevious _ => 13
  | .readingCurrent _ _ => 12
  | .readingRepo _ rest => 2 * rest.length + 3
  | .renewing _ _ rest => 2 * rest.length + 2
  | .acting _ _ _ rest => 2 * rest.length + 1
  | .settled _ => 0

@[simp] theorem rank_settle (attempt : Attempt) (failure : Option ReconcileError) :
    (attempt.settle failure).rank = 0 := rfl

theorem rank_plan_lt (attempt : Attempt) (previous current : Option ChangesetSpec) :
    (attempt.plan previous current).rank < 12 := by
  simp only [plan]
  split
  · simp
  · next plan planned =>
    have short := Plan.length_determine planned
    split
    · simp
    · next operations =>
      simp only [operations, List.length_cons] at short
      simp only [rank]
      omega

theorem rank_seekCurrent_lt (attempt : Attempt) (previous : Option ChangesetSpec) :
    (attempt.seekCurrent previous).rank < 13 := by
  simp only [seekCurrent]
  split
  · simp [rank]
  · exact Nat.lt_succ_of_lt (rank_plan_lt attempt previous none)

theorem rank_proceed_le (attempt : Attempt) (repo : Repo) (rest : List Operation) :
    (attempt.proceed repo rest).rank ≤ 2 * rest.length := by
  cases rest with
  | nil => simp [proceed]
  | cons operation rest => simp only [proceed, rank, List.length_cons]; omega

theorem rank_begin_le (attempt : Attempt) (repo : Repo) (operation : Operation)
    (rest : List Operation) : (attempt.begin repo operation rest).rank ≤ 2 * rest.length + 1 := by
  simp only [begin]
  split
  · simp
  · exact Nat.le_succ_of_le (rank_proceed_le _ repo rest)
  · simp [rank]

/-- Every answer brings an attempt closer to its end. -/
theorem rank_resume_lt {attempt : Attempt} {question : Question}
    {resume : question.Answer → Attempt} (asked : attempt.next = .ask question resume)
    (answer : question.Answer) : (resume answer).rank < attempt.rank := by
  simp only [next] at asked
  split at asked
  · next id stage =>
    cases asked
    have here : attempt.rank = 13 := by simp [rank, stage]
    rcases answer with error | _ | spec
    · simp [here]
    · simp [here]
    · simpa [here] using rank_seekCurrent_lt attempt (some spec)
  · next previous id stage =>
    cases asked
    have here : attempt.rank = 12 := by simp [rank, stage]
    rcases answer with error | _ | spec
    · simp [here]
    · simp [here]
    · simpa [here] using rank_plan_lt attempt previous (some spec)
  · next first rest stage =>
    cases asked
    have here : attempt.rank = 2 * rest.length + 3 := by simp [rank, stage]
    rcases answer with error | _ | repo
    · simp [here]
    · simp [here]
    · have := rank_begin_le attempt repo first rest
      simp only [here]
      omega
  · next repo operation rest stage =>
    cases asked
    have here : attempt.rank = 2 * rest.length + 2 := by simp [rank, stage]
    rcases answer with error | ⟨_ | _ | _, lease⟩
    · simp [here]
    · have := rank_begin_le { attempt with lease } repo operation rest
      simp only [here]
      omega
    · simp [here]
    · simp [here]
  · next repo operation effect rest stage =>
    cases asked
    have here : attempt.rank = 2 * rest.length + 1 := by simp [rank, stage]
    dsimp only
    split
    · simp [here]
    · exact here ▸ Nat.lt_succ_of_le (rank_proceed_le _ repo rest)
  · cases asked

end Attempt

end BatchChanges
