import BatchChanges.Attempt
import BatchChanges.Proofs.Campaign.Mapping
import BatchChanges.Reconcile.Outcome

/-! # The course of an attempt

At every point an attempt has run a first part of its plan, operation by operation, and its row is
the claimed one after exactly these operations. The plan comes from the specs that the claimed row
names. What the code host was told with success are the effects of the operations that were run.
-/

namespace BatchChanges

/-- What a code host was told, if it took it. -/
def Question.told? : (question : Question) → question.Answer → Option Effect
  | .push _ branch, .ok () => some (.push branch)
  | .request _ asked, .ok _ => some (.request asked)
  | _, _ => none

def Question.Reads (specs : Table .changesetSpec ChangesetSpec) :
    (question : Question) → question.Answer → Prop
  | .changesetSpec id, answer => ∀ spec, answer = .ok spec → specs.find? id = spec
  | _, _ => True

/-- What becomes of a row with an answer that an operation absorbs. -/
inductive Operation.Absorbs (operation : Operation) (repo : Repo) (row : Changeset) :
    (effect : Effect) → (effect.question repo).Answer → Changeset → Prop
  | pushed (branch : BranchPush) :
      Absorbs operation repo row (.push branch) (Except.ok ()) (pushed branch row)
  | answered (asked : HostRequest) (view : PullRequest) :
      Absorbs operation repo row (.request asked) (Except.ok view) (operation.answered view row)
  | paused : Absorbs operation repo row .pause () row

theorem Operation.absorbs_of_absorb {operation : Operation} {repo : Repo} {effect : Effect}
    {row next : Changeset} {answer : (effect.question repo).Answer}
    (absorbed : operation.absorb repo effect row answer = .ok next) :
    operation.Absorbs repo row effect answer next := by
  cases effect with
  | push branch =>
    rcases answer with _ | ⟨⟨⟩⟩
    · cases absorbed
    · cases absorbed
      exact .pushed branch
  | request asked =>
    rcases answer with _ | view
    · cases absorbed
    · cases absorbed
      exact .answered asked view
  | pause =>
    cases absorbed
    exact .paused

/-- An attempt under way. -/
structure Flight where
  /-- The changeset as it was claimed. -/
  claimed : Changeset
  attempt : Attempt
  /-- What the code host was told with success, the last first. -/
  told : List Effect := []

namespace Attempt

/-- How an attempt goes on with an answer: it fails, it reads on, or it gets on with its plan. -/
inductive Moves (attempt : Attempt) : (question : Question) → question.Answer → Attempt → Prop
  | failed {question : Question} {answer : question.Answer} (error : ReconcileError)
      (silent : question.told? answer = none)
      (busy : ∀ failure, attempt.stage ≠ .settled failure) :
      Moves attempt question answer (attempt.settle (some error))
  | readPrevious {id : ChangesetSpecId} {spec : ChangesetSpec}
      (stage : attempt.stage = .readingPrevious id) :
      Moves attempt (.changesetSpec id) (.ok (some spec)) (attempt.seekCurrent (some spec))
  | readCurrent {previous : Option ChangesetSpec} {id : ChangesetSpecId} {spec : ChangesetSpec}
      (stage : attempt.stage = .readingCurrent previous id) :
      Moves attempt (.changesetSpec id) (.ok (some spec)) (attempt.plan previous (some spec))
  | readRepo {first : Operation} {rest : List Operation} {repo : Repo}
      (stage : attempt.stage = .readingRepo first rest) :
      Moves attempt (.repo attempt.row.repoId) (.ok (some repo)) (attempt.begin repo first rest)
  | renewed {repo : Repo} {operation : Operation} {rest : List Operation} {lease : Lease}
      (stage : attempt.stage = .renewing repo operation rest) :
      Moves attempt (.renewal attempt.lease) (.ok (.applied, lease))
        (begin { attempt with lease } repo operation rest)
  | acted {repo : Repo} {operation : Operation} {effect : Effect} {rest : List Operation}
      {answer : (effect.question repo).Answer} {row : Changeset}
      (stage : attempt.stage = .acting repo operation effect rest)
      (absorbed : operation.absorb repo effect attempt.row answer = .ok row) :
      Moves attempt (effect.question repo) answer (proceed { attempt with row } repo rest)

theorem next_eq_settled_iff {attempt : Attempt} {failure : Option ReconcileError} :
    attempt.next = .settled failure ↔ attempt.stage = .settled failure := by
  simp only [next]
  split <;> simp_all

private theorem told?_of_absorb_error {operation : Operation} {repo : Repo} {effect : Effect}
    {row : Changeset} {answer : (effect.question repo).Answer} {error : ReconcileError}
    (refused : operation.absorb repo effect row answer = .error error) :
    (effect.question repo).told? answer = none := by
  cases effect with
  | push branch =>
    rcases answer with _ | ⟨⟨⟩⟩
    · rfl
    · cases refused
  | request asked =>
    rcases answer with _ | view
    · rfl
    · cases refused
  | pause => rfl

/-- Going on after a question is one of the moves. -/
theorem moves_of_next {attempt : Attempt} {question : Question}
    {resume : question.Answer → Attempt} (asks : attempt.next = .ask question resume)
    (answer : question.Answer) : attempt.Moves question answer (resume answer) := by
  have busy : ∀ failure, attempt.stage ≠ .settled failure := by
    intro failure settled
    rw [next_eq_settled_iff.mpr settled] at asks
    cases asks
  simp only [next] at asks
  split at asks
  · next id stage =>
    cases asks
    rcases answer with error | _ | spec
    · exact .failed _ rfl busy
    · exact .failed _ rfl busy
    · exact .readPrevious stage
  · next previous id stage =>
    cases asks
    rcases answer with error | _ | spec
    · exact .failed _ rfl busy
    · exact .failed _ rfl busy
    · exact .readCurrent stage
  · next first rest stage =>
    cases asks
    rcases answer with error | _ | repo
    · exact .failed _ rfl busy
    · exact .failed _ rfl busy
    · exact .readRepo stage
  · next repo operation rest stage =>
    cases asks
    rcases answer with error | ⟨_ | _ | _, lease⟩
    · exact .failed _ rfl busy
    · exact .renewed stage
    · exact .failed _ rfl busy
    · exact .failed _ rfl busy
  · next repo operation effect rest stage =>
    cases asks
    dsimp only
    split
    · next error refused => exact .failed _ (told?_of_absorb_error refused) busy
    · next row absorbed => exact .acted stage absorbed
  · cases asks

variable (attempt : Attempt) (repo : Repo) (operation : Operation) (rest : List Operation)

@[simp] theorem lease_plan (previous current : Option ChangesetSpec) :
    (attempt.plan previous current).lease = attempt.lease := by
  simp only [plan]
  split
  · rfl
  · split <;> rfl

@[simp] theorem lease_seekCurrent (previous : Option ChangesetSpec) :
    (attempt.seekCurrent previous).lease = attempt.lease := by
  simp only [seekCurrent]
  split
  · rfl
  · exact lease_plan attempt previous none

@[simp] theorem lease_start (row : Changeset) (lease : Lease) :
    (start row lease).lease = lease := by
  simp only [start]
  split
  · rfl
  · exact lease_seekCurrent _ none

@[simp] theorem lease_proceed : (attempt.proceed repo rest).lease = attempt.lease := by
  cases rest <;> rfl

@[simp] theorem lease_begin : (attempt.begin repo operation rest).lease = attempt.lease := by
  simp only [begin]
  split
  · rfl
  · exact lease_proceed _ repo rest
  · rfl

end Attempt

/-- What running operations makes of a row, and what the code host was told meanwhile. -/
inductive Operation.Runs (push : Option BranchPush) (claimed : Changeset) :
    List Operation → Changeset → List Effect → Prop
  | nothing : Runs push claimed [] claimed []
  | marked {operations : List Operation} {row : Changeset} {told : List Effect}
      {operation : Operation} (before : Runs push claimed operations row told)
      (idle : operation.effect push row = .ok none) :
      Runs push claimed (operations ++ [operation]) (operation.mark row) told
  | acted {operations : List Operation} {row next : Changeset} {told : List Effect}
      {operation : Operation} {effect : Effect} {repo : Repo}
      {answer : (effect.question repo).Answer} (before : Runs push claimed operations row told)
      (acts : operation.effect push row = .ok (some effect))
      (absorbed : operation.absorb repo effect row answer = .ok next) :
      Runs push claimed (operations ++ [operation]) next
        (((effect.question repo).told? answer).toList ++ told)

/-- Which operations an attempt has run, and which it has before it: one that failed did so before
its plan was done. -/
def Stage.Between : Stage → List Operation → List Operation → Prop
  | .readingRepo first rest, run, left => run = [] ∧ left = first :: rest
  | .renewing _ operation rest, _, left => left = operation :: rest
  | .acting _ operation _ rest, _, left => left = operation :: rest
  | .settled none, _, left => left = []
  | .settled (some _), _, left => left ≠ []
  | .readingPrevious _, _, _ | .readingCurrent _ _, _, _ => False

/-- A plan is done when its attempt has succeeded, and not before. -/
theorem Stage.Between.left_eq_nil_iff {stage : Stage} {run left : List Operation}
    (between : stage.Between run left) : left = [] ↔ stage = .settled none := by
  cases stage with
  | readingPrevious id => exact between.elim
  | readingCurrent previous id => exact between.elim
  | readingRepo first rest => simp [between.2]
  | renewing repo operation rest =>
    cases between
    simp
  | acting repo operation effect rest =>
    cases between
    simp
  | settled failure =>
    cases failure with
    | none => exact iff_of_true between rfl
    | some error => exact iff_of_false between (by simp)

namespace Flight

variable {specs : Table .changesetSpec ChangesetSpec}

/-- An attempt follows the plan that two stored specs and its claimed row make, and has run the
first operations of it. -/
structure Follows (specs : Table .changesetSpec ChangesetSpec) (flight : Flight)
    (previous current : Option ChangesetSpec) (plan : Plan) (run left : List Operation) : Prop where
  namesPrevious : specs.Names flight.claimed.previousSpecId previous
  namesCurrent : specs.Names flight.claimed.currentSpecId current
  planned : Plan.determine previous current flight.claimed = .ok plan
  operations : flight.attempt.planned = plan.operations
  push : left ≠ [] → flight.attempt.push = current.bind ChangesetSpec.branchPush?
  split : plan.operations = run ++ left
  runs : Operation.Runs (current.bind ChangesetSpec.branchPush?) flight.claimed run
    flight.attempt.row flight.told

/-- Where an attempt can stand. -/
inductive Course (specs : Table .changesetSpec ChangesetSpec) : Flight → Prop
  | readingPrevious {claimed : Changeset} {lease : Lease} {id : ChangesetSpecId}
      (named : claimed.previousSpecId = some id) :
      Course specs ⟨claimed, { row := claimed, lease, stage := .readingPrevious id }, []⟩
  | readingCurrent {claimed : Changeset} {lease : Lease} {previous : Option ChangesetSpec}
      {id : ChangesetSpecId} (names : specs.Names claimed.previousSpecId previous)
      (named : claimed.currentSpecId = some id) :
      Course specs ⟨claimed, { row := claimed, lease, stage := .readingCurrent previous id }, []⟩
  | unplanned {claimed : Changeset} {lease : Lease} {error : ReconcileError} :
      Course specs ⟨claimed, { row := claimed, lease, stage := .settled (some error) }, []⟩
  | planned {flight : Flight} {previous current : Option ChangesetSpec} {plan : Plan}
      {run left : List Operation} (follows : flight.Follows specs previous current plan run left)
      (between : flight.attempt.stage.Between run left)
      (acts : ∀ {repo operation effect rest},
        flight.attempt.stage = .acting repo operation effect rest →
          operation.effect (current.bind ChangesetSpec.branchPush?) flight.attempt.row =
            .ok (some effect)) :
      Course specs flight

/-- Planning is the beginning of a plan, or fails. -/
theorem course_plan {claimed : Changeset} {lease : Lease} {stage : Stage}
    {previous current : Option ChangesetSpec}
    (namesPrevious : specs.Names claimed.previousSpecId previous)
    (namesCurrent : specs.Names claimed.currentSpecId current) :
    Course specs ⟨claimed, Attempt.plan { row := claimed, lease, stage } previous current, []⟩ := by
  simp only [Attempt.plan]
  split
  · exact .unplanned
  · next plan determined =>
    split
    · next nothing =>
      have follows : Follows specs ⟨claimed, Attempt.settle { row := claimed, lease, stage } none,
          []⟩ previous current plan [] [] :=
        ⟨namesPrevious, namesCurrent, determined, nothing.symm, fun some => absurd rfl some,
          nothing, .nothing⟩
      exact .planned follows rfl fun stage => by cases stage
    · next first rest operations =>
      exact .planned ⟨namesPrevious, namesCurrent, determined, rfl, fun _ => rfl, operations,
        .nothing⟩ ⟨rfl, rfl⟩ fun stage => by cases stage

private theorem course_seekCurrent {claimed : Changeset} {lease : Lease} {stage : Stage}
    {previous : Option ChangesetSpec} (names : specs.Names claimed.previousSpecId previous) :
    Course specs ⟨claimed, Attempt.seekCurrent { row := claimed, lease, stage } previous, []⟩ := by
  simp only [Attempt.seekCurrent]
  split
  · next id named => exact .readingCurrent names named
  · next unnamed =>
    have namesCurrent : specs.Names claimed.currentSpecId none := by
      rw [unnamed]
      exact .nothing
    exact course_plan names namesCurrent

/-- An attempt begins with reading. -/
theorem course_start (claimed : Changeset) (lease : Lease) :
    Course specs ⟨claimed, .start claimed lease, []⟩ := by
  simp only [Attempt.start]
  split
  · next id named => exact .readingPrevious named
  · next unnamed =>
    have namesPrevious : specs.Names claimed.previousSpecId none := by
      rw [unnamed]
      exact .nothing
    exact course_seekCurrent namesPrevious

variable {flight : Flight} {previous current : Option ChangesetSpec} {plan : Plan}
  {run left : List Operation}

/-- Neither the stage nor the lease of an attempt matters for the plan it follows. -/
theorem Follows.congr {other : Flight}
    (follows : flight.Follows specs previous current plan run left)
    (claimed : other.claimed = flight.claimed) (row : other.attempt.row = flight.attempt.row)
    (planned : other.attempt.planned = flight.attempt.planned)
    (push : other.attempt.push = flight.attempt.push) (told : other.told = flight.told) :
    other.Follows specs previous current plan run left where
  namesPrevious := claimed ▸ follows.namesPrevious
  namesCurrent := claimed ▸ follows.namesCurrent
  planned := claimed ▸ follows.planned
  operations := planned ▸ follows.operations
  push := push ▸ follows.push
  split := follows.split
  runs := by
    rw [claimed, row, told]
    exact follows.runs

private theorem Follows.settle (follows : flight.Follows specs previous current plan run left)
    (unfinished : left ≠ []) (error : ReconcileError) :
    Course specs { flight with attempt := flight.attempt.settle (some error) } :=
  .planned (follows.congr rfl rfl rfl rfl rfl) unfinished fun stage => by cases stage

private theorem Follows.proceed (follows : flight.Follows specs previous current plan run left)
    (repo : Repo) : Course specs { flight with attempt := flight.attempt.proceed repo left } := by
  cases left with
  | nil =>
    exact .planned (follows.congr rfl rfl rfl rfl rfl) rfl fun stage => by cases stage
  | cons operation rest =>
    exact .planned (follows.congr rfl rfl rfl rfl rfl) rfl fun stage => by cases stage

/-- Having run one more operation, an attempt has one less before it. -/
theorem Follows.advance {operation : Operation} {row : Changeset} {told : List Effect}
    (follows : flight.Follows specs previous current plan run (operation :: left))
    (runs : Operation.Runs (current.bind ChangesetSpec.branchPush?) flight.claimed
      (run ++ [operation]) row told) :
    Follows specs ⟨flight.claimed, { flight.attempt with row }, told⟩ previous current plan
      (run ++ [operation]) left where
  namesPrevious := follows.namesPrevious
  namesCurrent := follows.namesCurrent
  planned := follows.planned
  operations := follows.operations
  push _ := follows.push (by simp)
  split := by rw [follows.split, List.append_assoc, List.singleton_append]
  runs := runs

private theorem Follows.begin {operation : Operation}
    (follows : flight.Follows specs previous current plan run (operation :: left)) (repo : Repo) :
    Course specs { flight with attempt := flight.attempt.begin repo operation left } := by
  have push := follows.push (by simp)
  simp only [Attempt.begin]
  split
  · next failure missing => exact follows.settle (by simp) failure
  · next idle =>
    rw [push] at idle
    exact (follows.advance (.marked follows.runs idle)).proceed repo
  · next effect acts =>
    rw [push] at acts
    refine .planned (follows.congr rfl rfl rfl rfl rfl) rfl ?_
    intro repo operation effect rest stage
    cases stage
    exact acts

/-- Every move keeps an attempt on its course, if specs are read from the store. -/
theorem Course.moves {question : Question} {answer : question.Answer} {next : Attempt}
    (course : flight.Course specs) (moves : flight.attempt.Moves question answer next)
    (reads : question.Reads specs answer) :
    Course specs { flight with
      attempt := next, told := (question.told? answer).toList ++ flight.told } := by
  cases course with
  | readingPrevious named =>
    cases moves with
    | failed error silent =>
      rw [silent]
      exact .unplanned
    | readPrevious stage =>
      cases stage
      exact course_seekCurrent (by rw [named]; exact .row (reads _ rfl))
    | readCurrent stage => cases stage
    | readRepo stage => cases stage
    | renewed stage => cases stage
    | acted stage absorbed => cases stage
  | readingCurrent names named =>
    cases moves with
    | failed error silent =>
      rw [silent]
      exact .unplanned
    | readPrevious stage => cases stage
    | readCurrent stage =>
      cases stage
      exact course_plan names (by rw [named]; exact .row (reads _ rfl))
    | readRepo stage => cases stage
    | renewed stage => cases stage
    | acted stage absorbed => cases stage
  | unplanned =>
    cases moves with
    | failed error silent =>
      rw [silent]
      exact .unplanned
    | readPrevious stage => cases stage
    | readCurrent stage => cases stage
    | readRepo stage => cases stage
    | renewed stage => cases stage
    | acted stage absorbed => cases stage
  | planned follows between acts =>
    cases moves with
    | failed error silent busy =>
      rw [silent]
      have unfinished := between.left_eq_nil_iff.not.mpr (busy none)
      exact follows.settle unfinished error
    | readPrevious stage =>
      rw [stage] at between
      exact between.elim
    | readCurrent stage =>
      rw [stage] at between
      exact between.elim
    | readRepo stage =>
      rw [stage] at between
      obtain ⟨rfl, rfl⟩ := between
      exact follows.begin _
    | @renewed repo operation rest lease stage =>
      rw [stage] at between
      cases between
      have renewed : Follows specs ⟨flight.claimed, { flight.attempt with lease }, flight.told⟩ ..
        := follows.congr rfl rfl rfl rfl rfl
      exact renewed.begin repo
    | @acted repo operation effect rest answer row stage absorbed =>
      rw [stage] at between
      cases between
      exact (follows.advance (.acted follows.runs (acts stage) absorbed)).proceed repo

/-- An attempt that has settled followed a plan, or failed before it had one. -/
theorem Course.settled {failure : Option ReconcileError} (course : flight.Course specs)
    (stopped : flight.attempt.stage = .settled failure) :
    (∃ previous current plan run left, flight.Follows specs previous current plan run left ∧
      (failure = none → left = [])) ∨
      failure.isSome = true ∧ flight.attempt.planned = [] := by
  cases course with
  | readingPrevious named => cases stopped
  | readingCurrent names named => cases stopped
  | unplanned =>
    cases stopped
    exact .inr ⟨rfl, rfl⟩
  | @planned _ previous current plan run left follows between acts =>
    refine .inl ⟨previous, current, plan, run, left, follows, ?_⟩
    rintro rfl
    rw [stopped] at between
    exact between

end Flight

/-- One more failure is counted as long as there are larger numbers. -/
theorem toNat_countFailure (failures : UInt32) :
    (countFailure failures).toNat = min (failures.toNat + 1) (UInt32.size - 1) := by
  have below := failures.toNat_lt_size
  simp only [countFailure]
  split
  · next fits =>
    rw [UInt32.toNat_add, UInt32.toNat_one, Nat.mod_eq_of_lt fits]
    omega
  · omega

/-- The outcome of an attempt is the row that it worked on, completed or with a failure. -/
theorem Changeset.settled?_eq_some {row outcome : Changeset} {policy : RetryPolicy}
    {failure : Option ReconcileError} {now : Time}
    (settled : row.settled? policy failure now = some outcome) :
    (failure = none ∧ outcome = row.completed now) ∨
      ∃ error retryAt, failure = some error ∧ outcome = row.errored error retryAt now := by
  simp only [settled?] at settled
  split at settled
  · cases settled
    exact .inl ⟨rfl, rfl⟩
  · next error =>
    split at settled
    · obtain ⟨time, -, rfl⟩ := Option.map_eq_some_iff.mp settled
      exact .inr ⟨error, some time, rfl, rfl⟩
    · cases settled
      exact .inr ⟨error, none, rfl, rfl⟩

end BatchChanges
