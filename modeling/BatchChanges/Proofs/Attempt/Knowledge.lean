import BatchChanges.Proofs.Attempt.Told

/-! # What attempts know and need

An attempt adds to what is known of a pull request and forgets nothing of it. Whatever it learns
comes with the number of the pull request. Its operations ask for that number or for a branch push,
and the plan has been made from what is known: as long as a changeset with a pull request has the
number, and one that a campaign created has a branch push, every operation of every plan finds what
it needs. So an attempt whose changeset names what is stored fails only where the store or the code
host does, or where its lease was lost.
-/

namespace BatchChanges

namespace Changeset

/-- What a changeset is from its beginning to its end. -/
def identity (row : Changeset) : ChangesetId × RepoId × CodeHost × Option CampaignId × Time :=
  (row.id, row.repoId, row.codeHost, row.ownerId, row.createdAt)

/-- What is known of the pull request. -/
def standing (row : Changeset) : Publication × Option HostState :=
  (row.publication, row.externalState)

/-- What is known of the pull request, and which one it is. -/
def sight (row : Changeset) : (Publication × Option HostState) × Option String × Bool :=
  (row.standing, row.externalId, row.unsynced)

/-- What is known of a pull request is not forgotten, and whatever is new comes with its number. -/
structure Learns (row after : Changeset) : Prop where
  published : row.publication = .published → after.publication = .published
  opened : row.externalId ≠ none → after.externalId ≠ none
  synced : row.unsynced = false → after.unsynced = false
  numbered : after.sight = row.sight ∨ after.externalId ≠ none

variable {row middle after : Changeset}

private theorem externalId_of_sight (same : after.sight = row.sight)
    (opened : row.externalId ≠ none) : after.externalId ≠ none := by
  rwa [show after.externalId = row.externalId from congrArg (·.2.1) same]

theorem Learns.of_sight (same : after.sight = row.sight) : row.Learns after where
  published published := (congrArg (·.1.1) same).trans published
  opened opened := externalId_of_sight same opened
  synced synced := (congrArg (·.2.2) same).trans synced
  numbered := .inl same

theorem Learns.trans (first : row.Learns middle) (second : middle.Learns after) :
    row.Learns after where
  published published := second.published (first.published published)
  opened opened := second.opened (first.opened opened)
  synced synced := second.synced (first.synced synced)
  numbered := by
    rcases second.numbered with same | opened
    · rcases first.numbered with before | opened
      · exact .inl (same.trans before)
      · exact .inr (externalId_of_sight same opened)
    · exact .inr opened

/-- An answer of the code host says which pull request it is about. -/
theorem learns_answered (operation : Operation) (row : Changeset) (view : PullRequest) :
    row.Learns (operation.answered view row) := by
  have opened : (operation.answered view row).externalId ≠ none := by
    cases operation <;> exact Option.some_ne_none view.externalId
  refine ⟨?_, fun _ => opened, ?_, .inr opened⟩
  · intro published
    cases operation with
    | publish | publishDraft => rfl
    | _ => exact published
  · intro synced
    cases operation with
    | sync => rfl
    | _ => exact synced

/-- Whatever is known of a pull request, its number is known too. -/
structure Located (row : Changeset) : Prop where
  published : row.publication = .published → row.externalId ≠ none
  state : row.externalState ≠ none → row.externalId ≠ none
  unsynced : row.unsynced = true → row.externalId ≠ none

theorem Located.of_externalId (opened : row.externalId ≠ none) : row.Located :=
  ⟨fun _ => opened, fun _ => opened, fun _ => opened⟩

theorem Located.congr (located : row.Located) (same : after.sight = row.sight) :
    after.Located where
  published published := externalId_of_sight same
    (located.published ((congrArg (·.1.1) same).symm.trans published))
  state state := by
    rw [show after.externalState = row.externalState from congrArg (·.1.2) same] at state
    exact externalId_of_sight same (located.state state)
  unsynced unsynced := externalId_of_sight same
    (located.unsynced ((congrArg (·.2.2) same).symm.trans unsynced))

theorem Learns.located (learns : row.Learns after) (located : row.Located) : after.Located := by
  rcases learns.numbered with same | opened
  · exact located.congr same
  · exact .of_externalId opened

/-- Everything that a changeset names is stored, and one that a campaign created names a branch
push. -/
structure Grounded (specs : Table .changesetSpec ChangesetSpec) (repos : Table .repo Repo)
    (row : Changeset) : Prop extends Located row where
  repo : ∃ repo, repos.find? row.repoId = some repo
  current {id : ChangesetSpecId} (named : row.currentSpecId = some id) :
    ∃ spec push, specs.find? id = some spec ∧ spec.branchPush? = some push
  previous {id : ChangesetSpecId} (named : row.previousSpecId = some id) :
    ∃ spec, specs.find? id = some spec
  owned : row.ownerId ≠ none → row.currentSpecId ≠ none

end Changeset

namespace Operation

variable {push : Option BranchPush} {branch : BranchPush} {claimed row : Changeset}
  {operation : Operation}

private theorem Runs.learns {run : List Operation} {told : List Effect}
    (runs : Runs push claimed run row told) : claimed.Learns row := by
  refine runs.keeps claimed.Learns (.of_sight rfl) (fun learnt => learnt.trans (.of_sight rfl))
    (fun _ learnt => learnt.trans (.of_sight rfl)) fun {operation before} _ view _ learnt => ?_
  exact learnt.trans (Changeset.learns_answered operation before view)

/-- An operation finds what it needs. -/
def Ready (push : Option BranchPush) (row : Changeset) (operation : Operation) : Prop :=
  ∃ effect, operation.effect push row = .ok effect

private theorem ready_push (given : push = some branch) : Ready push row .push :=
  ⟨_, requirePush_bind_ok.mpr ⟨branch, given, rfl⟩⟩

private theorem ready_of_opens (given : push = some branch) (opens : Plan.opens operation = true) :
    Ready push row operation := by
  cases operation with
  | publish | publishDraft => exact ⟨_, requirePush_bind_ok.mpr ⟨branch, given, rfl⟩⟩
  | _ => cases opens

private theorem ready_of_requireExternalId (opened : row.externalId ≠ none)
    (asks : ∃ request : String → HostRequest, operation.effect push row =
      (operation.requireExternalId row >>= fun externalId =>
        .ok (some (.request (request externalId))))) : Ready push row operation := by
  obtain ⟨externalId, known⟩ := Option.ne_none_iff_exists'.mp opened
  obtain ⟨request, same⟩ := asks
  exact ⟨_, same.trans (requireExternalId_bind_ok.mpr ⟨externalId, known, rfl⟩)⟩

private theorem ready_update (given : push = some branch) (opened : row.externalId ≠ none) :
    Ready push row .update := by
  obtain ⟨externalId, known⟩ := Option.ne_none_iff_exists'.mp opened
  exact ⟨_, requirePush_bind_ok.mpr ⟨branch, given,
    requireExternalId_bind_ok.mpr ⟨externalId, known, rfl⟩⟩⟩

end Operation

private theorem Plan.mem_opening {intent : PublishIntent} {host : CodeHost} {operation : Operation}
    (member : operation ∈ opening intent host) : operation = .push ∨ opens operation = true := by
  have pair : ∀ {second : Operation}, opens second = true → operation ∈ [.push, second] →
      operation = .push ∨ opens operation = true := by
    intro second opening member
    rcases List.mem_cons.mp member with rfl | last
    · exact .inl rfl
    · rw [List.mem_singleton.mp last]
      exact .inr opening
  cases intent with
  | published => exact pair rfl member
  | draft =>
    simp only [opening] at member
    split at member
    · exact pair rfl member
    · cases member
  | unpublished => cases member

/-- Every operation of a plan finds what it needs, if whatever is known of the pull request comes
with its number. -/
theorem Plan.Decides.ready {previous current : Option BranchPush} {claimed row : Changeset}
    {plan : Plan} {operation : Operation} (decides : Decides previous current claimed plan)
    (located : claimed.Located) (learns : claimed.Learns row)
    (member : operation ∈ plan.operations) : operation.Ready current row := by
  cases decides with
  | merged merged => cases member
  | closing closing =>
    rw [List.mem_singleton.mp member]
    exact ⟨_, rfl⟩
  | reopening closed held =>
    rw [List.mem_singleton.mp member]
    have opened : claimed.externalId ≠ none := located.state (by simp [closed])
    exact Operation.ready_of_requireExternalId (learns.opened opened) ⟨_, rfl⟩
  | loading pushless unsynced =>
    rw [List.mem_singleton.mp member]
    exact Operation.ready_of_requireExternalId (learns.opened (located.unsynced unsynced)) ⟨_, rfl⟩
  | tracking pushless => cases member
  | @opening push pushes unpublished =>
    rcases Plan.mem_opening member with rfl | opens
    · exact Operation.ready_push pushes
    · exact Operation.ready_of_opens pushes opens
  | @changing push delta pushes published differs =>
    have opened : row.externalId ≠ none := learns.opened (located.published published)
    simp only [Plan.changing, List.mem_append] at member
    rcases member with (member | member) | member
    · split at member
      · rw [List.mem_singleton.mp member]
        exact Operation.ready_of_requireExternalId opened ⟨_, rfl⟩
      · cases member
    · split at member
      · rw [List.mem_singleton.mp member]
        exact Operation.ready_update pushes opened
      · cases member
    · split at member
      · simp only [List.mem_cons, List.not_mem_nil, or_false] at member
        rcases member with rfl | rfl | rfl
        · exact Operation.ready_push pushes
        · exact ⟨_, rfl⟩
        · exact Operation.ready_of_requireExternalId opened ⟨_, rfl⟩
      · cases member

def Question.refusal? : (question : Question) → question.Answer → Option StoreError
  | .changesetSpec _, .error error => some error
  | .repo _, .error error => some error
  | .renewal _, .error error => some error
  | _, _ => none

/-- An answer that makes an attempt fail: the store or the code host fails, or the lease is lost. -/
inductive Question.Causes : (question : Question) → question.Answer → ReconcileError → Prop
  | store {question : Question} {answer : question.Answer} {error : StoreError}
      (refused : question.refusal? answer = some error) : Causes question answer (.store error)
  | leaseLost {lease : Lease} {verdict : Verdict} {renewed : Lease} (operation : Operation)
      (lost : verdict ≠ .applied) :
      Causes (.renewal lease) (.ok (verdict, renewed)) (.leaseLost lease.changesetId operation)
  | host {question : Question} {answer : question.Answer} (operation : Operation)
      (error : HostError) (asked : question.asksHost = true) :
      Causes question answer (.host operation error)

/-- Specs and repositories are read from tables. -/
def Question.Finds (specs : Table .changesetSpec ChangesetSpec) (repos : Table .repo Repo) :
    (question : Question) → question.Answer → Prop
  | .changesetSpec id, answer => ∀ spec, answer = .ok spec → specs.find? id = spec
  | .repo id, answer => ∀ repo, answer = .ok repo → repos.find? id = repo
  | _, _ => True

private theorem Operation.causes_of_absorb {operation : Operation} {repo : Repo} {effect : Effect}
    {row : Changeset} {answer : (effect.question repo).Answer} {failure : ReconcileError}
    (refused : operation.absorb repo effect row answer = .error failure) :
    Question.Causes (effect.question repo) answer failure := by
  cases effect with
  | push branch =>
    rcases answer with error | ⟨⟨⟩⟩
    · cases refused
      exact .host operation error rfl
    · cases refused
  | request asked =>
    rcases answer with error | view
    · cases refused
      exact .host operation error rfl
    · cases refused
  | pause => cases refused

/-- There is no plan only for a changeset that has an owner but no branch push. -/
theorem Plan.determine_eq_error {previous current : Option ChangesetSpec} {row : Changeset}
    {cause : MissingCurrentSpec} (refused : determine previous current row = .error cause) :
    row.ownerId ≠ none ∧ current.bind ChangesetSpec.branchPush? = none := by
  simp only [determine, between] at refused
  split at refused
  · cases refused
  · split at refused
    · cases refused
    · split at refused
      · cases refused
      · split at refused
        · next pushless =>
          split at refused
          · next owned => exact ⟨Option.isSome_iff_ne_none.mp owned, pushless⟩
          · split at refused <;> cases refused
        · split at refused <;> cases refused

namespace Attempt

variable {attempt : Attempt} {failure : ReconcileError}

private theorem error_of_plan {previous current : Option ChangesetSpec}
    (failed : (attempt.plan previous current).stage = .settled (some failure)) :
    attempt.row.ownerId ≠ none ∧ current.bind ChangesetSpec.branchPush? = none := by
  simp only [plan] at failed
  split at failed
  · next cause refused => exact Plan.determine_eq_error refused
  · split at failed <;> cases failed

private theorem error_of_seekCurrent {previous : Option ChangesetSpec}
    (failed : (attempt.seekCurrent previous).stage = .settled (some failure)) :
    attempt.row.ownerId ≠ none ∧ attempt.row.currentSpecId = none := by
  simp only [seekCurrent] at failed
  split at failed
  · cases failed
  · next unnamed => exact ⟨(error_of_plan failed).1, unnamed⟩

theorem error_of_start {row : Changeset} {lease : Lease}
    (failed : (start row lease).stage = .settled (some failure)) :
    row.ownerId ≠ none ∧ row.currentSpecId = none := by
  simp only [start] at failed
  split at failed
  · cases failed
  · exact error_of_seekCurrent failed

private theorem proceed_not_failed (attempt : Attempt) (repo : Repo) (rest : List Operation) :
    (attempt.proceed repo rest).stage ≠ .settled (some failure) := by
  cases rest <;> simp [proceed, settle]

private theorem error_of_begin {repo : Repo} {operation : Operation} {rest : List Operation}
    (failed : (attempt.begin repo operation rest).stage = .settled (some failure)) :
    ¬ operation.Ready attempt.push attempt.row := by
  simp only [begin] at failed
  split at failed
  · next refused =>
    rintro ⟨effect, acts⟩
    rw [refused] at acts
    cases acts
  · exact absurd failed (proceed_not_failed _ _ _)
  · cases failed

end Attempt

namespace Flight

variable {specs : Table .changesetSpec ChangesetSpec} {repos : Table .repo Repo} {flight : Flight}
  {question : Question} {resume : question.Answer → Attempt} {answer : question.Answer}
  {failure : ReconcileError}

private theorem Follows.ready {previous current : Option ChangesetSpec} {plan : Plan}
    {run left : List Operation} {operation : Operation}
    (follows : flight.Follows specs previous current plan run (operation :: left))
    (located : flight.claimed.Located) :
    operation.Ready flight.attempt.push flight.attempt.row := by
  rw [follows.push (List.cons_ne_nil _ _)]
  refine (Plan.decides_of_between follows.planned).ready located follows.runs.learns ?_
  rw [follows.split]
  exact List.mem_append_right _ List.mem_cons_self

/-- An attempt forgets nothing. -/
theorem Course.learns (course : flight.Course specs) :
    flight.claimed.Learns flight.attempt.row := by
  cases course with
  | planned follows between acts => exact follows.runs.learns
  | _ => exact .of_sight rfl

/-- An attempt fails only for a cause that an answer gives. -/
theorem Course.causes (course : flight.Course specs)
    (grounded : flight.claimed.Grounded specs repos)
    (asks : flight.attempt.next = .ask question resume) (finds : question.Finds specs repos answer)
    (failed : (resume answer).stage = .settled (some failure)) : question.Causes answer failure := by
  cases course with
  | @readingPrevious claimed lease id named =>
    cases asks
    rcases answer with error | _ | spec
    · cases failed
      exact .store rfl
    · obtain ⟨spec, found⟩ := grounded.previous named
      rw [finds none rfl] at found
      cases found
    · obtain ⟨owned, unnamed⟩ := Attempt.error_of_seekCurrent failed
      exact absurd unnamed (grounded.owned owned)
  | @readingCurrent claimed lease previous id names named =>
    cases asks
    obtain ⟨spec, push, found, pushes⟩ := grounded.current named
    rcases answer with error | _ | read
    · cases failed
      exact .store rfl
    · rw [finds none rfl] at found
      cases found
    · rw [finds (some read) rfl] at found
      cases found
      obtain ⟨-, pushless⟩ := Attempt.error_of_plan failed
      rw [Option.bind_some, pushes] at pushless
      cases pushless
  | unplanned => cases asks
  | @planned _ previous current plan run left follows between acts =>
    cases stage : flight.attempt.stage with
    | readingPrevious id =>
      rw [stage] at between
      exact between.elim
    | readingCurrent previous id =>
      rw [stage] at between
      exact between.elim
    | readingRepo first rest =>
      rw [stage] at between
      obtain ⟨rfl, rfl⟩ := between
      simp only [Attempt.next, stage] at asks
      cases asks
      rcases answer with error | _ | repo
      · cases failed
        exact .store rfl
      · obtain ⟨repo, found⟩ := grounded.repo
        rw [← follows.runs.of_nil.1, finds none rfl] at found
        cases found
      · exact absurd (follows.ready grounded.toLocated) (Attempt.error_of_begin failed)
    | renewing repo operation rest =>
      rw [stage] at between
      cases between
      simp only [Attempt.next, stage] at asks
      cases asks
      rcases answer with error | ⟨_ | _ | _, lease⟩
      · cases failed
        exact .store rfl
      · have begun : (Attempt.begin { flight.attempt with lease } repo operation rest).stage =
            .settled (some failure) := failed
        exact (Attempt.error_of_begin begun (follows.ready grounded.toLocated)).elim
      · cases failed
        exact .leaseLost operation (by decide)
      · cases failed
        exact .leaseLost operation (by decide)
    | acting repo operation effect rest =>
      simp only [Attempt.next, stage] at asks
      cases asks
      dsimp only at failed
      split at failed
      · next error refused =>
        cases failed
        exact Operation.causes_of_absorb refused
      · exact absurd failed (Attempt.proceed_not_failed _ _ _)
    | settled failure =>
      simp only [Attempt.next, stage] at asks
      cases asks

end Flight

end BatchChanges
