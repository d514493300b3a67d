import BatchChanges.Proofs.System.CloseRequest
import BatchChanges.Proofs.System.Pursuit

/-! # Changesets that are taken up again

A campaign that drops a changeset has its pull request closed. When a later generation takes the
changeset up again, its pull request is reopened, and that is all: the planner does not compare the
specs of a closed pull request. So the commit and the text of the new spec are shown only if the
code host was told the same ones last.
-/

namespace BatchChanges

/-- What is known of a closed pull request. -/
def Closed (standing : Publication × Option HostState) : Prop := standing.2 = some .closed

namespace Flight.Pursues

variable {specs : Table .changesetSpec ChangesetSpec} {moved : Changeset} {flight : Flight}
  {effect : Effect}

/-- A closed pull request of a changeset that its campaign holds is reopened. -/
theorem reopens (pursues : flight.Pursues specs moved Closed) (held : moved.isOwnedAndAttached = true)
    (wanted : moved.closing = false) (previous current : Option ChangesetSpec) :
    Plan.determine previous current flight.claimed = .ok { operations := [.reopen] } :=
  Plan.determine_of_closed previous current pursues.fits
    ((Changeset.held_of_aim pursues.aim).trans held)
    ((Changeset.closing_of_aim pursues.aim).trans wanted)

private theorem reopened_or_closed (pursues : flight.Pursues specs moved Closed)
    (held : moved.isOwnedAndAttached = true) (wanted : moved.closing = false) :
    flight.attempt.stage = .settled none ∨ Closed flight.attempt.row.standing := by
  have short : ∀ {previous current plan},
      Plan.determine previous current flight.claimed = .ok plan → plan.operations.length ≤ 1 := by
    intro previous current plan planned
    cases planned.symm.trans (pursues.reopens held wanted previous current)
    exact Nat.le_refl 1
  refine (pursues.course.succeeded_or_idle short).imp_right fun ⟨same, _⟩ => ?_
  rw [same]
  exact pursues.fits

private theorem told_reopen (pursues : flight.Pursues specs moved Closed)
    (held : moved.isOwnedAndAttached = true) (wanted : moved.closing = false)
    (member : effect ∈ flight.told) : ∃ externalId, effect = .request (.reopen externalId) := by
  obtain ⟨previous, current, plan, -, -, planned, operation, member, row, performs⟩ :=
    pursues.course.told_performed member
  cases planned.symm.trans (pursues.reopens held wanted previous current)
  cases List.mem_singleton.mp member
  cases performs with
  | reopen opened => exact ⟨_, rfl⟩

private theorem told_of_succeeded (pursues : flight.Pursues specs moved Closed)
    (held : moved.isOwnedAndAttached = true) (wanted : moved.closing = false)
    (stopped : flight.attempt.stage = .settled none) : ∃ effect, effect ∈ flight.told := by
  obtain ⟨previous, current, plan, -, -, planned, performed⟩ := pursues.course.performed stopped
  cases planned.symm.trans (pursues.reopens held wanted previous current)
  obtain ⟨⟨⟩⟩ | ⟨row, effect, performs, told⟩ := performed .reopen List.mem_cons_self
  cases performs with
  | reopen opened => exact ⟨_, told.resolve_left (by simp)⟩

end Flight.Pursues

namespace System

variable {system : System} {event : Event} {id : ChangesetId}

private theorem effects_proceed (system : System) (number : Nat) (visible : Visibility)
    (id : ChangesetId) : (system.step (.proceed number visible)).effects id = system.effects id := by
  simp only [effects, step]
  split <;> rfl

/-- In every run that starts with the empty store, whatever else fails: an application moves a
changeset with a closed pull request on to a branch push, as when its campaign has dropped the
changeset before and now takes it up again, while no attempt on it is under way. If no campaign
edits the changeset after that, then until it is completed the code host is told to reopen the pull
request, and nothing else. So the commit that was pushed last is the one of its spec exactly if it
was before, and so is the text that the pull request was opened or edited with last. -/
theorem readopted_shows_spec_iff (faults : List Fault) (now : Time) (before after : List Event)
    (event : Event) (id : ChangesetId) (row moved final : Changeset) (spec : ChangesetSpec)
    (push : BranchPush)
    (idle : ∀ number flight, ((start faults now).run before).flights number = some flight →
      flight.claimed.id ≠ id)
    (closed : row.externalState = some .closed)
    (moves : ((start faults now).run before).MovesOn event id row spec moved)
    (pushes : spec.branchPush? = some push)
    (spared : ((start faults now).run (before ++ [event])).Along (Spares id) after)
    (found : ((start faults now).run (before ++ event :: after)).store.changesets.find? id =
      some final)
    (completed : final.queueState = .completed) :
    final.currentSpecId = some spec.id ∧
      ((start faults now).run (before ++ event :: after)).store.changesetSpecs.find? spec.id =
        some spec ∧
      (∃ sent, ((start faults now).run (before ++ event :: after)).effects id =
          sent ++ ((start faults now).run before).effects id ∧ sent ≠ [] ∧
        ∀ effect ∈ sent, ∃ externalId, effect = .request (.reopen externalId)) ∧
      (((start faults now).run (before ++ event :: after)).lastTold .commit id = some push.commit ↔
        ((start faults now).run before).lastTold .commit id = some push.commit) ∧
      (((start faults now).run (before ++ event :: after)).lastTold .text id = some push.text ↔
        ((start faults now).run before).lastTold .text id = some push.text) := by
  have sound := (sound_start faults now).run before
  rw [run_append, run_cons, run_nil] at spared
  rw [run_append, run_cons] at found ⊢
  generalize (start faults now).run before = origin at *
  have soundNext := sound.step event
  obtain ⟨current, -, wanted, held, queued⟩ := moves.wanted pushes
  obtain ⟨number, visible, -, -, happens, -⟩ := moves.transacts
  have begins : Pursuit Closed moved (origin.step event) id [] := by
    refine .start moves.stored rfl (by simp [queued]) ?_ ?_
    · rw [Closed, moves.standing]
      exact closed
    · intro number flight under
      rw [happens, flights_proceed] at under
      exact idle number flight under
  obtain ⟨sent, pursuit, effects⟩ := begins.run soundNext wanted spared
    fun _ _ pursues _ => pursues.reopened_or_closed held wanted
  rw [List.append_nil] at pursuit
  rw [happens, effects_proceed, ← happens] at effects
  have reopening : ∀ effect ∈ sent, ∃ externalId, effect = .request (.reopen externalId) := by
    intro effect member
    obtain ⟨flight, pursues, said⟩ := pursuit.source member
    exact pursues.told_reopen held wanted said
  have reopened : sent ≠ [] := by
    obtain ⟨flight, pursues, stopped, said⟩ := pursuit.completed found completed
    obtain ⟨effect, told⟩ := pursues.told_of_succeeded held wanted stopped
    exact List.ne_nil_of_mem (said effect told)
  have silent : ∀ {α : Type} (facet : Facet α),
      (∀ externalId, facet.carried? (.request (.reopen externalId)) = none) →
      ((origin.step event).run after).lastTold facet id = origin.lastTold facet id := by
    intro α facet nothing
    apply lastTold_of_not_told effects
    rintro ⟨effect, member, told, carried⟩
    obtain ⟨externalId, rfl⟩ := reopening effect member
    rw [nothing] at carried
    cases carried
  obtain ⟨stored, present, aim, -⟩ := pursuit.row
  cases found.symm.trans present
  refine ⟨(Changeset.currentSpecId_of_aim aim).trans current, ?_, ⟨sent, effects, reopened, reopening⟩,
    ?_, ?_⟩
  · exact sound.find?_changesetSpecs (event :: after) (moves.known sound)
  · rw [silent .commit fun _ => rfl]
  · rw [silent .text fun _ => rfl]

end System

-- The second generation drops the changeset of the first, whose pull request is then closed. The
-- third one takes it up again. All calls succeed.
namespace Sample

/-- The pull request is closed, and the third generation is about to be stored. -/
def leaving (title message : String) : List Event :=
  dropped title message ++ attempt 1 2 ++ [.ask 1 {} closedReply, .conclude 1 {}] ++
    (apply "c").take 4

/-- The pull request is reopened. -/
def reopening : List Event := attempt 2 4 ++ [.conclude 2 {}]

def readopted (title message : String) : List Event :=
  leaving title message ++ .proceed 0 visible :: reopening

end Sample

open Sample in
/-- The third generation has the title of the first and another commit: the title is the right one,
the commit is not. -/
theorem System.readopted_shows_spec_iff_title :
    ∃ row spec,
      ((start [] (instant 0)).run (readopted "a" "c")).store.changesets.find? ⟨7⟩ = some row ∧
      row.queueState = .completed ∧ row.currentSpecId = some spec.id ∧
      ((start [] (instant 0)).run (readopted "a" "c")).store.changesetSpecs.find? spec.id =
        some spec ∧
      spec.branchPush? = some (push "a" "c") ∧
      ((start [] (instant 0)).run (readopted "a" "c")).lastTold .text ⟨7⟩ =
        some (push "a" "c").text ∧
      ((start [] (instant 0)).run (readopted "a" "c")).lastTold .commit ⟨7⟩ ≠
        some (push "a" "c").commit := by
  have sound := (sound_start [] (instant 0)).run (leaving "a" "c")
  obtain ⟨row, found, known⟩ := Option.map_eq_some_iff.mp (show
    (((start [] (instant 0)).run (leaving "a" "c")).store.changesets.find? ⟨7⟩).map (fun row =>
      (row.externalState, row.currentSpecId)) = some (some .closed, some ⟨2⟩) by decide +kernel)
  obtain ⟨moved, stored, current⟩ := Option.map_eq_some_iff.mp (show
    ((((start [] (instant 0)).run (leaving "a" "c")).step
      (.proceed 0 visible)).store.changesets.find? ⟨7⟩).map (·.currentSpecId) =
      some (some ⟨5⟩) by decide +kernel)
  simp only [Prod.mk.injEq] at known
  obtain ⟨spec, branch, moves, pushes, named⟩ := sound.movesOn found stored (by
    rw [current, known.2]
    decide)
  have idle := sound.idle (show
    ((start [] (instant 0)).run (leaving "a" "c")).isIdle = true by decide +kernel)
  have spared : ((start [] (instant 0)).run (leaving "a" "c" ++ [.proceed 0 visible])).Along
      (Spares ⟨7⟩) reopening := by decide +kernel
  obtain ⟨final, present, completed⟩ := Option.map_eq_some_iff.mp (show
    (((start [] (instant 0)).run (readopted "a" "c")).store.changesets.find? ⟨7⟩).map
      (·.queueState) = some .completed by decide +kernel)
  obtain ⟨names, known, -, commits, texts⟩ := readopted_shows_spec_iff [] (instant 0)
    (leaving "a" "c") reopening (.proceed 0 visible) ⟨7⟩ row moved final spec branch
    (fun number flight under => by rw [idle] at under; cases under) known.1 moves pushes spared
    present completed
  have pushed : ((((start [] (instant 0)).run (readopted "a" "c")).store.changesetSpecs.find?
      ⟨5⟩).bind ChangesetSpec.branchPush?) = some (push "a" "c") := by decide +kernel
  have same : spec.id = ⟨5⟩ := (Option.some.inj (current.symm.trans named)).symm
  rw [← same, readopted, known, Option.bind_some, pushes] at pushed
  cases pushed
  have title : ((start [] (instant 0)).run (leaving "a" "c")).lastTold .text ⟨7⟩ =
      some (push "a" "c").text := by decide +kernel
  have other : ((start [] (instant 0)).run (leaving "a" "c")).lastTold .commit ⟨7⟩ ≠
      some (push "a" "c").commit := by decide +kernel
  exact ⟨final, spec, present, completed, names, known, pushes, texts.mpr title,
    commits.not.mpr other⟩

open Sample in
/-- The third generation changes title and commit of a changeset that was dropped and whose pull
request was closed: the changeset is completed, and its pull request still shows title and commit of
the first generation. -/
theorem System.readopted_shows_dropped_spec :
    (((start [] (instant 0)).run (leaving "c" "c")).store.changesets.find? ⟨7⟩).map (fun row =>
      (row.isOwnedAndAttached, row.externalState, row.queueState)) =
        some (false, some .closed, .completed) ∧
    ∃ row current,
      ((start [] (instant 0)).run (readopted "c" "c")).store.changesets.find? ⟨7⟩ = some row ∧
      row.isOwnedAndAttached = true ∧ row.publication = .published ∧ row.isOpen = true ∧
      row.queueState = .completed ∧ row.currentSpecId = some current ∧
      (((start [] (instant 0)).run (readopted "c" "c")).store.changesetSpecs.find? current).bind
        ChangesetSpec.branchPush? = some (push "c" "c") ∧
      ((start [] (instant 0)).run (readopted "c" "c")).lastTold .commit ⟨7⟩ =
        some (push "a" "a").commit ∧ (push "a" "a").commit ≠ (push "c" "c").commit ∧
      ((start [] (instant 0)).run (readopted "c" "c")).lastTold .text ⟨7⟩ =
        some (push "a" "a").text ∧ (push "a" "a").text ≠ (push "c" "c").text := by
  obtain ⟨row, found, known⟩ := Option.map_eq_some_iff.mp (show
    (((start [] (instant 0)).run (readopted "c" "c")).store.changesets.find? ⟨7⟩).map (fun row =>
      (row.isOwnedAndAttached, row.publication, row.isOpen, row.queueState, row.currentSpecId)) =
      some (true, .published, true, .completed, some ⟨5⟩) by decide +kernel)
  simp only [Prod.mk.injEq] at known
  obtain ⟨held, published, isOpen, completed, current⟩ := known
  refine ⟨?_, row, ⟨5⟩, found, held, published, isOpen, completed, current, ?_, ?_, ?_, ?_, ?_⟩
  · decide +kernel
  · decide +kernel
  · decide +kernel
  · decide
  · decide +kernel
  · decide

end BatchChanges
