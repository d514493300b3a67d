import BatchChanges.Proofs.System.CloseRequest
import BatchChanges.Proofs.System.Sequential
import BatchChanges.Proofs.System.WriteBack

/-! # Statistics of a diff that two parties write

An application that moves a changeset on to a branch push writes the statistics of its spec, and a
code host may give statistics of its own. An attempt carries those of the row that it claimed along,
and its write-back cannot tell them from what the code host said. So an attempt that learnt nothing
about the diff still writes back what was there at its claim, if there was anything.
-/

namespace BatchChanges

namespace Attempt

variable {attempt following : Attempt} {question : Question} {answer : question.Answer}

private theorem diffStat_begin (attempt : Attempt) (repo : Repo) (operation : Operation)
    (rest : List Operation) :
    (attempt.begin repo operation rest).row.diffStat = attempt.row.diffStat := by
  simp only [begin]
  split
  · rfl
  · rw [row_proceed]
    cases operation <;> rfl
  · rfl

private theorem Moves.diffStat (moves : attempt.Moves question answer following) :
    following.row.diffStat = attempt.row.diffStat ∨
      ∃ view, question.view? answer = some view ∧ view.diffStat ≠ none := by
  cases moves with
  | failed error silent => exact .inl rfl
  | readPrevious stage => exact .inl (by rw [row_seekCurrent])
  | readCurrent stage => exact .inl (by rw [row_plan])
  | readRepo stage => exact .inl (diffStat_begin attempt _ _ _)
  | @renewed repo operation rest lease stage =>
    exact .inl (diffStat_begin { attempt with lease } repo operation rest)
  | @acted repo operation effect rest answer row stage absorbed =>
    rw [row_proceed]
    cases Operation.absorbs_of_absorb absorbed with
    | pushed branch => exact .inl rfl
    | answered asked view =>
      have kept : (operation.answered view attempt.row).diffStat =
          (view.diffStat <|> attempt.row.diffStat) := by
        cases operation <;> rfl
      rcases told : view.diffStat with _ | statistics
      · rw [told] at kept
        exact .inl kept
      · exact .inr ⟨view, rfl, by simp [told]⟩
    | paused => exact .inl rfl

end Attempt

/-- What a code host says about the diff when it is asked. -/
def Event.statistics? : Event → Option DiffStat
  | .ask _ _ { request := .ok view, .. } => view.diffStat
  | _ => none

/-- An application that moves no changeset on to a branch push writes no statistics into it. -/
theorem Generation.Fate.diffStat {generation : Generation} {store : Store} {id : ChangesetId}
    {row after : Changeset} (fate : generation.Fate store id (some row) (some after)) :
    after.diffStat = row.diffStat ∨ ∃ spec push,
      (spec, some row) ∈ store.pairs generation.spec generation.campaign ∧
        spec.branchPush? = some push ∧
        after = row.following generation.campaign generation.now spec := by
  cases fate with
  | kept => exact .inl rfl
  | left unwanted decided =>
    obtain ⟨-, rfl⟩ | ⟨-, rfl⟩ := Placement.ofDropped_eq_staged decided
    · exact .inl rfl
    · exact .inl rfl
  | @followed _ spec paired =>
    cases pushes : spec.branchPush? with
    | none =>
      rcases row.following_eq_of_tracks generation.campaign generation.now pushes with same | same
      · exact .inl (by rw [same])
      · exact .inl (by rw [same]; rfl)
    | some push => exact .inr ⟨spec, push, paired, pushes, rfl⟩

namespace System

variable {system : System} {event : Event} {id : ChangesetId} {number : Nat}
  {statistics : Option DiffStat}

/-- An attempt asks the code host about a pull request and is told statistics. -/
def Measures (system : System) (event : Event) (number : Nat) : Prop :=
  ∃ settings reply flight repo asked resume, event = .ask number settings reply ∧
    system.flights number = some flight ∧
    flight.attempt.next = .ask (.request repo asked) resume ∧ event.statistics? ≠ none

private theorem not_measures (silent : event.statistics? = none) :
    ¬ system.Measures event number := by
  rintro ⟨settings, reply, flight, repo, asked, resume, -, -, -, told⟩
  exact told silent

/-- An attempt has the statistics that were there at its claim. -/
def Unmeasured (number : Nat) (system : System) : Prop :=
  ∀ flight, system.flights number = some flight →
    flight.attempt.row.diffStat = flight.claimed.diffStat

/-- It has them until the code host tells it others. -/
theorem Unmeasured.step (unmeasured : system.Unmeasured number) (sound : system.Sound)
    (silent : ¬ system.Measures event number) : (system.step event).Unmeasured number := by
  intro flight under
  cases (System.transition sound.numbered event).flies under with
  | stays before => exact unmeasured flight before
  | @asked before settings reply question answer attempt happens flying asks moves answered
      deliveries same =>
    subst same
    rcases moves.diffStat with kept | ⟨view, said, told⟩
    · exact kept.trans (unmeasured before flying)
    · obtain ⟨repo, asked, rfl, replied⟩ := answered.view? said
      obtain ⟨resume, asks⟩ := asks
      refine absurd ⟨settings, reply, before, repo, asked, resume, happens, flying, asks, ?_⟩ silent
      rw [happens]
      obtain ⟨pushed, requested⟩ := reply
      cases replied
      exact told
  | claimed happens new below found begins stored leased =>
    subst begins
    rw [Attempt.row_start]

private theorem Unmeasured.run {events : List Event} (unmeasured : system.Unmeasured number)
    (sound : system.Sound)
    (silent : system.Along (fun system event => ¬ system.Measures event number) events) :
    (system.run events).Unmeasured number :=
  silent.keeps sound (fun sound silent unmeasured => unmeasured.step sound silent) unmeasured

/-- As long as the lease of an attempt stands, its changeset has these statistics. -/
structure Carries (id : ChangesetId) (number : Nat) (statistics : Option DiffStat)
    (system : System) : Prop where
  old : number < system.tokens
  row {record : LeaseRecord} {row : Changeset} (leased : system.store.leases.find? id = some record)
    (token : record.lease.token = leaseToken number)
    (found : system.store.changesets.find? id = some row) : row.diffStat = statistics

/-- While the lease stands, only an application that moves the changeset on to a branch push writes
statistics. -/
theorem Carries.step (carries : system.Carries id number statistics) (sound : system.Sound)
    (stays : ¬ system.Withdraws event id) : (system.step event).Carries id number statistics := by
  refine ⟨Nat.lt_of_lt_of_le carries.old (System.transition sound.numbered event).tokens_le, ?_⟩
  intro record after leased token stored
  have change := (System.transition sound.numbered event).change sound id
  rw [leased] at change
  obtain ⟨held, leasedBefore, tokenBefore, -⟩ := change.held carries.old token
  have before : ∀ row, system.store.changesets.find? id = some row → row.diffStat = statistics :=
    fun row => carries.row leasedBefore tokenBefore
  generalize found : system.store.changesets.find? id = row at change before
  rw [leasedBefore] at change
  generalize later : (system.step event).store.changesets.find? id = result at change stored
  cases change with
  | still same => exact before after stored
  | @canceled row _ campaign happens waiting =>
    cases stored
    exact before row rfl
  | @requeued row _ maxAttempts happens due =>
    cases stored
    exact before row rfl
  | @rewired proceeding visible applying _ _ _ generation happens under makes fate =>
    subst stored
    cases row with
    | none => cases fate.none_of_leased sound.numbered leasedBefore
    | some row =>
      rcases fate.diffStat with kept | ⟨spec, push, paired, pushes, moved⟩
      · exact kept.trans (before row rfl)
      · exact absurd ⟨row, spec, push, after, ⟨found, later, proceeding, visible, applying,
          generation, happens, under, makes, paired, moved⟩, pushes⟩ stays
  | closed happens fate =>
    subst stored
    cases fate with
    | kept => exact before after rfl
    | @closed row attached opened => exact before row rfl

/-- So it is along a run in which no other application does. -/
theorem Carries.run {events : List Event} (carries : system.Carries id number statistics)
    (sound : system.Sound)
    (stays : system.Along (fun system event => ¬ system.Withdraws event id) events) :
    (system.run events).Carries id number statistics :=
  stays.keeps sound (fun sound stays carries => carries.step sound stays) carries

/-- An application writes the statistics of the branch push that it moves a changeset on to. -/
theorem MovesOn.diffStat {row moved : Changeset} {spec : ChangesetSpec} {push : BranchPush}
    (moves : system.MovesOn event id row spec moved) (pushes : spec.branchPush? = some push) :
    moved.diffStat = spec.diffStat := by
  obtain ⟨proceeding, visible, applying, generation, -, -, -, -, rfl⟩ := moves.transacts
  rw [row.following_eq generation.campaign generation.now pushes]
  rfl

/-- In every run that starts with the empty store, whatever failures of the store lie ahead: an
application moves a changeset on to a branch push while an attempt on it is under way, no later
application does so before the attempt is over, and the code host tells the attempt no statistics.
If the attempt then writes its outcome back under its lease, the changeset has the statistics of
that branch push exactly if it had none when it was claimed, or the same ones; any others that it
had at the claim come back. An attempt whose lease was lost writes none. -/
theorem applied_statistics_survive_iff (faults : List Fault) (now later : Time)
    (before after : List Event) (event : Event) (number : Nat) (earlier flight : Flight)
    (row moved : Changeset) (spec : ChangesetSpec) (push : BranchPush) (policy : RetryPolicy)
    (failure : Option ReconcileError) (outcome : Changeset) (verdict : Verdict) (next : Store)
    (under : ((start faults now).run before).flights number = some earlier)
    (moves : ((start faults now).run before).MovesOn event earlier.claimed.id row spec moved)
    (pushes : spec.branchPush? = some push)
    (stays : ((start faults now).run (before ++ [event])).Along
      (fun system event => ¬ system.Withdraws event earlier.claimed.id) after)
    (silent : (start faults now).Along (fun system event => ¬ system.Measures event number)
      (before ++ event :: after))
    (last : ((start faults now).run (before ++ event :: after)).flights number = some flight)
    (settled : flight.attempt.row.settled? policy failure later = some outcome)
    (finished : ((start faults now).run (before ++ event :: after)).store.finish
      flight.attempt.lease outcome = (verdict, next)) :
    (verdict = .applied → ∃ written, next.changesets.find? earlier.claimed.id = some written ∧
      written.diffStat = (earlier.claimed.diffStat <|> spec.diffStat) ∧
      (written.diffStat = spec.diffStat ↔
        earlier.claimed.diffStat = none ∨ earlier.claimed.diffStat = spec.diffStat)) ∧
    (verdict ≠ .applied → next.changesets =
      ((start faults now).run (before ++ event :: after)).store.changesets) := by
  have sound := (sound_start faults now).run before
  have below := (sound.flight under).number_lt
  have unmeasured : (start faults now).Unmeasured number := by
    intro flight under
    cases under
  have known := unmeasured.run (sound_start faults now) silent flight last
  rw [run_append, run_cons] at last finished ⊢
  rw [run_append, run_cons, run_nil] at stays
  have soundNext := sound.step event
  have belowNext := Nat.lt_of_lt_of_le below (System.transition sound.numbered event).tokens_le
  have claimed : earlier.claimed = flight.claimed := by
    obtain ⟨same, underToo, kept⟩ := sound.under_before (event :: after) below last
    rw [under] at underToo
    cases underToo
    exact kept
  have begins : (((start faults now).run before).step event).Carries earlier.claimed.id number
      spec.diffStat := by
    refine ⟨belowNext, ?_⟩
    intro record present leased token stored
    rw [moves.stored] at stored
    cases stored
    exact moves.diffStat pushes
  have carries := begins.run soundNext stays
  have mine := (soundNext.run after).flight last
  have ended := Store.writeBack_finish
    ((((start faults now).run before).step event).run after).store flight.attempt.lease outcome
  have statistics : outcome.diffStat = earlier.claimed.diffStat := by
    rw [claimed, ← known]
    obtain ⟨-, rfl⟩ | ⟨error, retryAt, -, rfl⟩ := Changeset.settled?_eq_some settled
    · rfl
    · rfl
  rw [finished] at ended
  constructor
  · rintro rfl
    cases ended with
    | @applied _ record stored written leased same found releases final merged =>
      rw [mine.changesetId, ← claimed] at leased found final
      have carried := carries.row leased (same.trans mine.token) found
      have kept := merged.diffStat
      rw [statistics, carried] at kept
      refine ⟨written, final, kept, ?_⟩
      rw [kept]
      cases earlier.claimed.diffStat <;> simp
  · intro refused
    cases ended with
    | lost lost => rfl
    | rowGone holds missing releases absent =>
      refine Table.ext_find? fun other => ?_
      by_cases here : other = flight.attempt.lease.changesetId
      · rw [here, absent, missing]
      · exact releases.rows here
    | applied => exact absurd rfl refused

end System

-- The first generation is being brought to the code host when the second one is applied. The code
-- host says nothing about the diff.
namespace Sample

/-- Two generations with statistics of their own. An attempt on the first one is about to push, and
the second one is about to be stored. -/
def measured (first : Option DiffStat) : List Event :=
  [.putRepo repo, .addCampaignSpec (campaignSpec "a"),
    .addChangesetSpec { spec 1 "a" "a" with diffStat := first },
    .addCampaignSpec (campaignSpec "b"),
    .addChangesetSpec { spec 3 "b" "b" with diffStat := some ⟨2, 2, 2⟩ }] ++
    apply "a" ++ attempt 0 2 ++ (apply "b").take 4

/-- The attempt pushes and opens the pull request. -/
def publishing : List Event := List.replicate 3 (.ask 0 {} reply)

/-- The second generation is stored, and the attempt goes on. -/
def remeasured (first : Option DiffStat) : List Event :=
  measured first ++ .proceed 0 visible :: publishing

private theorem finish_of_completed {store : Store} {flight : Flight} {verdict : Verdict}
    (written : (completed store flight).1 = verdict) :
    store.finish flight.attempt.lease (flight.attempt.row.completed (instant 0)) =
      (verdict, (completed store flight).2) :=
  Prod.ext written rfl

end Sample

open Sample in
/-- The changeset had no statistics when it was claimed, and those of the second generation
survive. -/
theorem System.applied_statistics_survive_iff_unknown :
    ∃ flight outcome next row,
      ((start [] (instant 0)).run (remeasured none)).flights 0 = some flight ∧
      flight.attempt.row.settled? {} none (instant 0) = some outcome ∧
      ((start [] (instant 0)).run (remeasured none)).store.finish flight.attempt.lease outcome =
        (.applied, next) ∧
      next.changesets.find? changeset = some row ∧ row.diffStat = some ⟨2, 2, 2⟩ := by
  have sound := (sound_start [] (instant 0)).run (measured none)
  obtain ⟨earlier, under, claim⟩ := Option.map_eq_some_iff.mp (show
    (((start [] (instant 0)).run (measured none)).flights 0).map (fun flight =>
      (flight.claimed.id, flight.claimed.diffStat)) = some (changeset, none) by decide +kernel)
  obtain ⟨row, found, current⟩ := Option.map_eq_some_iff.mp (show
    (((start [] (instant 0)).run (measured none)).store.changesets.find? changeset).map
      (·.currentSpecId) = some (some ⟨2⟩) by decide +kernel)
  obtain ⟨moved, stored, revised⟩ := Option.map_eq_some_iff.mp (show
    ((((start [] (instant 0)).run (measured none)).step
      (.proceed 0 visible)).store.changesets.find? changeset).map (fun row =>
        (row.currentSpecId, row.diffStat)) = some (some ⟨4⟩, some ⟨2, 2, 2⟩) by decide +kernel)
  simp only [Prod.mk.injEq] at claim revised
  obtain ⟨spec, branch, moves, pushes, -⟩ := sound.movesOn found stored (by
    rw [current, revised.1]
    decide)
  have quiet : ((start [] (instant 0)).run (measured none ++ [.proceed 0 visible])).Along
      (fun _ event => event.editsCampaign = false) publishing := by decide
  have mute : (start [] (instant 0)).Along (fun _ event => event.statistics? = none)
      (remeasured none) := by decide
  obtain ⟨flight, last, written⟩ := Option.map_eq_some_iff.mp (show
    (((start [] (instant 0)).run (remeasured none)).flights 0).map (fun flight =>
      (completed ((start [] (instant 0)).run (remeasured none)).store flight).1) =
      some .applied by decide +kernel)
  rw [remeasured] at last written mute ⊢
  have survives := (applied_statistics_survive_iff [] (instant 0) (instant 0) (measured none)
    publishing (.proceed 0 visible) 0 earlier flight row moved spec branch {} none _ .applied _ under
    (claim.1 ▸ moves) pushes
    (quiet.mono ((sound_start [] (instant 0)).run _) fun _ quiet => not_withdraws quiet)
    (mute.mono (sound_start [] (instant 0)) fun _ mute => not_measures mute) last rfl
    (finish_of_completed written)).1 rfl
  obtain ⟨final, present, -, survives⟩ := survives
  rw [claim.1] at present
  refine ⟨flight, _, _, final, last, rfl, finish_of_completed written, present, ?_⟩
  rw [survives.mpr (.inl claim.2), ← moves.diffStat pushes, revised.2]

open Sample in
/-- The changeset had the statistics of the first generation when it was claimed. The second one
writes its own, the code host tells none, and the write-back brings back the old ones. -/
theorem System.applied_statistics_lost :
    (∃ earlier, ((start [] (instant 0)).run (measured (some ⟨1, 1, 1⟩))).flights 0 =
      some earlier ∧ earlier.claimed.id = changeset) ∧
    (∃ row spec push moved, ((start [] (instant 0)).run (measured (some ⟨1, 1, 1⟩))).MovesOn
      (.proceed 0 visible) changeset row spec moved ∧ spec.branchPush? = some push ∧
      moved.currentSpecId ≠ row.currentSpecId ∧ moved.diffStat = some ⟨2, 2, 2⟩) ∧
    (start [] (instant 0)).Along (fun system event => ¬ system.Measures event 0)
      (remeasured (some ⟨1, 1, 1⟩)) ∧
    ∃ flight outcome next row,
      ((start [] (instant 0)).run (remeasured (some ⟨1, 1, 1⟩))).flights 0 = some flight ∧
      flight.attempt.stage = .settled none ∧
      flight.attempt.row.settled? {} none (instant 0) = some outcome ∧
      ((start [] (instant 0)).run (remeasured (some ⟨1, 1, 1⟩))).store.finish
        flight.attempt.lease outcome = (.applied, next) ∧
      next.changesets.find? changeset = some row ∧ row.diffStat = some ⟨1, 1, 1⟩ := by
  refine ⟨?_, ?_, ?_, ?_⟩
  · exact Option.map_eq_some_iff.mp (show
      (((start [] (instant 0)).run (measured (some ⟨1, 1, 1⟩))).flights 0).map (·.claimed.id) =
        some changeset by decide +kernel)
  · have sound := (sound_start [] (instant 0)).run (measured (some ⟨1, 1, 1⟩))
    obtain ⟨row, found, current⟩ := Option.map_eq_some_iff.mp (show
      (((start [] (instant 0)).run (measured (some ⟨1, 1, 1⟩))).store.changesets.find?
        changeset).map (·.currentSpecId) = some (some ⟨2⟩) by decide +kernel)
    obtain ⟨moved, stored, revised⟩ := Option.map_eq_some_iff.mp (show
      ((((start [] (instant 0)).run (measured (some ⟨1, 1, 1⟩))).step
        (.proceed 0 visible)).store.changesets.find? changeset).map (fun row =>
          (row.currentSpecId, row.diffStat)) = some (some ⟨4⟩, some ⟨2, 2, 2⟩) by decide +kernel)
    simp only [Prod.mk.injEq] at revised
    have other : moved.currentSpecId ≠ row.currentSpecId := by
      rw [current, revised.1]
      decide
    obtain ⟨spec, push, moves, pushes, -⟩ := sound.movesOn found stored other
    exact ⟨row, spec, push, moved, moves, pushes, other, revised.2⟩
  · have mute : (start [] (instant 0)).Along (fun _ event => event.statistics? = none)
        (remeasured (some ⟨1, 1, 1⟩)) := by decide
    exact mute.mono (sound_start [] (instant 0)) fun _ mute => not_measures mute
  · obtain ⟨flight, last, known⟩ := Option.map_eq_some_iff.mp (show
      (((start [] (instant 0)).run (remeasured (some ⟨1, 1, 1⟩))).flights 0).map (fun flight =>
        (flight.attempt.stage, (completed ((start [] (instant 0)).run
          (remeasured (some ⟨1, 1, 1⟩))).store flight).1)) =
        some (.settled none, .applied) by decide +kernel)
    obtain ⟨row, found, kept⟩ := Option.map_eq_some_iff.mp (show
      ((((start [] (instant 0)).run (remeasured (some ⟨1, 1, 1⟩))).flights 0).bind fun flight =>
        (completed ((start [] (instant 0)).run (remeasured (some ⟨1, 1, 1⟩))).store
          flight).2.changesets.find? changeset).map (·.diffStat) = some (some ⟨1, 1, 1⟩) by
        decide +kernel)
    rw [last, Option.bind_some] at found
    simp only [Prod.mk.injEq] at known
    exact ⟨flight, _, _, row, last, known.1, rfl, finish_of_completed known.2, found, kept⟩

end BatchChanges
