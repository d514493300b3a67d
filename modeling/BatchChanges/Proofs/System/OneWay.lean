import BatchChanges.Proofs.System.Standing

/-! # What changesets do not go back on

As long as a changeset exists it stays the one that it is, and some of what it knows of its pull
request is known for good: that it was opened, which one it is, that it was loaded, that it was
merged. An attempt adds to what it was claimed with and takes nothing of this away, and whoever
writes an outcome back holds the lease under which the changeset knows what it knew at the claim.
Numbers are given out once, so that a changeset that is gone does not come back as another one.
-/

namespace BatchChanges

namespace Changeset

/-- A changeset goes on: it stays the one that it is, nothing is forgotten, and a merged pull
request stays merged. -/
structure Advances (row after : Changeset) : Prop extends Learns row after where
  identity : after.identity = row.identity
  merged : row.externalState = some .merged → after.externalState = some .merged

variable {row middle after : Changeset}

theorem Advances.refl (row : Changeset) : row.Advances row where
  toLearns := .of_sight rfl
  identity := rfl
  merged merged := merged

private theorem Advances.trans (first : row.Advances middle) (second : middle.Advances after) :
    row.Advances after where
  toLearns := first.toLearns.trans second.toLearns
  identity := second.identity.trans first.identity
  merged merged := second.merged (first.merged merged)

private theorem Advances.of_unedited (same : after.unedited = row.unedited) :
    row.Advances after where
  toLearns := .of_sight (congrArg Prod.snd same)
  identity := congrArg Prod.fst same
  merged merged := (congrArg (·.2.1.2) same).trans merged

end Changeset

namespace Flight.Course

variable {specs : Table .changesetSpec ChangesetSpec} {flight : Flight} {question : Question}
  {resume : question.Answer → Attempt}

/-- An attempt on a merged pull request does not ask the code host. -/
theorem silent_of_merged (course : flight.Course specs) (merged : flight.claimed.isMerged = true)
    (asks : flight.attempt.next = .ask question resume) : question.asksHost = false := by
  rw [Bool.eq_false_iff]
  intro host
  obtain ⟨previous, current, plan, operation, row, repo, effect, planned, member, -⟩ :=
    course.acting_of_asksHost asks host
  rw [Plan.determine_of_merged previous current merged] at planned
  cases planned
  cases member

/-- An attempt creates no pull request for a changeset that had one when it was claimed. -/
theorem unpublished_of_create {repo : Repo} {push : BranchPush} {draft : Bool}
    {resume : Question.Answer (.request repo (.create push draft)) → Attempt}
    (course : flight.Course specs)
    (asks : flight.attempt.next = .ask (.request repo (.create push draft)) resume) :
    flight.claimed.publication = .unpublished := by
  obtain ⟨previous, current, plan, operation, row, here, effect, planned, member, acts, same⟩ :=
    course.acting_of_asksHost asks rfl
  cases effect with
  | request asked =>
    cases same
    exact (Plan.decides_of_between planned).unpublished member (Operation.opens_of_effect acts)
  | push branch => cases same
  | pause => cases same

end Flight.Course

namespace System

variable {system next : System} {event : Event} {id : ChangesetId} {row after : Changeset}
  {lease' : Option LeaseRecord}

/-- What happens to a changeset is no way back, if its attempts hold leases. -/
theorem Change.advances
    (change : Change system event next id (some row) (system.store.leases.find? id) (some after)
      lease')
    (sound : system.Sound) (guards : Guards Changeset.sight system)
    (found : system.store.changesets.find? id = some row) : row.Advances after := by
  rcases change.sight with same | ⟨-, number, flight, record, under, rfl, leased, token, same⟩
  · exact .of_unedited (Prod.ext change.identity same)
  · have course := (sound.flight under).course
    have claimed : flight.claimed.sight = row.sight := (guards.claimed under leased token found).symm
    refine ⟨?_, change.identity, ?_⟩
    · exact (Changeset.Learns.of_sight claimed).trans (course.learns.trans (.of_sight same))
    · intro merged
      have before : flight.claimed.externalState = some .merged :=
        (congrArg (·.1.2) claimed).trans merged
      have idle : flight.attempt.row = flight.claimed :=
        course.row_of_merged (by rw [Changeset.isMerged, before]; rfl)
      rw [idle] at same
      exact (congrArg (·.1.2) same).trans before

theorem guards_start (faults : List Fault) (now : Time) :
    Guards Changeset.sight (start faults now) where
  claimed under := by cases under

theorem Guards.run (guards : Guards Changeset.sight system) (sound : system.Sound)
    (events : List Event) : Guards Changeset.sight (system.run events) :=
  sound.keeps (Guards Changeset.sight) guards events fun sound event guards =>
    guards.transition (congrArg Prod.snd) sound (System.transition sound.numbered event)

/-- Since a changeset was seen, it has gone on, and so have those that attempts began with since
then. -/
structure Since (id : ChangesetId) (row : Changeset) (first : Nat) (system : System) : Prop where
  old : id.value ≤ system.store.lastId
  begun : first ≤ system.tokens
  stored {after : Changeset} (found : system.store.changesets.find? id = some after) :
    row.Advances after
  claimed {number : Nat} {flight : Flight} (under : system.flights number = some flight)
    (later : first ≤ number) (here : flight.claimed.id = id) : row.Advances flight.claimed

/-- A changeset goes on with each event. -/
theorem Since.step {first : Nat} (since : system.Since id row first) (sound : system.Sound)
    (guards : Guards Changeset.sight system) (event : Event) :
    (system.step event).Since id row first := by
  have happens := System.transition sound.numbered event
  have stored : ∀ {after : Changeset},
      (system.step event).store.changesets.find? id = some after → row.Advances after := by
    intro after found
    have change := happens.change sound id
    rw [found] at change
    cases here : system.store.changesets.find? id with
    | some before =>
      rw [here] at change
      exact (since.stored here).trans (change.advances sound guards here)
    | none =>
      rw [here] at change
      obtain ⟨_, _, _, _, _, _, -, -, -, -, -, -, new, -⟩ := change.created
      exact absurd since.old (Int.not_le.mpr new)
  refine ⟨Int.le_trans since.old happens.lastId_le, Nat.le_trans since.begun happens.tokens_le,
    stored, ?_⟩
  intro number flight under later here
  rcases (happens.flies under).claimed_eq with ⟨before, flying, same⟩ |
    ⟨claimed, expiresAt, worker, -, begins, found, -⟩
  · rw [← same] at here ⊢
    exact since.claimed flying later here
  · have named : claimed.id = id := by rw [← here, begins]
    rw [named] at found
    exact stored found

theorem Since.run {first : Nat} (since : system.Since id row first) (sound : system.Sound)
    (guards : Guards Changeset.sight system) (events : List Event) :
    (system.run events).Since id row first := by
  induction events generalizing system with
  | nil => exact since
  | cons event rest ih =>
    have happens := System.transition sound.numbered event
    exact ih (since.step sound guards event) (sound.step event)
      (guards.transition (congrArg Prod.snd) sound happens)

/-- In every run that starts with the empty store, a changeset goes on from what it was at any point
as long as it exists: it stays the one that it is, it stays published and known under a number, it
is not loaded for the first time again, and a merged pull request stays merged. So an attempt that
begins after that point creates no pull request if it was published then, and does not ask the code
host at all if its pull request was merged then. -/
theorem changeset_never_goes_back (faults : List Fault) (now : Time) (before after : List Event)
    (id : ChangesetId) (row : Changeset)
    (found : ((start faults now).run before).store.changesets.find? id = some row) :
    (∀ later, ((start faults now).run (before ++ after)).store.changesets.find? id = some later →
      row.Advances later) ∧
    ∀ number flight question (resume : question.Answer → Attempt),
      ((start faults now).run (before ++ after)).flights number = some flight →
      ((start faults now).run before).tokens ≤ number → flight.claimed.id = id →
      flight.attempt.next = .ask question resume →
      (row.publication = .published →
        ∀ repo push draft, question ≠ .request repo (.create push draft)) ∧
      (row.externalState = some .merged → question.asksHost = false) := by
  have sound := (sound_start faults now).run before
  have guards := (guards_start faults now).run (sound_start faults now) before
  have since : ((start faults now).run before).Since id row
      ((start faults now).run before).tokens := by
    refine ⟨(sound.numbered.changesets found).2.2, Nat.le_refl _, ?_, ?_⟩
    · intro later present
      rw [found] at present
      cases present
      exact .refl row
    · intro number flight under new
      exact absurd (sound.flight under).number_lt (Nat.not_lt.mpr new)
  rw [run_append]
  have final := since.run sound guards after
  refine ⟨fun later present => final.stored present, ?_⟩
  intro number flight question resume under new here asks
  have course := ((sound.run after).flight under).course
  have advances := final.claimed under new here
  constructor
  · rintro published repo push draft rfl
    have unpublished := course.unpublished_of_create asks
    rw [advances.published published] at unpublished
    cases unpublished
  · intro merged
    refine course.silent_of_merged ?_ asks
    rw [Changeset.isMerged, advances.merged merged]
    rfl

end System

namespace Sample

/-- An attempt opens a pull request, and the code host says that it is merged already. -/
def merging : List Event :=
  setUp ++ attempt 0 4 ++
    [.ask 0 {} { reply with request := .ok ⟨"101", "tidy", .merged, "", none, instant 0⟩ },
      .conclude 0 {}]

/-- The next spec is applied, and another attempt begins. -/
def movingOn : List Event := apply "b" ++ attempt 1 0

end Sample

open Sample in
/-- A changeset that was merged stays so when the next spec is applied, and the attempt on that spec
leaves the code host alone. -/
theorem System.changeset_never_goes_back_merged :
    ∃ (row later : Changeset) (flight : Flight) (question : Question)
      (resume : question.Answer → Attempt),
      ((start [] (instant 0)).run merging).store.changesets.find? changeset = some row ∧
      row.publication = .published ∧ row.externalState = some .merged ∧
      ((start [] (instant 0)).run (merging ++ movingOn)).store.changesets.find? changeset =
        some later ∧
      later.currentSpecId ≠ row.currentSpecId ∧ row.Advances later ∧
      ((start [] (instant 0)).run (merging ++ movingOn)).flights 1 = some flight ∧
      flight.attempt.next = .ask question resume ∧ question.asksHost = false := by
  obtain ⟨row, found, known⟩ := Option.map_eq_some_iff.mp (show
    (((start [] (instant 0)).run merging).store.changesets.find? changeset).map
      (fun row => (row.publication, row.externalState, row.currentSpecId)) =
        some (.published, some .merged, some ⟨2⟩) by decide +kernel)
  simp only [Prod.mk.injEq] at known
  obtain ⟨published, merged, current⟩ := known
  obtain ⟨later, present, moved⟩ := Option.map_eq_some_iff.mp (show
    (((start [] (instant 0)).run (merging ++ movingOn)).store.changesets.find? changeset).map
      (·.currentSpecId) = some (some ⟨4⟩) by decide +kernel)
  obtain ⟨flight, under, reads⟩ := Option.map_eq_some_iff.mp (show
    (((start [] (instant 0)).run (merging ++ movingOn)).flights 1).map
      (fun flight => (flight.attempt.stage, flight.claimed.id)) =
        some (.readingPrevious ⟨2⟩, changeset) by decide +kernel)
  simp only [Prod.mk.injEq] at reads
  obtain ⟨stage, here⟩ := reads
  have new : ((start [] (instant 0)).run merging).tokens ≤ 1 := by decide +kernel
  obtain ⟨question, resume, asks⟩ : ∃ (question : Question) (resume : question.Answer → Attempt),
      flight.attempt.next = .ask question resume := by
    simp only [Attempt.next, stage]
    exact ⟨_, _, rfl⟩
  obtain ⟨advances, silent⟩ := changeset_never_goes_back [] (instant 0) merging movingOn changeset
    row found
  refine ⟨row, later, flight, question, resume, found, published, merged, present, ?_,
    advances later present, under, asks, ?_⟩
  · rw [moved, current]
    decide
  · exact (silent 1 flight question resume under new here asks).2 merged

end BatchChanges
