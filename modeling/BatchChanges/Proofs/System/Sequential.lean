import BatchChanges.Proofs.Attempt.Facet
import BatchChanges.Proofs.System.Requeue
import Mathlib.Data.List.Induction

/-! # Attempts that are left alone

While an attempt is under way, nothing else happens: whatever a run does besides, it does between
attempts. Then a changeset stays as it was claimed until its outcome is written back. If moreover
all specs push branches, no campaign is closed and no code host says that a pull request is closed
or merged, every changeset that its campaign holds is steady.
-/

namespace BatchChanges

def Event.isOfAttempt : Event → Bool
  | ask _ _ _ | conclude _ _ | abandon _ => true
  | _ => false

namespace System

/-- What may happen next: attempts are left alone, campaigns are not closed, specs push branches,
and pull requests that are reported are open. -/
structure Allows (system : System) (event : Event) : Prop where
  alone : event.isOfAttempt = false → ∀ number, system.flights number = none
  lasting : ∀ closure, event ≠ .close closure
  pushes : ∀ spec, event = .addChangesetSpec spec → ∃ push, spec.branchPush? = some push
  stayOpen : ∀ number settings reply flight repo asked resume view,
    event = .ask number settings reply → system.flights number = some flight →
    flight.attempt.next = .ask (.request repo asked) resume → reply.request = .ok view →
    view.state = .opened ∨ view.state = .draft

/-- Runs in which all that happens may happen. -/
def Sequential : System → List Event → Prop
  | _, [] => True
  | system, event :: rest => system.Allows event ∧ Sequential (system.step event) rest

theorem sequential_append {system : System} {first second : List Event} :
    system.Sequential (first ++ second) ↔
      system.Sequential first ∧ (system.run first).Sequential second := by
  induction first generalizing system with
  | nil => simp [Sequential]
  | cons event rest ih => simp [Sequential, ih, and_assoc]

def isIdle (system : System) : Bool :=
  (List.range system.tokens).all fun number => (system.flights number).isNone

/-- Whether it can be seen from an event that it may happen next. -/
def permits (system : System) : Event → Bool
  | .close _ => false
  | .addChangesetSpec spec => spec.branchPush?.isSome && system.isIdle
  | .ask _ _ reply =>
    match reply.request with
    | .ok view => view.state == .opened || view.state == .draft
    | .error _ => true
  | event => event.isOfAttempt || system.isIdle

def permitsAll : System → List Event → Bool
  | _, [] => true
  | system, event :: rest => system.permits event && permitsAll (system.step event) rest

theorem Sound.idle {system : System} (sound : system.Sound) (idle : system.isIdle = true)
    (number : Nat) : system.flights number = none := by
  cases under : system.flights number with
  | none => rfl
  | some flight =>
    have none := List.all_eq_true.mp idle number (List.mem_range.mpr (sound.flight under).number_lt)
    rw [under] at none
    cases none

private theorem Sound.allows {system : System} (sound : system.Sound) {event : Event}
    (permitted : system.permits event = true) : system.Allows event := by
  have waits : (event.isOfAttempt || system.isIdle) = true := by
    cases event with
    | close closure => cases permitted
    | addChangesetSpec spec =>
      simp only [permits, Bool.and_eq_true] at permitted
      simp [permitted.2]
    | ask number settings reply => rfl
    | _ => exact permitted
  refine ⟨fun other => sound.idle ?_, ?_, ?_, ?_⟩
  · rw [other, Bool.false_or] at waits
    exact waits
  · rintro closure rfl
    cases permitted
  · rintro spec rfl
    simp only [permits, Bool.and_eq_true] at permitted
    exact Option.isSome_iff_exists.mp permitted.1
  · rintro number settings reply flight repo asked resume view rfl - - replied
    simp only [permits, replied, Bool.or_eq_true, beq_iff_eq] at permitted
    exact permitted

theorem Sound.sequential {system : System} (sound : system.Sound) {events : List Event}
    (permitted : system.permitsAll events = true) : system.Sequential events := by
  induction events generalizing system with
  | nil => trivial
  | cons event rest ih =>
    rw [permitsAll, Bool.and_eq_true] at permitted
    exact ⟨sound.allows permitted.1, ih (sound.step event) permitted.2⟩

end System

namespace Changeset

/-- Nothing is known of the pull request's being closed or merged. -/
def StaysOpen (row : Changeset) : Prop :=
  row.externalState ≠ some .merged ∧ row.externalState ≠ some .closed

end Changeset

def Question.view? : (question : Question) → question.Answer → Option PullRequest
  | .request _ _, .ok view => some view
  | _, _ => none

theorem Question.Answered.view? {question : Question} {answer : question.Answer}
    {store after : Store} {now : Time} {settings : Settings} {reply : HostReply}
    {view : PullRequest} (answered : question.Answered store now settings reply after answer)
    (said : question.view? answer = some view) :
    ∃ repo asked, question = .request repo asked ∧ reply.request = .ok view := by
  cases question with
  | request repo asked =>
    obtain ⟨-, same⟩ := answered
    rcases answer with _ | other
    · cases said
    · cases said
      exact ⟨repo, asked, rfl, same.symm⟩
  | _ => cases said

namespace Attempt

variable {attempt following : Attempt} {question : Question} {answer : question.Answer}

@[simp] theorem row_plan (attempt : Attempt) (previous current : Option ChangesetSpec) :
    (attempt.plan previous current).row = attempt.row := by
  simp only [plan]
  split
  · rfl
  · split <;> rfl

@[simp] theorem row_seekCurrent (attempt : Attempt) (previous : Option ChangesetSpec) :
    (attempt.seekCurrent previous).row = attempt.row := by
  simp only [seekCurrent]
  split
  · rfl
  · exact row_plan attempt previous none

@[simp] theorem row_start (row : Changeset) (lease : Lease) : (start row lease).row = row := by
  simp only [start]
  split
  · rfl
  · exact row_seekCurrent _ none

@[simp] theorem row_proceed (attempt : Attempt) (repo : Repo) (rest : List Operation) :
    (attempt.proceed repo rest).row = attempt.row := by
  cases rest <;> rfl

/-- Operations change nothing about the state of the pull request by themselves. -/
theorem externalState_mark (operation : Operation) (row : Changeset) :
    (operation.mark row).externalState = row.externalState := by
  cases operation <;> rfl

theorem externalState_begin (attempt : Attempt) (repo : Repo) (operation : Operation)
    (rest : List Operation) :
    (attempt.begin repo operation rest).row.externalState = attempt.row.externalState := by
  simp only [begin]
  split
  · rfl
  · rw [row_proceed]
    exact externalState_mark operation attempt.row
  · rfl

/-- An attempt learns the state of the pull request from the code host only. -/
theorem Moves.externalState (moves : attempt.Moves question answer following) :
    following.row.externalState = attempt.row.externalState ∨
      ∃ view, question.view? answer = some view ∧
        following.row.externalState = some view.state := by
  cases moves with
  | failed error silent => exact .inl rfl
  | readPrevious stage => exact .inl (by rw [row_seekCurrent])
  | readCurrent stage => exact .inl (by rw [row_plan])
  | readRepo stage => exact .inl (externalState_begin attempt _ _ _)
  | @renewed repo operation rest lease stage =>
    exact .inl (externalState_begin { attempt with lease } repo operation rest)
  | @acted repo operation effect rest answer row stage absorbed =>
    rw [row_proceed]
    cases Operation.absorbs_of_absorb absorbed with
    | pushed branch => exact .inl rfl
    | answered asked view => exact .inr ⟨view, rfl, externalState_mark operation _⟩
    | paused => exact .inl rfl

end Attempt

/-- A changeset that has left a campaign is held by its own one only if it was before, and then it
was left as it is. -/
theorem Placement.held_of_ofDropped {campaign : CampaignId} {now : Time} {row placed : Changeset}
    (decided : Placement.ofDropped campaign now row = .staged placed)
    (held : placed.isOwnedAndAttached = true) :
    row.isOwnedAndAttached = true ∧
      placed = { row with campaignIds := row.campaignIds.erase campaign, updatedAt := now } := by
  obtain ⟨⟨owns, -⟩, rfl⟩ | ⟨-, rfl⟩ := Placement.ofDropped_eq_staged decided
  · have owned : row.ownerId = some campaign := beq_iff_eq.mp owns
    simp only [Changeset.isOwnedAndAttached, Changeset.requeued, owned, Changeset.isAttachedTo,
      IdSet.contains_erase] at held
    simp at held
  · refine ⟨?_, rfl⟩
    simp only [Changeset.isOwnedAndAttached, Changeset.isAttachedTo] at held ⊢
    split at held
    · rw [IdSet.contains_erase, Bool.and_eq_true] at held
      exact held.2
    · cases held

/-- What is known of a changeset whose specs push branches. -/
structure Changeset.Orderly (specs : Table .changesetSpec ChangesetSpec) (row : Changeset) :
    Prop where
  staysOpen : row.StaysOpen
  wanted : row.isOwnedAndAttached = true → row.closing = false
  namesCurrent : ∃ current, specs.Names row.currentSpecId (some current)
  namesPrevious : ∃ previous, specs.Names row.previousSpecId previous

namespace Changeset.Orderly

variable {specs larger : Table .changesetSpec ChangesetSpec} {row : Changeset}

private theorem mono (orderly : row.Orderly specs)
    (grown : ∀ {id spec}, specs.find? id = some spec → larger.find? id = some spec) :
    row.Orderly larger := by
  obtain ⟨current, namesCurrent⟩ := orderly.namesCurrent
  obtain ⟨previous, namesPrevious⟩ := orderly.namesPrevious
  exact ⟨orderly.staysOpen, orderly.wanted, ⟨current, namesCurrent.mono grown⟩,
    ⟨previous, namesPrevious.mono grown⟩⟩

/-- Neither the place in the queue nor what else is known of the pull request matters. -/
theorem congr {after : Changeset} (orderly : row.Orderly specs)
    (state : after.externalState = row.externalState)
    (wanted : after.isOwnedAndAttached = true → after.closing = false)
    (current : after.currentSpecId = row.currentSpecId)
    (previous : after.previousSpecId = row.previousSpecId) : after.Orderly specs := by
  refine ⟨?_, wanted, ?_, ?_⟩
  · rw [Changeset.StaysOpen, state]
    exact orderly.staysOpen
  · rw [current]
    exact orderly.namesCurrent
  · rw [previous]
    exact orderly.namesPrevious

private theorem released (orderly : row.Orderly specs) : row.released.Orderly specs := by
  simp only [Changeset.released]
  split
  · exact orderly.congr rfl orderly.wanted rfl rfl
  · exact orderly

private theorem withOutcome {outcome : Changeset} (orderly : row.Orderly specs) (closing : Bool)
    (staysOpen : outcome.StaysOpen) : (row.withOutcome outcome closing).Orderly specs := by
  refine ⟨staysOpen, ?_, orderly.namesCurrent, orderly.namesPrevious⟩
  intro held
  have wanted := orderly.wanted held
  simp only [Changeset.withOutcome]
  split
  · rfl
  · exact wanted

private theorem dropped {campaign : CampaignId} {now : Time} {placed : Changeset}
    (orderly : row.Orderly specs)
    (decided : Placement.ofDropped campaign now row = .staged placed) : placed.Orderly specs := by
  have wanted : placed.isOwnedAndAttached = true → placed.closing = false := by
    intro held
    obtain ⟨heldBefore, rfl⟩ := Placement.held_of_ofDropped decided held
    exact orderly.wanted heldBefore
  obtain ⟨-, rfl⟩ | ⟨-, rfl⟩ := Placement.ofDropped_eq_staged decided
  · exact orderly.congr rfl wanted rfl rfl
  · exact orderly.congr rfl wanted rfl rfl

variable {spec : ChangesetSpec} {push : BranchPush}

private theorem following (orderly : row.Orderly specs) (campaign : CampaignId) (now : Time)
    (found : specs.find? spec.id = some spec) (pushes : spec.branchPush? = some push) :
    (row.following campaign now spec).Orderly specs := by
  simp only [ChangesetSpec.branchPush?] at pushes
  simp only [Changeset.following]
  split at pushes
  · next target =>
    rw [target]
    refine ⟨orderly.staysOpen, fun _ => rfl, ⟨spec, .row found⟩, ?_⟩
    dsimp only [requeued]
    split
    · exact orderly.namesPrevious
    · obtain ⟨current, names⟩ := orderly.namesCurrent
      exact ⟨some current, names⟩
  · cases pushes

private theorem ofSpec (campaign : CampaignId) (now : Time) (repo : Repo) (id : ChangesetId)
    (found : specs.find? spec.id = some spec) (pushes : spec.branchPush? = some push) :
    Orderly specs { Changeset.ofSpec campaign now repo spec with id } := by
  simp only [ChangesetSpec.branchPush?] at pushes
  simp only [Changeset.ofSpec]
  split at pushes
  · next target =>
    rw [target]
    exact ⟨⟨by simp, by simp⟩, fun _ => rfl, ⟨spec, .row found⟩, ⟨none, .nothing⟩⟩
  · cases pushes

end Changeset.Orderly

namespace System

variable {origin system next : System} {events : List Event} {event : Event}

/-- What holds between and during attempts that are left alone. -/
structure Ordered (system : System) : Prop where
  pushes {id : ChangesetSpecId} {spec : ChangesetSpec}
    (found : system.store.changesetSpecs.find? id = some spec) :
    ∃ push, spec.branchPush? = some push
  row {id : ChangesetId} {row : Changeset} (found : system.store.changesets.find? id = some row) :
    row.Orderly system.store.changesetSpecs
  stored {number : Nat} {flight : Flight} (under : system.flights number = some flight) :
    system.store.changesets.find? flight.claimed.id = some flight.claimed
  staysOpen {number : Nat} {flight : Flight} (under : system.flights number = some flight) :
    flight.attempt.row.StaysOpen
  single {first second : Nat} {flight other : Flight}
    (one : system.flights first = some flight) (two : system.flights second = some other) :
    first = second

/-- A changeset that its campaign holds is steady. -/
theorem Ordered.steady (ordered : system.Ordered) {id : ChangesetId} {row : Changeset}
    (found : system.store.changesets.find? id = some row)
    (held : row.isOwnedAndAttached = true) : row.Steady system.store.changesetSpecs := by
  have orderly := ordered.row found
  obtain ⟨current, names⟩ := orderly.namesCurrent
  have present := names
  generalize row.currentSpecId = currentId at present
  cases present with
  | row stored =>
    obtain ⟨push, pushes⟩ := ordered.pushes stored
    exact ⟨orderly.staysOpen.1, orderly.staysOpen.2, orderly.wanted held, current, push, names,
      pushes⟩

private theorem Ordered.change (ordered : system.Ordered) (sound : system.Sound) {id : ChangesetId}
    {before after : Option Changeset} {lease lease' : Option LeaseRecord} {row : Changeset}
    (change : Change system event next id before lease after lease')
    (found : system.store.changesets.find? id = before) (present : after = some row)
    (lasting : ∀ closure, event ≠ .close closure) :
    row.Orderly system.store.changesetSpecs := by
  have earlier : ∀ {row}, before = some row → row.Orderly system.store.changesetSpecs :=
    fun same => ordered.row (found.trans same)
  cases change with
  | still same => exact earlier present
  | claimed happens due mark =>
    cases present
    exact (earlier rfl).congr rfl (earlier rfl).wanted rfl rfl
  | concluded happens under stopped gone settled here token =>
    obtain ⟨stored, rfl, rfl⟩ := Option.map_eq_some_iff.mp present
    refine (earlier rfl).withOutcome _ ?_
    obtain ⟨-, rfl⟩ | ⟨error, retryAt, -, rfl⟩ := Changeset.settled?_eq_some settled
    · exact ordered.staysOpen under
    · exact ordered.staysOpen under
  | canceled happens waiting =>
    cases present
    exact (earlier rfl).congr rfl (earlier rfl).wanted rfl rfl
  | requeued happens due =>
    cases present
    exact (earlier rfl).congr rfl (earlier rfl).wanted rfl rfl
  | reset happens expired =>
    obtain ⟨stored, rfl, rfl⟩ := Option.map_eq_some_iff.mp present
    exact (earlier rfl).released
  | rewired generation happens under makes fate =>
    subst present
    cases fate with
    | kept => exact earlier rfl
    | left unwanted decided => exact (earlier rfl).dropped decided
    | followed paired =>
      have stored := sound.numbered.find?_of_paired paired
      obtain ⟨push, pushes⟩ := ordered.pushes stored
      exact (earlier rfl).following _ _ stored pushes
    | created paired located fresh =>
      have stored := sound.numbered.find?_of_paired paired
      obtain ⟨push, pushes⟩ := ordered.pushes stored
      exact .ofSpec _ _ _ _ stored pushes
  | closed happens fate => exact absurd happens (lasting _)

/-- An event of an attempt leaves all changesets alone, or writes its outcome back. -/
theorem Change.of_attempt {id : ChangesetId} {before after : Option Changeset}
    {lease lease' : Option LeaseRecord}
    (change : Change system event next id before lease after lease')
    (attempt : event.isOfAttempt = true) :
    after = before ∨ ∃ number policy flight, event = .conclude number policy ∧
      system.flights number = some flight ∧ next.flights number = none := by
  cases change with
  | still same => exact .inl rfl
  | claimed happens due mark =>
    subst happens
    cases attempt
  | concluded happens under stopped gone settled here token =>
    exact .inr ⟨_, _, _, happens, under, gone⟩
  | canceled happens waiting =>
    rcases happens with rfl | ⟨number, visible, rfl⟩ <;> cases attempt
  | requeued happens due =>
    subst happens
    cases attempt
  | reset happens expired =>
    subst happens
    cases attempt
  | rewired generation happens under makes fate =>
    subst happens
    cases attempt
  | closed happens fate =>
    subst happens
    cases attempt

/-- An attempt that goes on has been alone: its changeset is still as it was claimed. -/
theorem Ordered.undisturbed (ordered : system.Ordered) (sound : system.Sound)
    (allows : system.Allows event) {number : Nat} {flight after : Flight}
    (under : system.flights number = some flight)
    (still : (system.step event).flights number = some after) :
    (system.step event).store.changesets.find? flight.claimed.id = some flight.claimed := by
  have happens := System.transition sound.numbered event
  have attempt : event.isOfAttempt = true := by
    by_contra other
    rw [allows.alone (by simpa using other)] at under
    cases under
  rcases (happens.change sound flight.claimed.id).of_attempt attempt with same |
    ⟨concluded, policy, other, -, underToo, gone⟩
  · rw [same]
    exact ordered.stored under
  · -- The only attempt under way would be the one that was just written back.
    cases ordered.single under underToo
    rw [gone] at still
    cases still

/-- An attempt that asks a question learns of no closed or merged pull request. -/
theorem Ordered.learns (ordered : system.Ordered) (allows : system.Allows event) {number : Nat}
    {before : Flight} {settings : Settings} {reply : HostReply} {question : Question}
    {answer : question.Answer} {attempt : Attempt} {after : Store}
    (happened : event = .ask number settings reply)
    (under : system.flights number = some before)
    (asks : ∃ resume, before.attempt.next = .ask question resume)
    (moves : before.attempt.Moves question answer attempt)
    (answered : question.Answered system.store system.now settings reply after answer) :
    attempt.row.StaysOpen := by
  obtain ⟨resume, asks⟩ := asks
  rcases moves.externalState with kept | ⟨view, said, state⟩
  · rw [Changeset.StaysOpen, kept]
    exact ordered.staysOpen under
  · obtain ⟨repo, asked, rfl, replied⟩ := answered.view? said
    rw [Changeset.StaysOpen, state]
    rcases allows.stayOpen _ _ _ _ _ _ _ _ happened under asks replied with opened | draft
    · simp [opened]
    · simp [draft]

private theorem Flies.before_or_alone {number : Nat} {flight : Flight}
    (flies : Flies system event next number flight) (allows : system.Allows event) :
    (∃ before, system.flights number = some before) ∨
      number = system.tokens ∧ ∀ number, system.flights number = none := by
  cases flies with
  | stays before => exact .inl ⟨_, before⟩
  | asked happened before asks moves answered deliveries same => exact .inl ⟨_, before⟩
  | claimed happened new below found begins stored leased =>
    have other : event.isOfAttempt = false := by
      rw [happened]
      rfl
    exact .inr ⟨new, allows.alone other⟩

/-- What may happen next keeps everything in order. -/
theorem Ordered.step (ordered : system.Ordered) (sound : system.Sound)
    (allows : system.Allows event) : (system.step event).Ordered where
  pushes {id spec} found := by
    have happens := System.transition sound.numbered event
    obtain same | ⟨added, rfl, store⟩ := happens.changesetSpecs
    · rw [same] at found
      exact ordered.pushes found
    · rw [store] at found
      rcases Table.find?_insert_eq_some.mp found with ⟨rfl, rfl⟩ | ⟨-, found⟩
      · exact allows.pushes added rfl
      · exact ordered.pushes found
  row {id row} found := by
    have happens := System.transition sound.numbered event
    have orderly := ordered.change sound (happens.change sound id) rfl found allows.lasting
    exact orderly.mono fun present => happens.find?_changesetSpecs sound.numbered present
  stored {number flight} under := by
    cases (System.transition sound.numbered event).flies under with
    | stays before => exact ordered.undisturbed sound allows before under
    | asked happened before asks moves answered deliveries same =>
      subst same
      have kept := ordered.undisturbed sound allows before under
      exact kept
    | claimed happened new below found begins stored leased =>
      subst begins
      exact stored
  staysOpen {number flight} under := by
    cases (System.transition sound.numbered event).flies under with
    | stays before => exact ordered.staysOpen before
    | asked happened before asks moves answered deliveries same =>
      subst same
      exact ordered.learns allows happened before asks moves answered
    | claimed happened new below found begins stored leased =>
      subst begins
      rw [Attempt.row_start]
      exact (ordered.row (sound.numbered.find?_candidate found)).staysOpen
  single {first second flight other} one two := by
    have happens := System.transition sound.numbered event
    rcases (happens.flies one).before_or_alone allows with ⟨before, under⟩ | ⟨new, alone⟩
    · rcases (happens.flies two).before_or_alone allows with ⟨before', under'⟩ | ⟨new', alone⟩
      · exact ordered.single under under'
      · rw [alone] at under
        cases under
    · rcases (happens.flies two).before_or_alone allows with ⟨before', under'⟩ | ⟨new', -⟩
      · rw [alone] at under'
        cases under'
      · exact new.trans new'.symm

theorem Ordered.run (ordered : system.Ordered) (sound : system.Sound)
    (sequential : system.Sequential events) : (system.run events).Ordered := by
  induction events generalizing system with
  | nil => exact ordered
  | cons event rest ih =>
    exact ih (ordered.step sound sequential.1) (sound.step event) sequential.2

theorem ordered_start (faults : List Fault) (now : Time) : (start faults now).Ordered where
  pushes found := by cases found
  row found := by cases found
  stored under := by cases under
  staysOpen under := by cases under
  single one := by cases one

end System

end BatchChanges
