import BatchChanges.Proofs.System.Grounded
import BatchChanges.Proofs.System.OneWay
import BatchChanges.Proofs.System.Sequential

/-! # How code hosts conduct themselves

Nothing binds a code host in what it says about a pull request. A conduct says which states it may
report, by what it is asked and by the state that the attempt has on record. Along a run in which
all answers suit a conduct, the state that an attempt has on record is led to by what it told, and
it led there from the state that the changeset still shows when the attempt writes back.
-/

namespace BatchChanges

/-- Which states a code host may report, by what it is asked and by the state on record. -/
abbrev Conduct := HostRequest → Option HostState → HostState → Prop

/-- The states that can be on record once effects were told, the last of them first. -/
inductive Conduct.Leads (conduct : Conduct) (known : Option HostState) :
    List Effect → Option HostState → Prop
  | still : Leads conduct known [] known
  | pushed {told : List Effect} {state : Option HostState} {branch : BranchPush}
      (before : Leads conduct known told state) : Leads conduct known (.push branch :: told) state
  | answered {told : List Effect} {state : Option HostState} {asked : HostRequest}
      {reported : HostState} (before : Leads conduct known told state)
      (suits : conduct asked state reported) :
      Leads conduct known (.request asked :: told) (some reported)

variable {conduct : Conduct}

private theorem Attempt.Moves.leads {attempt following : Attempt} {question : Question}
    {answer : question.Answer} {known : Option HostState} {told : List Effect}
    (moves : attempt.Moves question answer following)
    (leads : conduct.Leads known told attempt.row.externalState)
    (suits : ∀ {repo asked view}, question = .request repo asked →
      question.view? answer = some view → conduct asked attempt.row.externalState view.state) :
    conduct.Leads known ((question.told? answer).toList ++ told) following.row.externalState := by
  cases moves with
  | failed error silent =>
    rw [silent]
    exact leads
  | readPrevious stage => simpa [Question.told?] using leads
  | readCurrent stage => simpa [Question.told?] using leads
  | readRepo stage => simpa [Question.told?, externalState_begin] using leads
  | renewed stage => simpa [Question.told?, externalState_begin] using leads
  | @acted repo operation effect rest answer row stage absorbed =>
    rw [row_proceed]
    cases Operation.absorbs_of_absorb absorbed with
    | pushed branch => exact .pushed leads
    | answered asked view =>
      have state : (operation.answered view attempt.row).externalState = some view.state :=
        externalState_mark operation _
      rw [state]
      exact .answered leads (suits rfl rfl)
    | paused => exact leads

namespace System

variable {system : System} {event : Event} {events : List Event}

/-- What the code host answers suits its conduct. -/
def Behaves (conduct : Conduct) (system : System) (event : Event) : Prop :=
  ∀ number settings reply flight repo asked resume view, event = .ask number settings reply →
    system.flights number = some flight →
    flight.attempt.next = .ask (.request repo asked) resume → reply.request = .ok view →
    conduct asked flight.attempt.row.externalState view.state

/-- Whether it can be seen from an event that it suits a conduct. -/
def suits (conduct : Conduct) [∀ asked known state, Decidable (conduct asked known state)]
    (system : System) : Event → Bool
  | .ask number _ reply =>
    match system.flights number, reply.request with
    | some flight, .ok view =>
      match flight.attempt.next with
      | .ask (.request _ asked) _ => decide (conduct asked flight.attempt.row.externalState view.state)
      | _ => true
    | _, _ => true
  | _ => true

theorem behaves_of_suits [∀ asked known state, Decidable (conduct asked known state)]
    (suited : system.suits conduct event = true) : system.Behaves conduct event := by
  rintro number settings reply flight repo asked resume view rfl under asks replied
  simpa [suits, under, replied, asks] using suited

/-- What attempts have on record, they were led to. -/
def Led (conduct : Conduct) (system : System) : Prop :=
  ∀ number flight, system.flights number = some flight →
    conduct.Leads flight.claimed.externalState flight.told flight.attempt.row.externalState

private theorem led_start (faults : List Fault) (now : Time) : (start faults now).Led conduct :=
  fun number flight under => by cases under

private theorem Led.step (led : system.Led conduct) (sound : system.Sound)
    (behaves : system.Behaves conduct event) : (system.step event).Led conduct := by
  intro number flight under
  cases (System.transition sound.numbered event).flies under with
  | stays before => exact led number flight before
  | asked happened before asks moves answered deliveries same =>
    subst same
    obtain ⟨resume, asks⟩ := asks
    refine moves.leads (led number _ before) ?_
    rintro repo asked view rfl said
    obtain ⟨_, _, ⟨⟩, replied⟩ := answered.view? said
    exact behaves _ _ _ _ _ _ resume _ happened before asks replied
  | claimed happened new below found begins stored leased =>
    subst begins
    rw [Attempt.row_start]
    exact .still

private theorem Led.run (led : system.Led conduct) (sound : system.Sound)
    (along : system.Along (Behaves conduct) events) : (system.run events).Led conduct :=
  along.keeps sound (fun sound behaves led => led.step sound behaves) led

/-- What holds in all states that a run reaches from the empty store, if the answers suit a
conduct. -/
structure Regular (conduct : Conduct) (system : System) : Prop where
  sound : system.Sound
  informed : system.Informed
  faithful : system.Faithful
  guards : Guards Changeset.sight system
  grounded : system.Grounded fun _ => True
  led : system.Led conduct

theorem regular_run (faults : List Fault) (now : Time)
    (along : (start faults now).Along (Behaves conduct) events) :
    ((start faults now).run events).Regular conduct where
  sound := (sound_start faults now).run events
  informed := (informed_start faults now).run (sound_start faults now) events
  faithful := (faithful_start faults now).run (sound_start faults now) events
  guards := (guards_start faults now).run (sound_start faults now) events
  grounded := grounded_run faults now events
  led := (led_start faults now).run (sound_start faults now) along

theorem Regular.change (regular : system.Regular conduct) (event : Event) (id : ChangesetId) :
    Change system event (system.step event) id (system.store.changesets.find? id)
      (system.store.leases.find? id) ((system.step event).store.changesets.find? id)
      ((system.step event).store.leases.find? id) :=
  (System.transition regular.sound.numbered event).change regular.sound id

end System

end BatchChanges
