import BatchChanges.Proofs.Attempt.Plan
import BatchChanges.Proofs.System.Edits

/-! # Close requests that are made in flight

An application that drops a changeset, and a closure, may wish its pull request closed while an
attempt on it is under way. The write-back of the attempt leaves the changeset in the queue, and the
wish stands, so that the next plan is to close the pull request. There is one exception: if the
changeset was to be closed already when it was claimed, and the attempt did close it, then the
write-back takes the wish for the one that was fulfilled, also if it was withdrawn in the meantime
and made anew.
-/

namespace BatchChanges

/-- A changeset with a pull request is to be closed, and it waits in the queue or was taken out of
it. -/
structure Changeset.ToClose (row : Changeset) (canceled : Prop) : Prop where
  closing : row.closing = true
  published : row.publication = .published
  place : row.queueState = .queued ∨
    row.queueState = .errored ∧ row.failureMessage = some Changeset.canceledMessage ∧
      row.processAfter = none ∧ canceled

namespace Changeset.ToClose

variable {row after : Changeset} {canceled : Prop}

/-- Only the wish, what is known of the pull request and the place in the queue matter. -/
theorem congr (toClose : row.ToClose canceled) (closing : after.closing = true)
    (standing : after.standing = row.standing) (place : after.place = row.place) :
    after.ToClose canceled := by
  refine ⟨closing, (congrArg Prod.fst standing).trans toClose.published, ?_⟩
  rw [show after.queueState = row.queueState from congrArg Prod.fst place,
    show after.failureMessage = row.failureMessage from congrArg (·.2.1) place,
    show after.processAfter = row.processAfter from congrArg (·.2.2.2) place]
  exact toClose.place

private theorem mono {weaker : Prop} (toClose : row.ToClose canceled)
    (weakens : canceled → weaker) : row.ToClose weaker :=
  ⟨toClose.closing, toClose.published, toClose.place.imp_right fun ⟨errored, message, never, told⟩ =>
    ⟨errored, message, never, weakens told⟩⟩

private theorem idle (toClose : row.ToClose canceled) : row.queueState ≠ .processing := by
  obtain queued | ⟨errored, -⟩ := toClose.place
  · simp [queued]
  · simp [errored]

private theorem not_isRetryDue (toClose : row.ToClose canceled) (now : Time)
    (maxAttempts : UInt32) : row.isRetryDue now maxAttempts = false := by
  obtain queued | ⟨-, -, never, -⟩ := toClose.place
  · simp [Changeset.isRetryDue, queued]
  · simp [Changeset.isRetryDue, never]

/-- A published changeset that leaves a campaign is still to be closed. -/
theorem dropped {campaign : CampaignId} {now : Time} {placed : Changeset}
    (toClose : row.ToClose canceled)
    (decided : Placement.ofDropped campaign now row = .staged placed) :
    placed.ToClose canceled := by
  obtain ⟨-, rfl⟩ | ⟨-, rfl⟩ := Placement.ofDropped_eq_staged decided
  · exact ⟨rfl, toClose.published, .inl rfl⟩
  · exact toClose.congr toClose.closing rfl rfl

private theorem tracked {spec : ChangesetSpec} (toClose : row.ToClose canceled)
    (campaign : CampaignId) (now : Time) (tracks : spec.branchPush? = none) :
    (row.following campaign now spec).ToClose canceled := by
  have closing := (row.closing_following campaign now tracks).trans toClose.closing
  have standing := row.standing_following campaign now spec
  rcases row.place_following campaign now spec with fresh | ⟨same, -⟩
  · exact ⟨closing, (congrArg Prod.fst standing).trans toClose.published,
      .inl (congrArg Prod.fst fresh)⟩
  · exact toClose.congr closing standing same

end Changeset.ToClose

namespace System

variable {system : System} {event : Event} {id : ChangesetId} {number : Nat} {excuse : Prop}

/-- An application or a closure wishes a changeset closed. -/
inductive Requests (system : System) (event : Event) (id : ChangesetId) : Prop
  | dropped {number : Nat} {visible : Visibility} {applying : Applying} {generation : Generation}
      {row placed : Changeset} (happens : event = .proceed number visible)
      (under : system.applications number = some applying)
      (makes : applying.Makes visible generation)
      (found : system.store.changesets.find? id = some row)
      (unwanted : generation.Unwanted system.store row)
      (opened : row.isClosedWith generation.campaign = true)
      (decided : Placement.ofDropped generation.campaign generation.now row = .staged placed)
      (stored : (system.step event).store.changesets.find? id = some placed)
  | closed {closure : Closure} {row : Changeset} (happens : event = .close closure)
      (found : system.store.changesets.find? id = some row)
      (attached : row.isAttachedTo closure.id = true)
      (opened : row.isClosedWith closure.id = true)
      (stored : (system.step event).store.changesets.find? id =
        some (row.queuedToClose system.now))

/-- An application moves a changeset on to a branch push, so that it is not to be closed any
more. -/
def Withdraws (system : System) (event : Event) (id : ChangesetId) : Prop :=
  ∃ row spec push moved, system.MovesOn event id row spec moved ∧ spec.branchPush? = some push

/-- A changeset that waits in the queue is taken out of it. -/
def Cancels (system : System) (event : Event) (id : ChangesetId) : Prop :=
  ∃ campaign row, (event = .cancelQueued campaign ∨ ∃ number visible,
      event = .proceed number visible) ∧
    system.store.changesets.find? id = some row ∧ row.isCancelable campaign = true ∧
    (system.step event).store.changesets.find? id = some row.canceled

private theorem Requests.toClose (requests : system.Requests event id) :
    ∃ row, (system.step event).store.changesets.find? id = some row ∧ row.ToClose False := by
  cases requests with
  | @dropped _ _ _ generation row placed happens under makes found unwanted opened decided stored =>
    refine ⟨placed, stored, ?_⟩
    have published := Changeset.published_of_isClosedWith opened
    have kept := Placement.standing_of_ofDropped decided
    simp only [Changeset.isClosedWith, Bool.and_eq_true] at opened
    obtain ⟨⟨owned, isPublished⟩, isOpen⟩ := opened
    simp only [Placement.ofDropped, owned, isPublished, isOpen, Bool.not_true, Bool.and_false,
      Bool.false_and, Bool.and_true, Bool.false_eq_true, if_false, if_true] at decided
    cases decided
    exact ⟨rfl, published, .inl rfl⟩
  | @closed closure row happens found attached opened stored =>
    exact ⟨_, stored, rfl, Changeset.published_of_isClosedWith opened, .inl rfl⟩

/-- The changeset of an attempt whose lease still stands is to be closed. -/
def Pending (system : System) (id : ChangesetId) (number : Nat) (canceled : Prop) : Prop :=
  ∀ record, system.store.leases.find? id = some record →
    record.lease.token = leaseToken number →
    ∃ row, system.store.changesets.find? id = some row ∧ row.ToClose canceled

/-- As long as the lease stands, the wish does too, unless it is withdrawn; the changeset is taken
out of the queue by a cancellation only. -/
theorem Pending.step (pending : system.Pending id number excuse) (old : number < system.tokens)
    (sound : system.Sound) (stands : ¬ system.Withdraws event id) :
    (system.step event).Pending id number (excuse ∨ system.Cancels event id) := by
  intro record leased token
  have change := (System.transition sound.numbered event).change sound id
  rw [leased] at change
  obtain ⟨held, leasedBefore, tokenBefore, -⟩ := change.held old token
  obtain ⟨row, found, toClose⟩ := pending held leasedBefore tokenBefore
  have stays := toClose.mono fun told : excuse => Or.inl (b := system.Cancels event id) told
  rw [found, leasedBefore] at change
  generalize stored : (system.step event).store.changesets.find? id = after at change ⊢
  cases change with
  | still same => exact ⟨row, rfl, stays⟩
  | @canceled _ _ campaign happens waiting =>
    exact ⟨_, rfl, toClose.closing, toClose.published,
      .inr ⟨rfl, rfl, rfl, .inr ⟨campaign, row, happens, found, waiting, stored⟩⟩⟩
  | requeued happens due =>
    rw [toClose.not_isRetryDue] at due
    cases due
  | @rewired proceeding visible applying _ _ _ generation happens under makes fate =>
    obtain ⟨revised, rfl⟩ := fate.present toClose.published
    refine ⟨revised, rfl, ?_⟩
    cases fate with
    | kept => exact stays
    | left unwanted decided => exact stays.dropped decided
    | @followed _ spec paired =>
      cases tracks : spec.branchPush? with
      | none => exact stays.tracked _ _ tracks
      | some push =>
        have moves : system.MovesOn event id row spec _ :=
          ⟨found, stored, proceeding, visible, applying, generation, happens, under, makes,
            paired, rfl⟩
        exact absurd ⟨row, spec, push, _, moves, tracks⟩ stands
  | @closed closure _ _ _ happens fate =>
    cases fate with
    | kept => exact ⟨row, rfl, stays⟩
    | closed attached opened => exact ⟨_, rfl, rfl, toClose.published, .inl rfl⟩

/-- So it is along a run in which nobody withdraws the wish. -/
theorem Pending.run {events : List Event} (pending : system.Pending id number excuse)
    (old : number < system.tokens) (sound : system.Sound)
    (stands : system.Along (fun system event => ¬ system.Withdraws event id) events) :
    (system.run events).Pending id number (excuse ∨ ∃ earlier cause later,
      events = earlier ++ cause :: later ∧ (system.run earlier).Cancels cause id) := by
  induction events generalizing system excuse with
  | nil =>
    intro record leased token
    obtain ⟨row, found, toClose⟩ := pending record leased token
    exact ⟨row, found, toClose.mono .inl⟩
  | cons event rest ih =>
    have happens := System.transition sound.numbered event
    have later := ih (pending.step old sound stands.1)
      (Nat.lt_of_lt_of_le old happens.tokens_le) (sound.step event) stands.2
    intro record leased token
    obtain ⟨row, found, toClose⟩ := later record leased token
    refine ⟨row, found, toClose.mono ?_⟩
    rintro ((told | cancels) | ⟨earlier, cause, others, rfl, cancels⟩)
    · exact .inl told
    · exact .inr ⟨[], event, rest, rfl, cancels⟩
    · exact .inr ⟨event :: earlier, cause, others, rfl, cancels⟩

/-- In every run that starts with the empty store, whatever failures of the store lie ahead: an
application or a closure wishes a changeset closed while an attempt on it is under way, and nobody
withdraws the wish before the attempt writes its outcome back under its lease. Then the changeset is
still to be closed, exactly unless it was to be closed already when it was claimed and its outcome
says that it no longer is. It is in the queue, unless a cancellation took it out in the meantime. If
it is to be closed, then its next plan is to close it, or to leave it alone if it was merged. -/
theorem close_request_survives_iff (faults : List Fault) (now : Time) (before after : List Event)
    (event : Event) (number : Nat) (earlier flight : Flight) (outcome : Changeset) (next : Store)
    (under : ((start faults now).run before).flights number = some earlier)
    (requests : ((start faults now).run before).Requests event earlier.claimed.id)
    (stands : ((start faults now).run (before ++ [event])).Along
      (fun system event => ¬ system.Withdraws event earlier.claimed.id) after)
    (last : ((start faults now).run (before ++ event :: after)).flights number = some flight)
    (finished : ((start faults now).run (before ++ event :: after)).store.finish
      flight.attempt.lease outcome = (.applied, next)) :
    ∃ row, next.changesets.find? earlier.claimed.id = some row ∧
      (row.closing = true ↔ (flight.claimed.closing = true → outcome.closing = true)) ∧
      (row.queueState = .queued ∨
        row.queueState = .errored ∧ row.failureMessage = some Changeset.canceledMessage ∧
          row.processAfter = none ∧ ∃ between cause rest, after = between ++ cause :: rest ∧
          ((start faults now).run (before ++ event :: between)).Cancels cause
            earlier.claimed.id) ∧
      (row.closing = true → ∀ previous current,
        Plan.determine previous current { row with queueState := .processing } =
          .ok { operations := if row.isMerged then [] else [.close] }) := by
  have sound := (sound_start faults now).run before
  have below := (sound.flight under).number_lt
  rw [run_append, run_cons] at last finished
  rw [run_append, run_cons, run_nil] at stands
  have soundNext := sound.step event
  have belowNext := Nat.lt_of_lt_of_le below (System.transition sound.numbered event).tokens_le
  have claimed : earlier.claimed = flight.claimed := by
    obtain ⟨same, underToo, kept⟩ := sound.under_before (event :: after) below last
    rw [under] at underToo
    cases underToo
    exact kept
  obtain ⟨requested, present, wished⟩ := requests.toClose
  have begins : (((start faults now).run before).step event).Pending earlier.claimed.id number
      False := fun _ _ _ => ⟨requested, present, wished⟩
  have pending := begins.run belowNext soundNext stands
  have soundLast := soundNext.run after
  have faithful := ((faithful_start faults now).run (sound_start faults now) before).run sound
    (event :: after)
  obtain ⟨record, leased, same⟩ := Store.holds_of_finish_applied (congrArg Prod.fst finished)
  have mine := soundLast.flight last
  rw [Store.finish_of_record leased same] at finished
  rw [mine.changesetId, ← claimed] at leased finished
  obtain ⟨row, found, toClose⟩ := pending record leased (same.trans mine.token)
  rw [found] at finished
  cases finished
  have noted : record.closingAtClaim = flight.claimed.closing :=
    (faithful.claim last (claimed ▸ leased) (same.trans mine.token)).1
  have place := Changeset.place_withOutcome toClose.idle outcome record.closingAtClaim
  refine ⟨row.withOutcome outcome record.closingAtClaim, by simp, ?_, ?_, ?_⟩
  · simp only [Changeset.withOutcome, noted, toClose.closing]
    cases flight.claimed.closing <;> cases outcome.closing <;> simp
  · rw [show (row.withOutcome outcome record.closingAtClaim).queueState = row.queueState
        from congrArg Prod.fst place,
      show (row.withOutcome outcome record.closingAtClaim).failureMessage = row.failureMessage
        from congrArg (·.2.1) place,
      show (row.withOutcome outcome record.closingAtClaim).processAfter = row.processAfter
        from congrArg (·.2.2.2) place]
    refine toClose.place.imp_right ?_
    rintro ⟨errored, message, never, ⟨⟨⟩⟩ | ⟨between, cause, rest, split, cancels⟩⟩
    refine ⟨errored, message, never, between, cause, rest, split, ?_⟩
    rw [run_append, run_cons]
    exact cancels
  · intro closing previous current
    exact Plan.determine_of_closing previous current closing

/-- Only applications withdraw a wish. -/
theorem not_withdraws (quiet : event.editsCampaign = false) : ¬ system.Withdraws event id := by
  rintro ⟨row, spec, push, moved, ⟨-, -, number, visible, applying, generation, rfl, -⟩, -⟩
  cases quiet

end System

namespace Sample

/-- The campaign of the two generations is closed with its pull requests. -/
def closure : Closure where
  id := ⟨5⟩
  actor := ⟨⟨1⟩, false⟩
  withChangesets := true

/-- The second generation is being brought to the code host, and has edited the title. -/
def editing : List Event :=
  setUp ++ attempt 0 5 ++ [.conclude 0 {}] ++ apply "b" ++ attempt 1 4

/-- The rest of the attempt. -/
def pushing : List Event := List.replicate 6 (.ask 1 {} reply)

/-- The write-back of an attempt that has succeeded. -/
def completed (store : Store) (flight : Flight) : Verdict × Store :=
  store.finish flight.attempt.lease (flight.attempt.row.completed (instant 0))

end Sample

open Sample in
/-- The attempt was claimed before the campaign was closed, so that the wish survives its
write-back. -/
theorem System.close_request_survives_iff_editing :
    ∃ flight outcome next row,
      ((start [] (instant 0)).run (editing ++ .close closure :: pushing)).flights 1 =
        some flight ∧
      flight.attempt.row.settled? {} none (instant 0) = some outcome ∧
      ((start [] (instant 0)).run (editing ++ .close closure :: pushing)).store.finish
        flight.attempt.lease outcome = (.applied, next) ∧
      next.changesets.find? changeset = some row ∧ row.closing = true := by
  obtain ⟨earlier, under, here⟩ := Option.map_eq_some_iff.mp (show
    (((start [] (instant 0)).run editing).flights 1).map (·.claimed.id) = some changeset by
      decide +kernel)
  obtain ⟨row, found, known⟩ := Option.map_eq_some_iff.mp (show
    (((start [] (instant 0)).run editing).store.changesets.find? changeset).map (fun row =>
      (row.isAttachedTo closure.id, row.isClosedWith closure.id)) = some (true, true) by
      decide +kernel)
  have stored : (((start [] (instant 0)).run editing).step (.close closure)).store.changesets.find?
      changeset = (((start [] (instant 0)).run editing).store.changesets.find? changeset).map
        (·.queuedToClose ((start [] (instant 0)).run editing).now) := by decide +kernel
  rw [found] at stored
  have requests : ((start [] (instant 0)).run editing).Requests (.close closure)
      earlier.claimed.id := by
    rw [here]
    exact .closed rfl found (congrArg Prod.fst known) (congrArg Prod.snd known) stored
  have stands : ((start [] (instant 0)).run (editing ++ [.close closure])).Along
      (fun system event => ¬ system.Withdraws event earlier.claimed.id) pushing := by
    have quiet : ((start [] (instant 0)).run (editing ++ [.close closure])).Along
        (fun _ event => event.editsCampaign = false) pushing := by decide
    exact quiet.mono ((sound_start [] (instant 0)).run _) fun _ quiet => not_withdraws quiet
  obtain ⟨flight, last, wanted⟩ := Option.map_eq_some_iff.mp (show
    (((start [] (instant 0)).run (editing ++ .close closure :: pushing)).flights 1).map
      (·.claimed.closing) = some false by decide +kernel)
  have written : (((start [] (instant 0)).run (editing ++ .close closure :: pushing)).flights
      1).map (fun flight => (completed ((start [] (instant 0)).run
        (editing ++ .close closure :: pushing)).store flight).1) = some .applied := by
    decide +kernel
  rw [last, Option.map_some, Option.some.injEq] at written
  obtain ⟨survivor, final, closing, -⟩ := close_request_survives_iff [] (instant 0) editing pushing
    (.close closure) 1 earlier flight _ _ under requests stands last (Prod.ext written rfl)
  refine ⟨flight, _, _, survivor, last, rfl, Prod.ext written rfl, here ▸ final, closing.mpr ?_⟩
  intro closed
  rw [wanted] at closed
  cases closed

-- The second generation drops the changeset, which is then being closed. Meanwhile the third one
-- takes it up again, and the campaign is closed.
namespace Sample

/-- The second generation has no changesets, and drops the one of the first. -/
def dropped (title message : String) : List Event :=
  [.putRepo repo, .addCampaignSpec (campaignSpec "a"), .addChangesetSpec (spec 1 "a" "a"),
    .addCampaignSpec (campaignSpec "b"),
    .addCampaignSpec (campaignSpec "c"), .addChangesetSpec (spec 4 title message)] ++
    apply "a" ++ attempt 0 5 ++ [.conclude 0 {}] ++ apply "b"

/-- A code host that says that a pull request is closed. -/
def closedReply : HostReply := { reply with
  request := .ok ⟨"101", "tidy", .closed, "", none, instant 0⟩ }

/-- The pull request is about to be closed when the third generation takes it up again. -/
def takenUp : List Event := dropped "c" "c" ++ attempt 1 2 ++ apply "c"

/-- The campaign is closed, and then the pull request. -/
def closedAnew : List Event :=
  takenUp ++ [.close { closure with id := ⟨6⟩ }, .ask 1 {} closedReply]

end Sample

open Sample in
/-- The closure wishes the changeset closed after its claim, and is the last to say so; the
write-back drops the wish, so that the next plan is to reopen the pull request. -/
theorem System.close_request_dropped :
    (∃ earlier, ((start [] (instant 0)).run takenUp).flights 1 = some earlier ∧
      earlier.claimed.id = ⟨7⟩) ∧
    ((start [] (instant 0)).run takenUp).Requests (.close { closure with id := ⟨6⟩ }) ⟨7⟩ ∧
    ∃ flight outcome next row,
      ((start [] (instant 0)).run closedAnew).flights 1 = some flight ∧
      flight.attempt.row.settled? {} none (instant 0) = some outcome ∧
      ((start [] (instant 0)).run closedAnew).store.finish flight.attempt.lease outcome =
        (.applied, next) ∧
      next.changesets.find? ⟨7⟩ = some row ∧ row.queueState = .queued ∧ row.closing = false ∧
      ∀ previous current, Plan.determine previous current row =
        .ok { operations := [.reopen] } := by
  refine ⟨?_, ?_, ?_⟩
  · exact Option.map_eq_some_iff.mp (show
      (((start [] (instant 0)).run takenUp).flights 1).map (·.claimed.id) = some ⟨7⟩ by
        decide +kernel)
  · obtain ⟨row, found, known⟩ := Option.map_eq_some_iff.mp (show
      (((start [] (instant 0)).run takenUp).store.changesets.find? ⟨7⟩).map (fun row =>
        (row.isAttachedTo ⟨6⟩, row.isClosedWith ⟨6⟩)) = some (true, true) by decide +kernel)
    have stored : (((start [] (instant 0)).run takenUp).step
        (.close { closure with id := ⟨6⟩ })).store.changesets.find? ⟨7⟩ =
        (((start [] (instant 0)).run takenUp).store.changesets.find? ⟨7⟩).map
          (·.queuedToClose ((start [] (instant 0)).run takenUp).now) := by decide +kernel
    rw [found] at stored
    exact .closed rfl found (congrArg Prod.fst known) (congrArg Prod.snd known) stored
  · obtain ⟨flight, last, applied⟩ := Option.map_eq_some_iff.mp (show
      (((start [] (instant 0)).run closedAnew).flights 1).map (fun flight =>
        (completed ((start [] (instant 0)).run closedAnew).store flight).1) = some .applied by
        decide +kernel)
    obtain ⟨row, found, known⟩ := Option.map_eq_some_iff.mp (show
      ((((start [] (instant 0)).run closedAnew).flights 1).bind fun flight =>
        (completed ((start [] (instant 0)).run closedAnew).store flight).2.changesets.find?
          ⟨7⟩).map (fun row =>
        (row.queueState, row.closing, row.externalState, row.isOwnedAndAttached)) =
        some (.queued, false, some .closed, true) by decide +kernel)
    rw [last, Option.bind_some] at found
    simp only [Prod.mk.injEq] at known
    obtain ⟨queued, wanted, closed, held⟩ := known
    exact ⟨flight, _, _, row, last, rfl, Prod.ext applied rfl, found, queued, wanted,
      fun previous current => Plan.determine_of_closed previous current closed held wanted⟩

end BatchChanges
