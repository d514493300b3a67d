import BatchChanges.Proofs.Campaign.Members
import BatchChanges.Proofs.System.CloseRequest
import BatchChanges.Proofs.System.Conduct

/-! # Pull requests of changesets that were dropped

A campaign that drops a changeset wishes its pull request closed if it is open then. The wish stands
until the pull request has been closed, and nobody makes it later. So if the pull request comes to
be open after the drop only, by an attempt that began before, it stays open.
-/

namespace BatchChanges

/-- Whoever closes a pull request says so. -/
def Conduct.closes : Conduct
  | .close _, _, state => state = .closed
  | _, _, _ => True

instance (asked : HostRequest) (known : Option HostState) (state : HostState) :
    Decidable (Conduct.closes asked known state) :=
  match asked with
  | .close _ => inferInstanceAs (Decidable (state = .closed))
  | .create _ _ | .update _ _ | .undraft _ | .load _ | .reopen _ => inferInstanceAs (Decidable True)

private theorem Changeset.held_following (row : Changeset) (campaign : CampaignId) (now : Time)
    (spec : ChangesetSpec) (held : row.isOwnedAndAttached = true) :
    (row.following campaign now spec).isOwnedAndAttached = true := by
  have owner : (row.following campaign now spec).ownerId = row.ownerId :=
    congrArg (·.1.2.2.2.1) (row.unedited_following campaign now spec)
  simp only [isOwnedAndAttached, isAttachedTo, owner, campaignIds_following,
    IdSet.contains_add] at held ⊢
  split at held
  · exact Bool.or_eq_true_iff.mpr (.inr held)
  · cases held

private theorem Changeset.held_ofSpec (campaign : CampaignId) (now : Time) (repo : Repo)
    (spec : ChangesetSpec) (id : ChangesetId)
    (owned : (ofSpec campaign now repo spec).ownerId ≠ none) :
    isOwnedAndAttached { ofSpec campaign now repo spec with id } = true := by
  obtain ⟨owner, named⟩ := Option.ne_none_iff_exists'.mp owned
  cases ownerId_ofSpec named
  simp only [isOwnedAndAttached, isAttachedTo, named, campaignIds_ofSpec]
  exact IdSet.contains_ofList.mpr List.mem_cons_self

/-- Closing a pull request that has a number tells the code host. -/
theorem Operation.Runs.told_of_close {push : Option BranchPush} {claimed row : Changeset}
    {told : List Effect} (runs : Runs push claimed [.close] row told)
    (opened : claimed.externalId ≠ none) :
    ∃ externalId, told = [.request (.close externalId)] := by
  generalize one : [Operation.close] = run at runs
  cases runs with
  | nothing => cases one
  | @marked operations row told last before idle =>
    obtain ⟨rfl, -⟩ | ⟨-, ⟨⟩⟩ := List.append_eq_singleton_iff.mp one.symm
    cases one
    rw [before.of_nil.1] at idle
    exact absurd (Option.map_eq_none_iff.mp (Except.ok.inj idle)) opened
  | @acted operations row next told last effect repo answer before acts absorbed =>
    obtain ⟨rfl, -⟩ | ⟨-, ⟨⟩⟩ := List.append_eq_singleton_iff.mp one.symm
    cases one
    rw [before.of_nil.2]
    cases performs_of_effect acts with
    | close opened =>
      obtain ⟨⟨⟩⟩ | said := told?_of_absorb_ok absorbed
      rw [said]
      exact ⟨_, rfl⟩

/-- An attempt on a changeset that is to be closed has done nothing, or has closed its pull
request. -/
theorem Flight.Course.idle_or_closed {specs : Table .changesetSpec ChangesetSpec} {flight : Flight}
    (course : flight.Course specs) (closing : flight.claimed.closing = true)
    (opened : flight.claimed.externalId ≠ none) :
    flight.attempt.row = flight.claimed ∨
      ∃ externalId, flight.told = [.request (.close externalId)] := by
  cases course with
  | @planned _ previous current plan run left follows between acts =>
    have planned := follows.planned
    rw [Plan.determine_of_closing previous current closing] at planned
    cases planned
    have split := follows.split
    cases run with
    | nil => exact .inl follows.runs.of_nil.1
    | cons operation rest =>
      split_ifs at split with merged
      · cases split
      · obtain ⟨rfl, nothing⟩ := List.cons.inj split
        obtain ⟨rfl, -⟩ := List.append_eq_nil_iff.mp nothing.symm
        exact .inr (follows.runs.told_of_close opened)
  | _ => exact .inl rfl

namespace System

variable {system next : System} {event : Event} {events : List Event} {id : ChangesetId}
  {row after : Changeset} {owner : CampaignId} {lease lease' : Option LeaseRecord}

/-- So the pull request is closed unless the attempt has done nothing. -/
theorem Regular.idle_or_closed (regular : system.Regular .closes) {number : Nat} {flight : Flight}
    (under : system.flights number = some flight) (closing : flight.claimed.closing = true)
    (published : flight.claimed.publication = .published) :
    flight.attempt.row = flight.claimed ∨ flight.attempt.row.externalState = some .closed := by
  have opened := (regular.grounded.claimed under).toLocated.published published
  refine ((regular.sound.flight under).course.idle_or_closed closing opened).imp_right ?_
  rintro ⟨externalId, told⟩
  have leads := regular.led number flight under
  rw [told] at leads
  generalize flight.attempt.row.externalState = state at leads ⊢
  cases leads with
  | answered before suits => exact congrArg some suits

/-- A wish to close goes when a campaign takes the changeset up again, or with the write-back of an
attempt that was claimed under the wish and no longer has it. -/
theorem Change.unwished (change : Change system event next id (some row) lease (some after) lease')
    (wished : row.closing = true) (gone : after.closing = false) :
    after.isOwnedAndAttached = true ∨ ∃ number flight record,
      system.flights number = some flight ∧ flight.claimed.id = id ∧ lease = some record ∧
        record.lease.token = leaseToken number ∧ record.closingAtClaim = true ∧
        flight.attempt.row.closing = false ∧
        after.externalState = flight.attempt.row.externalState := by
  have kept : after.closing = row.closing → False := by
    intro same
    rw [same, wished] at gone
    cases gone
  generalize present : some after = later at change
  cases change with
  | @concluded number policy flight failure outcome row record happens under stopped ended settled
      here token =>
    cases present
    simp only [Changeset.withOutcome] at gone
    split at gone
    · next fulfilled =>
      rw [Bool.and_eq_true, Bool.not_eq_true'] at fulfilled
      have state : outcome.externalState = flight.attempt.row.externalState :=
        congrArg Prod.snd (Changeset.standing_of_settled settled)
      have wish : outcome.closing = flight.attempt.row.closing := by
        obtain ⟨-, rfl⟩ | ⟨error, retryAt, -, rfl⟩ := Changeset.settled?_eq_some settled
        · rfl
        · rfl
      exact .inr ⟨number, flight, record, under, here, rfl, token, fulfilled.1,
        wish.symm.trans fulfilled.2, state⟩
    · rw [wished] at gone
      cases gone
  | reset happens expired =>
    cases present
    refine (kept ?_).elim
    simp only [Changeset.released]
    split <;> rfl
  | rewired generation happens under makes fate =>
    subst present
    cases fate with
    | kept => exact (kept rfl).elim
    | left unwanted decided =>
      obtain ⟨-, rfl⟩ | ⟨-, rfl⟩ := Placement.ofDropped_eq_staged decided
      · cases gone
      · exact (kept rfl).elim
    | @followed _ spec paired =>
      cases pushes : spec.branchPush? with
      | some push => exact .inl (Store.held_of_paired paired pushes generation.now)
      | none => exact (kept (row.closing_following _ _ pushes)).elim
  | closed happens fate =>
    subst present
    cases fate with
    | kept => exact (kept rfl).elim
    | closed attached opened => cases gone
  | _ =>
    cases present
    exact (kept rfl).elim

/-- The pull request of a changeset that is not held, and not to be closed, is not wished closed any
more. -/
theorem Change.closing_of_left
    (change : Change system event next id (some row) lease (some after) lease')
    (left : row.isOwnedAndAttached = false) (closing : after.closing = true) :
    row.closing = true := by
  rcases change.closing closing with before | ⟨-, -, held⟩
  · exact before
  · rw [left] at held
    cases held

/-- A changeset that leaves the campaign that created it is wished closed if its pull request is
open. -/
theorem Change.closing_of_drop
    (change : Change system event next id (some row) lease (some after) lease')
    (held : row.isOwnedAndAttached = true) (left : after.isOwnedAndAttached = false)
    (published : after.isPublished = true) (opened : after.isOpen = true) :
    after.closing = true := by
  have kept : after.isOwnedAndAttached = row.isOwnedAndAttached → False := by
    intro same
    rw [same, held] at left
    cases left
  generalize present : some after = later at change
  cases change with
  | reset happens expired =>
    cases present
    refine (kept ?_).elim
    simp only [Changeset.released]
    split <;> rfl
  | rewired generation happens under makes fate =>
    subst present
    cases fate with
    | kept => exact (kept rfl).elim
    | left unwanted decided =>
      obtain ⟨-, rfl⟩ | ⟨stays, rfl⟩ := Placement.ofDropped_eq_staged decided
      · rfl
      · -- Only the owner takes the changeset from the owner, and it would have wished it closed.
        have owned : row.isOwnedBy generation.campaign = true := by
          simp only [Changeset.isOwnedAndAttached, Changeset.isAttachedTo] at held left
          split at held
          · next owner named =>
            rw [named] at left
            have same : generation.campaign = owner := by
              simpa [IdSet.contains_erase, held] using left
            rw [Changeset.isOwnedBy, named, same, beq_self_eq_true]
          · cases held
        exact absurd ⟨owned, published, opened⟩ stays
    | @followed _ spec paired =>
      rw [row.held_following generation.campaign generation.now spec held] at left
      cases left
  | closed happens fate =>
    subst present
    cases fate with
    | kept => exact (kept rfl).elim
    | closed attached opened => exact (kept rfl).elim
  | _ =>
    cases present
    exact (kept rfl).elim

/-- A changeset that is to be closed, although its pull request is not known to be open, is only
worked on by attempts that were claimed under the wish. -/
def Warned (system : System) : Prop :=
  ∀ id row record, system.store.changesets.find? id = some row →
    system.store.leases.find? id = some record → row.closing = true → row.isOpen = false →
    record.closingAtClaim = true

private theorem warned_start (faults : List Fault) (now : Time) : (start faults now).Warned :=
  fun id row record found => by cases found

private theorem Changeset.isOpen_of_standing {row after : Changeset}
    (same : after.standing = row.standing) : after.isOpen = row.isOpen := by
  have state : after.externalState = row.externalState := congrArg Prod.snd same
  rw [Changeset.isOpen, Changeset.isOpen, state]

private theorem Warned.step (warned : system.Warned) (sound : system.Sound) (event : Event) :
    (system.step event).Warned := by
  intro id row record found leased closing shut
  have happens := System.transition sound.numbered event
  have change := happens.change sound id
  rw [found, leased] at change
  obtain ⟨held, leasedBefore, mark⟩ | ⟨-, -, claimed, same, -, noted⟩ := change.record
  · obtain ⟨before, stored, same⟩ := leased_stays sound happens leasedBefore leased found
    rw [stored] at change
    have shutBefore : before.isOpen = false := by
      rw [← Changeset.isOpen_of_standing (congrArg (·.2.1) same)]
      exact shut
    rcases change.closing closing with wished | ⟨-, opened, -⟩
    · exact (congrArg Prod.snd mark).trans
        (warned id before held stored leasedBefore wished shutBefore)
    · rw [shutBefore] at opened
      cases opened
  · cases same
    rw [noted]
    exact closing

/-- What a write-back relies on when it finds a changeset that is to be closed. -/
structure Attentive (system : System) : Prop extends Regular .closes system where
  warned : system.Warned

private theorem attentive_run (faults : List Fault) (now : Time)
    (along : (start faults now).Along (Behaves .closes) events) :
    ((start faults now).run events).Attentive where
  toRegular := regular_run faults now along
  warned := by
    have always : (start faults now).Along (fun _ _ => True) events :=
      along_of_forall fun _ _ => trivial
    exact always.keeps (sound_start faults now) (fun sound _ warned => warned.step sound _)
      (warned_start faults now)

namespace Attentive

/-- An attempt that was claimed to close an open pull request has done nothing, or has closed it. -/
theorem finds (attentive : system.Attentive) {number : Nat} {flight : Flight}
    {record : LeaseRecord} (under : system.flights number = some flight)
    (leased : system.store.leases.find? flight.claimed.id = some record)
    (token : record.lease.token = leaseToken number) (noted : record.closingAtClaim = true)
    (found : system.store.changesets.find? flight.claimed.id = some row) :
    flight.claimed.closing = true ∧ row.externalState = flight.claimed.externalState ∧
      (flight.attempt.row = flight.claimed ∨
        flight.attempt.row.externalState = some .closed) := by
  have closing : flight.claimed.closing = true :=
    (attentive.faithful.claim under leased token).1.symm.trans noted
  have sight := attentive.guards.claimed under leased token found
  have published : flight.claimed.publication = .published :=
    (congrArg (·.1.1) sight).symm.trans (attentive.informed.marked leased noted found)
  exact ⟨closing, congrArg (·.1.2) sight,
    attentive.idle_or_closed under closing published⟩

/-- As long as the pull request is open, the wish to close it stands. -/
theorem closing_step (attentive : system.Attentive)
    (found : system.store.changesets.find? id = some row)
    (stored : (system.step event).store.changesets.find? id = some after)
    (closing : row.closing = true) (left : after.isOwnedAndAttached = false)
    (opened : after.isOpen = true) : after.closing = true := by
  have change := attentive.change event id
  rw [found, stored] at change
  by_contra gone
  rcases change.unwished closing (Bool.eq_false_iff.mpr gone) with held |
    ⟨number, flight, record, under, rfl, leased, token, noted, done, state⟩
  · rw [left] at held
    cases held
  · obtain ⟨wished, -, idle | closed⟩ := attentive.finds under leased token noted found
    · rw [idle, wished] at done
      cases done
    · rw [Changeset.isOpen, state, closed] at opened
      cases opened

/-- A pull request that is to be closed does not come to be open. -/
theorem isOpen_before (attentive : system.Attentive)
    (found : system.store.changesets.find? id = some row)
    (stored : (system.step event).store.changesets.find? id = some after)
    (closing : row.closing = true) (opened : after.isOpen = true) : row.isOpen = true := by
  have change := attentive.change event id
  rw [found, stored] at change
  by_contra shut
  rw [Bool.not_eq_true] at shut
  rcases change.standing with same | ⟨-, number, flight, record, under, rfl, leased, token, same⟩
  · rw [Changeset.isOpen_of_standing same, shut] at opened
    cases opened
  · have noted := attentive.warned _ row record found leased closing shut
    obtain ⟨-, state, idle | closed⟩ := attentive.finds under leased token noted found
    · have kept : after.externalState = row.externalState := by
        rw [show after.externalState = flight.attempt.row.externalState from
          congrArg Prod.snd same, idle, state]
      rw [Changeset.isOpen, kept, ← Changeset.isOpen, shut] at opened
      cases opened
    · rw [Changeset.isOpen, show after.externalState = flight.attempt.row.externalState from
        congrArg Prod.snd same, closed] at opened
      cases opened

end Attentive

/-- The campaign that created the changeset does not hold it. -/
def Lacks (id : ChangesetId) (system : System) (_ : Event) : Prop :=
  ∃ row, system.store.changesets.find? id = some row ∧ row.isOwnedAndAttached = false

/-- The changeset is published and its pull request open. -/
def ShowsOpen (id : ChangesetId) (system : System) (_ : Event) : Prop :=
  ∃ row, system.store.changesets.find? id = some row ∧ row.isPublished = true ∧ row.isOpen = true

/-- A changeset leaves the campaign that created it at an event of a run, and does not come back. -/
structure Departs (origin : System) (before : List Event) (event : Event) (after : List Event)
    (id : ChangesetId) : Prop where
  held : ∃ row, (origin.run before).store.changesets.find? id = some row ∧
    row.isOwnedAndAttached = true
  since : (origin.run (before ++ [event])).Along (Lacks id) after

/-- A changeset that a campaign created, and does not hold, has left it. -/
theorem departs_of_lacks (sound : system.Sound)
    (empty : ∀ id, system.store.changesets.find? id = none)
    (found : (system.run events).store.changesets.find? id = some row)
    (owned : row.ownerId ≠ none) (left : row.isOwnedAndAttached = false) :
    ∃ before event after, events = before ++ event :: after ∧
      Departs system before event after id := by
  induction events using List.reverseRecOn generalizing row with
  | nil =>
    rw [run_nil, empty] at found
    cases found
  | append_singleton events event ih =>
    have here := sound.run events
    have change := (System.transition here.numbered event).change here id
    rw [run_append, run_cons, run_nil] at found
    rw [found] at change
    cases stored : (system.run events).store.changesets.find? id with
    | none =>
      rw [stored] at change
      obtain ⟨_, _, _, generation, spec, repo, -, -, -, -, -, -, -, rfl⟩ := change.created
      rw [Changeset.held_ofSpec generation.campaign generation.now repo spec id owned] at left
      cases left
    | some former =>
      rw [stored] at change
      cases held : former.isOwnedAndAttached with
      | true => exact ⟨events, event, [], rfl, ⟨former, stored, held⟩, trivial⟩
      | false =>
        obtain ⟨before, drop, after, rfl, departs⟩ :=
          ih stored (change.ownerId ▸ owned) held
        refine ⟨before, drop, after ++ [event], by simp, departs.held, ?_⟩
        refine along_append.mpr ⟨departs.since, ⟨former, ?_, held⟩, trivial⟩
        rw [← run_append, List.append_assoc]
        exact stored

/-- A changeset that has left its campaign is wished closed exactly if its pull request was open all
the time since. -/
theorem Departs.closing_iff {faults : List Fault} {now : Time} {before rest : List Event}
    (departs : Departs (start faults now) before event rest id)
    (along : (start faults now).Along (Behaves .closes) (before ++ event :: rest))
    (found : ((start faults now).run (before ++ event :: rest)).store.changesets.find? id =
      some row)
    (left : row.isOwnedAndAttached = false) (published : row.isPublished = true)
    (opened : row.isOpen = true) :
    row.closing = true ↔
      ((start faults now).run (before ++ [event])).Along (ShowsOpen id) rest := by
  induction rest using List.reverseRecOn generalizing row with
  | nil =>
    refine iff_of_true ?_ trivial
    obtain ⟨former, stored, held⟩ := departs.held
    have sound := (sound_start faults now).run before
    have change := (System.transition sound.numbered event).change sound id
    rw [run_append, run_cons, run_nil] at found
    rw [stored, found] at change
    exact change.closing_of_drop held left published opened
  | append_singleton rest last ih =>
    obtain ⟨since, ⟨former, stored, leftBefore⟩, -⟩ := along_append.mp departs.since
    rw [← run_append, List.append_assoc, List.singleton_append] at stored
    have longer : before ++ event :: (rest ++ [last]) = before ++ event :: rest ++ [last] := by
      simp
    rw [longer] at along found
    rw [run_append, run_cons, run_nil] at found
    have alongBefore := (along_append.mp along).1
    have attentive := attentive_run faults now alongBefore
    have earlier := ih ⟨departs.held, since⟩ alongBefore stored leftBefore
    rw [along_append]
    constructor
    · intro closing
      have change := attentive.change last id
      rw [stored, found] at change
      have wished := change.closing_of_left leftBefore closing
      have openBefore := attentive.isOpen_before stored found wished opened
      have publishedBefore : former.isPublished = true :=
        beq_iff_eq.mpr ((attentive.informed.row stored).published wished)
      refine ⟨(earlier publishedBefore openBefore).mp wished, ⟨former, ?_, publishedBefore,
        openBefore⟩, trivial⟩
      rw [← run_append, List.append_assoc]
      exact stored
    · rintro ⟨stays, ⟨shown, present, publishedBefore, openBefore⟩, -⟩
      rw [← run_append, List.append_assoc, List.singleton_append, stored] at present
      cases present
      have wished := (earlier publishedBefore openBefore).mpr stays
      exact attentive.closing_step stored found wished left opened

/-- In every run that starts with the empty store, whatever failures of the store lie ahead and
whatever code hosts say, only that whoever closes a pull request says so: a changeset is published
and open, and the campaign that created it does not hold it. Then the campaign has dropped it at
some point and not taken it up again, and its pull request is wished closed exactly if it was open
all the time since. -/
theorem dropped_is_closing_iff (faults : List Fault) (now : Time) (events : List Event)
    (along : (start faults now).Along (Behaves .closes) events) (id : ChangesetId)
    (row : Changeset) (found : ((start faults now).run events).store.changesets.find? id = some row)
    (owned : row.ownerId ≠ none) (left : row.isOwnedAndAttached = false)
    (published : row.isPublished = true) (opened : row.isOpen = true) :
    ∃ before event after, events = before ++ event :: after ∧
      Departs (start faults now) before event after id ∧
      (row.closing = true ↔
        ((start faults now).run (before ++ [event])).Along (ShowsOpen id) after) := by
  obtain ⟨before, event, after, rfl, departs⟩ :=
    departs_of_lacks (sound_start faults now) (fun _ => rfl) found owned left
  exact ⟨before, event, after, rfl, departs,
    departs.closing_iff along found left published opened⟩

end System

-- The second generation has no changesets, so that the pull request of the first one is closed. The
-- third generation wants it again, but when it is being reopened, the second one is applied anew.
namespace Sample

/-- The changeset was dropped, and the attempt to close its pull request has begun. -/
def departing : List Event := dropped "c" "c" ++ attempt 1 1

/-- The pull request was closed, and is about to be reopened for the third generation. -/
def returning : List Event :=
  dropped "c" "c" ++ attempt 1 2 ++ [.ask 1 {} closedReply, .conclude 1 {}] ++ apply "c" ++
    attempt 2 3

/-- The changeset is dropped once more, and then the pull request is reopened. -/
def reopened : List Event := returning ++ apply "b" ++ [.ask 2 {} reply, .conclude 2 {}]

end Sample

open Sample in
/-- An open pull request was dropped, and is wished closed until the attempt that closes it writes
back. -/
theorem System.dropped_is_closing_iff_departing :
    ∃ row before event after,
      ((start [] (instant 0)).run departing).store.changesets.find? ⟨7⟩ = some row ∧
      row.closing = true ∧ row.isOpen = true ∧ departing = before ++ event :: after ∧
      Departs (start [] (instant 0)) before event after ⟨7⟩ ∧
      ((start [] (instant 0)).run (before ++ [event])).Along (ShowsOpen ⟨7⟩) after := by
  have suited : (start [] (instant 0)).Along
      (fun system event => system.suits .closes event = true) departing := by decide +kernel
  have along := suited.mono (sound_start [] (instant 0)) fun _ => behaves_of_suits
  obtain ⟨row, found, owned, left, published, opened, closing⟩ : ∃ row,
      ((start [] (instant 0)).run departing).store.changesets.find? ⟨7⟩ = some row ∧
      row.ownerId = some ⟨6⟩ ∧ row.isOwnedAndAttached = false ∧ row.isPublished = true ∧
      row.isOpen = true ∧ row.closing = true := by
    obtain ⟨row, found, known⟩ := Option.map_eq_some_iff.mp (show
      (((start [] (instant 0)).run departing).store.changesets.find? ⟨7⟩).map (fun row =>
        (row.ownerId, row.isOwnedAndAttached, row.isPublished, row.isOpen, row.closing)) =
        some (some ⟨6⟩, false, true, true, true) by decide +kernel)
    simp only [Prod.mk.injEq] at known
    exact ⟨row, found, known⟩
  obtain ⟨before, event, after, split, departs, same⟩ := dropped_is_closing_iff [] (instant 0)
    departing along ⟨7⟩ row found (by simp [owned]) left published opened
  exact ⟨row, before, event, after, found, closing, opened, split, departs, same.mp closing⟩

/-- Whoever closes a pull request says so, and all other answers are that it is open or a draft, or
what is on record. -/
def Conduct.keepsOpen : Conduct
  | .close _, _, state => state = .closed
  | _, known, state => state = .opened ∨ state = .draft ∨ known = some state

instance (asked : HostRequest) (known : Option HostState) (state : HostState) :
    Decidable (Conduct.keepsOpen asked known state) :=
  match asked with
  | .close _ => inferInstanceAs (Decidable (state = .closed))
  | .create _ _ | .update _ _ | .undraft _ | .load _ | .reopen _ =>
    inferInstanceAs (Decidable (state = .opened ∨ state = .draft ∨ known = some state))

open Sample in
/-- The changeset is dropped between the claim for reopening its pull request and the write-back.
Then the pull request is open, and nobody wishes it closed or works on it. -/
theorem System.dropped_pull_request_stays_open :
    (start [] (instant 0)).Along (Behaves .keepsOpen) reopened ∧ ∃ row,
      ((start [] (instant 0)).run reopened).store.changesets.find? ⟨7⟩ = some row ∧
      ((start [] (instant 0)).run reopened).store.leases.find? ⟨7⟩ = none ∧
      row.ownerId = some ⟨6⟩ ∧ row.isAttachedTo ⟨6⟩ = false ∧ row.isPublished = true ∧
      row.isOpen = true ∧ row.closing = false ∧ row.queueState = .completed := by
  constructor
  · have suited : (start [] (instant 0)).Along
        (fun system event => system.suits .keepsOpen event = true) reopened := by decide +kernel
    exact suited.mono (sound_start [] (instant 0)) fun _ => behaves_of_suits
  · obtain ⟨row, found, known⟩ := Option.map_eq_some_iff.mp (show
      (((start [] (instant 0)).run reopened).store.changesets.find? ⟨7⟩).map (fun row =>
        (row.ownerId, row.isAttachedTo ⟨6⟩, row.isPublished, row.isOpen, row.closing,
          row.queueState)) =
        some (some ⟨6⟩, false, true, true, false, .completed) by decide +kernel)
    simp only [Prod.mk.injEq] at known
    exact ⟨row, found, by decide +kernel, known⟩

end BatchChanges
