import BatchChanges.Proofs.Attempt.Plan
import BatchChanges.Proofs.System.Requeue
import Mathlib.Data.List.Induction

/-! # Pull requests that are opened

An attempt asks for a pull request right after a renewal, which finds the changeset still there, and
settles once it has got it. What the code host said is then written back, provided that the
changeset is still there. An application may have deleted it in between: to the store, a changeset
whose pull request is being opened was never published, and a lease does not protect it.
-/

namespace BatchChanges

/-- A changeset that an application deletes: no spec is paired with it, and the campaign that
created it is the only one to hold it and never published it. -/
structure Generation.Rejects (generation : Generation) (store : Store) (row : Changeset) :
    Prop where
  unwanted : generation.Unwanted store row
  owned : row.isOwnedBy generation.campaign = true
  unpublished : row.publication = .unpublished
  alone : ∀ campaign, row.isAttachedTo campaign = true → campaign = generation.campaign

theorem Generation.Fate.rejects {generation : Generation} {store : Store} {id : ChangesetId}
    {row : Changeset} (fate : generation.Fate store id (some row) none) :
    generation.Rejects store row := by
  cases fate with
  | deleted unwanted decided =>
    obtain ⟨-, owned, unpublished, nobody⟩ := Placement.ofDropped_eq_deleted decided
    refine ⟨unwanted, owned, ?_, ?_⟩
    · cases state : row.publication with
      | unpublished => rfl
      | published =>
        rw [Changeset.isPublished, state] at unpublished
        cases unpublished
    · intro campaign attached
      by_contra other
      have left : (row.campaignIds.erase generation.campaign).contains campaign = true := by
        rw [IdSet.contains_erase, Bool.and_eq_true, decide_eq_true_iff]
        exact ⟨Ne.symm other, attached⟩
      obtain ⟨_, found⟩ := Table.contains_iff.mp left
      rw [Table.find?, List.isEmpty_iff.mp nobody] at found
      cases found

namespace Attempt

variable {attempt : Attempt} {repo : Repo} {operation : Operation} {effect : Effect}
  {rest : List Operation}

private theorem plan_not_acting (attempt : Attempt) (previous current : Option ChangesetSpec) :
    (attempt.plan previous current).stage ≠ .acting repo operation effect rest := by
  simp only [plan]
  split
  · simp [settle]
  · split <;> simp [settle]

private theorem seekCurrent_not_acting (attempt : Attempt) (previous : Option ChangesetSpec) :
    (attempt.seekCurrent previous).stage ≠ .acting repo operation effect rest := by
  simp only [seekCurrent]
  split
  · simp
  · exact plan_not_acting attempt previous none

private theorem start_not_acting (row : Changeset) (lease : Lease) :
    (start row lease).stage ≠ .acting repo operation effect rest := by
  simp only [start]
  split
  · simp
  · exact seekCurrent_not_acting _ none

private theorem proceed_not_acting (attempt : Attempt) (here : Repo) (left : List Operation) :
    (attempt.proceed here left).stage ≠ .acting repo operation effect rest := by
  cases left <;> simp [proceed, settle]

/-- An operation that was begun has the effect that it should have. -/
theorem effect_of_begin {here : Repo} {first : Operation} {left : List Operation}
    (stage : (attempt.begin here first left).stage = .acting repo operation effect rest) :
    first.effect attempt.push attempt.row = .ok (some effect) := by
  simp only [begin] at stage
  split at stage
  · cases stage
  · exact absurd stage (proceed_not_acting _ here left)
  · next other acts =>
    cases stage
    exact acts

end Attempt

namespace Flight

/-- An attempt is about to ask for a pull request, or has got one. -/
def Opens (flight : Flight) : Prop :=
  (∃ repo operation push draft rest,
    flight.attempt.stage = .acting repo operation (.request (.create push draft)) rest) ∨
    ∃ push draft, .request (.create push draft) ∈ flight.told

private theorem Follows.not_opens_first {specs : Table .changesetSpec ChangesetSpec}
    {flight : Flight} {previous current : Option ChangesetSpec} {plan : Plan} {first : Operation}
    {rest : List Operation}
    (follows : flight.Follows specs previous current plan [] (first :: rest)) {push : BranchPush}
    {draft : Bool}
    (acts : first.effect flight.attempt.push flight.attempt.row =
      .ok (some (.request (.create push draft)))) : False := by
  have opens := Operation.opens_of_effect acts
  obtain ⟨nothing, -⟩ := (Plan.decides_of_between follows.planned).opens_last follows.split opens
  cases nothing

/-- An attempt comes to ask for a pull request by a renewal only, so that its changeset exists. -/
theorem Opens.of_moves {specs : Table .changesetSpec ChangesetSpec} {flight : Flight}
    {question : Question} {answer : question.Answer} {following : Attempt} {store after : Store}
    {now : Time} {settings : Settings} {reply : HostReply} (course : flight.Course specs)
    (moves : flight.attempt.Moves question answer following)
    (answered : question.Answered store now settings reply after answer)
    (opens : Opens { flight with
      attempt := following, told := (question.told? answer).toList ++ flight.told }) :
    flight.Opens ∨ ∃ row, store.changesets.find? flight.attempt.lease.changesetId = some row := by
  rcases opens with ⟨repo, operation, push, draft, rest, stage⟩ | ⟨push, draft, member⟩
  · cases moves with
    | failed error silent => cases stage
    | readPrevious reading => exact absurd stage (Attempt.seekCurrent_not_acting _ _)
    | readCurrent reading => exact absurd stage (Attempt.plan_not_acting _ _ _)
    | readRepo reading =>
      cases course with
      | planned follows between acts =>
        rw [reading] at between
        obtain ⟨rfl, rfl⟩ := between
        exact (follows.not_opens_first (Attempt.effect_of_begin stage)).elim
      | _ => cases reading
    | renewed renewing =>
      obtain ⟨error, told, -⟩ | ⟨told, same, renewed⟩ := answered
      · cases told
      · cases same
        exact .inr (Store.row_of_renew_applied renewed)
    | acted acting absorbed => exact absurd stage (Attempt.proceed_not_acting _ _ _)
  · rcases List.mem_append.mp member with told | before
    · cases moves with
      | failed error silent =>
        rw [silent] at told
        cases told
      | @acted repo operation effect rest answer row acting absorbed =>
        cases effect with
        | push branch =>
          rcases answer with _ | ⟨⟨⟩⟩
          · cases told
          · cases List.mem_singleton.mp told
        | request asked =>
          rcases answer with _ | view
          · cases told
          · cases List.mem_singleton.mp told
            exact .inl (.inl ⟨_, _, _, _, _, acting⟩)
        | pause => cases told
      | _ => cases told
    · exact .inl (.inr ⟨push, draft, before⟩)

end Flight

namespace System

/-- An application's next call is a transaction that deletes a changeset. -/
def Discards (system : System) (application : Nat) (visible : Visibility) (id : ChangesetId) :
    Prop :=
  ∃ applying generation row, system.applications application = some applying ∧
    applying.Makes visible generation ∧ system.store.changesets.find? id = some row ∧
    generation.Rejects system.store row ∧
    (system.step (.proceed application visible)).store.changesets.find? id = none

variable {system next : System} {event : Event}

/-- Changesets are deleted by applications only. -/
theorem discards_of_gone (sound : system.Sound) {id : ChangesetId} {row : Changeset}
    (found : system.store.changesets.find? id = some row)
    (gone : (system.step event).store.changesets.find? id = none) :
    ∃ application visible, event = .proceed application visible ∧
      system.Discards application visible id := by
  have change := (System.transition sound.numbered event).change sound id
  generalize (system.step event).store.leases.find? id = lease' at change
  generalize system.store.leases.find? id = lease at change
  rw [found, gone] at change
  generalize before : some row = earlier, after : (none : Option Changeset) = later at change
  cases change with
  | still same => cases before.trans after.symm
  | claimed happens due mark => cases after
  | concluded happens under stopped gone settled here token =>
    subst before
    cases after
  | canceled happens waiting => cases after
  | requeued happens due => cases after
  | reset happens expired =>
    subst before
    cases after
  | @rewired application visible applying _ _ _ generation happens under makes fate =>
    subst before after happens
    exact ⟨application, visible, rfl, applying, generation, row, under, makes, found, fate.rejects,
      gone⟩
  | closed happens fate =>
    subst before after
    cases fate

/-- Whenever leases were reset, the lease of this number on a changeset had not ended. -/
def Unreset (origin : System) (events : List Event) (number : Nat) (id : ChangesetId) : Prop :=
  ∀ earlier later record, events = earlier ++ .resetExpired :: later →
    (origin.run earlier).store.leases.find? id = some record →
    record.lease.token = leaseToken number →
    record.lease.isExpired (origin.run earlier).now = false

variable {origin : System} {events : List Event} {number : Nat} {id : ChangesetId}

private theorem Unreset.init (unreset : origin.Unreset (events ++ [event]) number id) :
    origin.Unreset events number id := by
  rintro earlier later record rfl
  exact unreset earlier (later ++ [event]) record (by simp)

/-- The lease of an attempt under way stands after an event, unless it is reset. -/
theorem Flies.lease_stands {flight : Flight} {record : LeaseRecord} (sound : system.Sound)
    (happens : Transition system event next) (under : next.flights number = some flight)
    (leased : system.store.leases.find? id = some record)
    (token : record.lease.token = leaseToken number)
    (lasting : event = .resetExpired → record.lease.isExpired system.now = false) :
    ∃ after, next.store.leases.find? id = some after ∧ after.lease.token = leaseToken number := by
  have change := happens.change sound id
  rw [leased] at change
  generalize system.store.changesets.find? id = row, next.store.changesets.find? id = after,
    next.store.leases.find? id = lease' at change
  generalize before : some record = lease at change
  cases change with
  | still same =>
    subst before
    obtain ⟨after, rfl, mark⟩ := Option.map_eq_some_iff.mp same
    exact ⟨after, rfl, (congrArg Prod.fst mark).trans token⟩
  | claimed happens due mark => cases before
  | concluded happens other stopped gone settled here own =>
    cases before
    rw [leaseToken_injective (own.symm.trans token), under] at gone
    cases gone
  | canceled happens waiting =>
    subst before
    exact ⟨record, rfl, token⟩
  | requeued happens due =>
    subst before
    exact ⟨record, rfl, token⟩
  | reset happens expired =>
    cases before
    rw [lasting happens] at expired
    cases expired
  | rewired generation happens other makes fate =>
    subst before
    exact ⟨record, rfl, token⟩
  | closed happens fate =>
    subst before
    exact ⟨record, rfl, token⟩

/-- The lease of an attempt under way stands if it was never reset. -/
theorem lease_stands (sound : origin.Sound) (idle : ∀ number, origin.flights number = none)
    {flight : Flight} (under : (origin.run events).flights number = some flight)
    (unreset : origin.Unreset events number flight.claimed.id) :
    ∃ record, (origin.run events).store.leases.find? flight.claimed.id = some record ∧
      record.lease.token = leaseToken number := by
  induction events using List.reverseRecOn generalizing flight with
  | nil =>
    rw [run_nil, idle] at under
    cases under
  | append_singleton events event ih =>
    have here := sound.run events
    have happens := System.transition here.numbered event
    rw [run_append, run_cons, run_nil] at under ⊢
    rcases (happens.flies under).claimed_eq with ⟨before, flying, same⟩ |
      ⟨row, expiresAt, worker, -, claimed, -, leased⟩
    · rw [← same] at unreset ⊢
      obtain ⟨record, leased, token⟩ := ih flying unreset.init
      exact Flies.lease_stands here happens under leased token
        fun same => unreset events [] record (by rw [same]) leased token
    · rw [claimed]
      exact ⟨_, leased, rfl⟩

/-- At some time, an attempt was about to ask for a pull request or had got it, its lease stood, and
an application deleted its changeset. -/
def Discarded (origin : System) (events : List Event) (number : Nat) (id : ChangesetId) : Prop :=
  ∃ earlier application visible later,
    events = earlier ++ .proceed application visible :: later ∧
    (∃ flight, (origin.run earlier).flights number = some flight ∧ flight.claimed.id = id ∧
      flight.Opens) ∧
    (∃ record, (origin.run earlier).store.leases.find? id = some record ∧
      record.lease.token = leaseToken number) ∧
    (origin.run earlier).Discards application visible id

private theorem Discarded.concat (discarded : origin.Discarded events number id) (event : Event) :
    origin.Discarded (events ++ [event]) number id := by
  obtain ⟨earlier, application, visible, later, rfl, rest⟩ := discarded
  exact ⟨earlier, application, visible, later ++ [event], by simp, rest⟩

/-- The changeset of a pull request that is being opened exists, unless an application deleted
it. -/
theorem present_or_discarded (sound : origin.Sound) (idle : ∀ number, origin.flights number = none)
    {flight : Flight} (under : (origin.run events).flights number = some flight)
    (opens : flight.Opens) (unreset : origin.Unreset events number flight.claimed.id) :
    (∃ row, (origin.run events).store.changesets.find? flight.claimed.id = some row) ∨
      origin.Discarded events number flight.claimed.id := by
  induction events using List.reverseRecOn generalizing flight with
  | nil =>
    rw [run_nil, idle] at under
    cases under
  | append_singleton events event ih =>
    have here := sound.run events
    have happens := System.transition here.numbered event
    rw [run_append, run_cons, run_nil] at under ⊢
    -- An attempt that was opening before leaves its changeset to others.
    have stays : ∀ {before : Flight}, (origin.run events).flights number = some before →
        before.claimed.id = flight.claimed.id → before.Opens →
        (∃ row, ((origin.run events).step event).store.changesets.find? flight.claimed.id =
          some row) ∨ origin.Discarded (events ++ [event]) number flight.claimed.id := by
      intro before flying same opening
      rw [← same] at unreset ⊢
      rcases ih flying opening unreset.init with ⟨row, found⟩ | discarded
      · cases gone : ((origin.run events).step event).store.changesets.find? before.claimed.id with
        | some row => exact .inl ⟨row, rfl⟩
        | none =>
          obtain ⟨application, visible, rfl, discards⟩ := discards_of_gone here found gone
          exact .inr ⟨events, application, visible, [], rfl, ⟨before, flying, rfl, opening⟩,
            lease_stands sound idle flying unreset.init, discards⟩
      · exact .inr (discarded.concat event)
    cases happens.flies under with
    | stays flying => exact stays flying rfl opens
    | @asked before settings reply question answer attempt happened flying asks moves answered
        deliveries same =>
      subst same
      have mine := here.flight flying
      rcases opens.of_moves mine.course moves answered with opening | ⟨row, found⟩
      · exact stays flying rfl opening
      · rw [mine.changesetId] at found
        cases gone : ((origin.run events).step event).store.changesets.find? before.claimed.id with
        | some row => exact .inl ⟨row, rfl⟩
        | none =>
          obtain ⟨application, visible, rfl, -⟩ := discards_of_gone here found gone
          cases happened
    | claimed happened new below found begins stored leased =>
      subst begins
      rcases opens with ⟨repo, operation, push, draft, rest, stage⟩ | ⟨push, draft, member⟩
      · exact absurd stage (Attempt.start_not_acting _ _)
      · cases member

/-- A pull request that an attempt gets ends the attempt, which knows its number. -/
theorem flights_of_opened (sound : system.Sound) {flight : Flight} {repo : Repo}
    {operation : Operation} {push : BranchPush} {draft : Bool} {rest : List Operation}
    {reply : HostReply} {view : PullRequest} (settings : Settings)
    (under : system.flights number = some flight)
    (stage : flight.attempt.stage = .acting repo operation (.request (.create push draft)) rest)
    (replied : reply.request = .ok view) :
    ∃ opened, (system.step (.ask number settings reply)).flights number = some opened ∧
      opened.claimed = flight.claimed ∧ opened.attempt.stage = .settled none ∧
      .request (.create push draft) ∈ opened.told ∧
      opened.attempt.row.publication = .published ∧
      opened.attempt.row.externalId = some view.externalId := by
  obtain ⟨opens, last⟩ : Plan.opens operation = true ∧ rest = [] := by
    cases (sound.flight under).course with
    | planned follows between acts =>
      have opens := Operation.opens_of_effect (acts stage)
      rw [stage] at between
      cases between
      exact ⟨opens, ((Plan.decides_of_between follows.planned).opens_last follows.split opens).2⟩
    | _ => cases stage
  subst last
  refine ⟨_, flights_of_answered settings under stage replied, rfl, rfl, List.mem_cons_self, ?_⟩
  cases operation with
  | publish => exact ⟨rfl, rfl⟩
  | publishDraft => exact ⟨rfl, rfl⟩
  | _ => cases opens

private theorem eq_of_settled (sound : system.Sound) (below : number < system.tokens)
    {flight after : Flight} {failure : Option ReconcileError}
    (only : ∀ found, system.flights number = some found → found = flight)
    (stopped : flight.attempt.stage = .settled failure)
    (under : (system.run events).flights number = some after) : after = flight := by
  induction events generalizing system with
  | nil => exact only after under
  | cons event rest ih =>
    have happens := System.transition sound.numbered event
    refine ih (sound.step event) (Nat.lt_of_lt_of_le below happens.tokens_le) ?_ under
    intro found flying
    cases happens.flies flying with
    | stays stayed => exact only found stayed
    | asked happened stayed asks moves answered deliveries same =>
      obtain ⟨resume, asks⟩ := asks
      rw [only _ stayed, Attempt.next_eq_settled_iff.mpr stopped] at asks
      cases asks
    | claimed happened new later found begins stored leased =>
      exact absurd new (Nat.ne_of_lt below)

/-- In every run that starts with the empty store, an attempt that gets a pull request and whose
lease is not reset before its write-back has settled, and the write-back publishes the changeset
with the number that the code host gave; unless an application deleted the changeset after the
renewal before the request. An application deletes a changeset, under a lease or not, only if its
campaign alone holds it, created it and, as far as the store knows, never published it, and no spec
is paired with it; nothing else deletes changesets. -/
theorem opened_recorded_unless_discarded (faults : List Fault) (now : Time) :
    (∀ before middle number settings reply view flight final repo operation push draft rest,
      ((start faults now).run before).flights number = some flight →
      flight.attempt.stage = .acting repo operation (.request (.create push draft)) rest →
      reply.request = .ok view →
      ((start faults now).run (before ++ .ask number settings reply :: middle)).flights number =
        some final →
      (start faults now).Unreset (before ++ .ask number settings reply :: middle) number
        flight.claimed.id →
      final.attempt.stage = .settled none ∧ ∀ time verdict after,
        ((start faults now).run (before ++ .ask number settings reply :: middle)).store.finish
          final.attempt.lease (final.attempt.row.completed time) = (verdict, after) →
        (verdict = .applied ∧ ∃ row, after.changesets.find? flight.claimed.id = some row ∧
          row.publication = .published ∧ row.externalId = some view.externalId) ∨
        verdict = .rowGone ∧ (start faults now).Discarded
          (before ++ .ask number settings reply :: middle) number flight.claimed.id) ∧
    (∀ before event id row,
      ((start faults now).run before).store.changesets.find? id = some row →
      ((start faults now).run (before ++ [event])).store.changesets.find? id = none →
      ∃ application visible, event = .proceed application visible ∧
        ((start faults now).run before).Discards application visible id) := by
  have sound := sound_start faults now
  constructor
  · intro before middle number settings reply view flight final repo operation push draft rest under
      stage replied arrived unreset
    have here := sound.run before
    obtain ⟨opened, got, claimed, stopped, told, published, externalId⟩ :=
      flights_of_opened here settings under stage replied
    have same : final = opened := by
      rw [run_append, run_cons] at arrived
      refine eq_of_settled (here.step _) ((here.step _).flight got).number_lt ?_ stopped arrived
      intro found flying
      exact (Option.some.inj (got.symm.trans flying)).symm
    subst same
    have shown := (sound.run (before ++ .ask number settings reply :: middle)).flight arrived
    rw [← claimed] at unreset ⊢
    obtain ⟨record, leased, token⟩ := lease_stands sound (fun _ => rfl) arrived unreset
    rw [← shown.token] at token
    refine ⟨stopped, ?_⟩
    intro time verdict after written
    have present := present_or_discarded sound (fun _ => rfl) arrived (.inr ⟨push, draft, told⟩)
      unreset
    rw [← shown.changesetId] at leased present ⊢
    rw [Store.finish_of_record leased token] at written
    split at written
    · next gone =>
      cases written
      rcases present with ⟨row, found⟩ | discarded
      · rw [gone] at found
        cases found
      · exact .inr ⟨rfl, discarded⟩
    · next row found =>
      cases written
      refine .inl ⟨rfl, row.withOutcome (final.attempt.row.completed time) record.closingAtClaim,
        ?_, published, externalId⟩
      rw [Table.find?_insert, if_pos rfl]
  · intro before event id row found gone
    rw [run_append, run_cons, run_nil] at gone
    exact discards_of_gone (sound.run before) found gone

end System

namespace Sample

/-- An attempt that is about to ask for the pull request of its changeset. -/
def opening : List Event := setUp ++ [.addCampaignSpec (campaignSpec "c")] ++ attempt 0 4

/-- The next spec drops the repository, and is applied up to its transaction meanwhile. -/
def dropping : List Event := opening ++ (apply "c").take 4

/-- The changeset is deleted, and then the attempt gets its pull request. -/
def orphaned : List Event := dropping ++ [.proceed 0 visible]

end Sample

namespace Event

def resets : Event → Bool
  | resetExpired => true
  | _ => false

end Event

private theorem System.Unreset.of_none {origin : System} {events : List Event} (number : Nat)
    (id : ChangesetId) (none : events.any Event.resets = false) :
    origin.Unreset events number id := by
  rintro earlier later record rfl
  simp [Event.resets] at none

open Sample in
/-- An attempt that is left alone publishes its changeset; and what deletes a changeset is an
application that wants it no more. -/
theorem System.opened_recorded_unless_discarded_opening :
    (∃ final row,
      ((start [] (instant 0)).run (opening ++ [.ask 0 {} reply])).flights 0 = some final ∧
      final.attempt.stage = .settled none ∧
      (((start [] (instant 0)).run (opening ++ [.ask 0 {} reply])).store.finish final.attempt.lease
        (final.attempt.row.completed (instant 0))).2.changesets.find? changeset = some row ∧
      row.publication = .published ∧ row.externalId = some "101") ∧
    ((start [] (instant 0)).run dropping).Discards 0 visible changeset := by
  obtain ⟨recorded, deleted⟩ := opened_recorded_unless_discarded [] (instant 0)
  constructor
  · obtain ⟨flight, under, stage⟩ := Option.map_eq_some_iff.mp (show
      (((start [] (instant 0)).run opening).flights 0).map (·.attempt.stage) =
        some (.acting repo .publish (.request (.create (push "a" "a") false)) []) by decide +kernel)
    obtain ⟨final, arrived, applied⟩ := Option.map_eq_some_iff.mp (show
      (((start [] (instant 0)).run (opening ++ [.ask 0 {} reply])).flights 0).map (fun final =>
        (((start [] (instant 0)).run (opening ++ [.ask 0 {} reply])).store.finish
          final.attempt.lease (final.attempt.row.completed (instant 0))).1) = some .applied
      by decide +kernel)
    have here : (((start [] (instant 0)).run opening).flights 0).map (·.claimed.id) =
        some changeset := by decide +kernel
    rw [under] at here
    have claimed : flight.claimed.id = changeset := Option.some.inj here
    have unreset : (start [] (instant 0)).Unreset (opening ++ [.ask 0 {} reply]) 0
        flight.claimed.id := Unreset.of_none 0 flight.claimed.id (by decide +kernel)
    obtain ⟨stopped, written⟩ := recorded opening [] 0 {} reply _ flight final _ _ _ _ _ under stage
      rfl arrived unreset
    rcases written (instant 0) _ _ (Prod.eta _).symm with ⟨-, row, found, published, externalId⟩ |
      ⟨gone, -⟩
    · rw [claimed] at found
      exact ⟨final, row, arrived, stopped, found, published, externalId⟩
    · rw [applied] at gone
      cases gone
  · obtain ⟨row, found⟩ : ∃ row,
        ((start [] (instant 0)).run dropping).store.changesets.find? changeset = some row :=
      Option.isSome_iff_exists.mp (by decide +kernel)
    obtain ⟨application, other, same, discards⟩ := deleted dropping (.proceed 0 visible) changeset
      row found (Option.isNone_iff_eq_none.mp (by decide +kernel))
    cases same
    exact discards

open Sample in
/-- An application deletes a changeset that is under a lease which has not ended, while the attempt
asks for its pull request: the attempt gets it, and nothing is recorded. -/
theorem System.opened_not_recorded_orphaned :
    ∃ flight final record, ((start [] (instant 0)).run orphaned).flights 0 = some flight ∧
      flight.attempt.stage = .acting repo .publish (.request (.create (push "a" "a") false)) [] ∧
      reply.request = .ok ⟨"101", "tidy", .opened, "", none, instant 0⟩ ∧
      ((start [] (instant 0)).run (orphaned ++ [.ask 0 {} reply])).flights 0 = some final ∧
      final.attempt.stage = .settled none ∧
      (start [] (instant 0)).Unreset (orphaned ++ [.ask 0 {} reply]) 0 changeset ∧
      (((start [] (instant 0)).run (orphaned ++ [.ask 0 {} reply])).store.finish
        final.attempt.lease (final.attempt.row.completed (instant 0))).1 = .rowGone ∧
      ((start [] (instant 0)).run dropping).store.leases.find? changeset = some record ∧
      record.lease.isExpired ((start [] (instant 0)).run dropping).now = false ∧
      ((start [] (instant 0)).run dropping).store.changesets.contains changeset = true ∧
      ((start [] (instant 0)).run orphaned).store.changesets.contains changeset = false := by
  obtain ⟨flight, under, stage⟩ := Option.map_eq_some_iff.mp (show
    (((start [] (instant 0)).run orphaned).flights 0).map (·.attempt.stage) =
      some (.acting repo .publish (.request (.create (push "a" "a") false)) []) by decide +kernel)
  obtain ⟨final, arrived, ended⟩ := Option.map_eq_some_iff.mp (show
    (((start [] (instant 0)).run (orphaned ++ [.ask 0 {} reply])).flights 0).map (fun final =>
      (final.attempt.stage,
        (((start [] (instant 0)).run (orphaned ++ [.ask 0 {} reply])).store.finish
          final.attempt.lease (final.attempt.row.completed (instant 0))).1)) =
      some (.settled none, .rowGone) by decide +kernel)
  obtain ⟨record, leased, lasting⟩ := Option.map_eq_some_iff.mp (show
    (((start [] (instant 0)).run dropping).store.leases.find? changeset).map (fun record =>
      record.lease.isExpired ((start [] (instant 0)).run dropping).now) = some false
    by decide +kernel)
  refine ⟨flight, final, record, under, stage, rfl, arrived, congrArg Prod.fst ended, ?_,
    congrArg Prod.snd ended, leased, lasting, ?_, ?_⟩
  · exact Unreset.of_none 0 changeset (by decide +kernel)
  · decide +kernel
  · decide +kernel

end BatchChanges
