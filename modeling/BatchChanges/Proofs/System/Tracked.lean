import BatchChanges.Proofs.Attempt.Remaining
import BatchChanges.Proofs.System.Grounded
import BatchChanges.Proofs.System.OneWay

/-! # Pull requests that are only tracked

A changeset that was created to track a pull request has no owner. What campaigns do to pull
requests needs the owner: a changeset moves on to a branch push only if the campaign created it, and
is wished closed or reopened only for the campaign that did. So the only plan for it is to load the
pull request once, and as nobody else learns of pull requests, it is still to be loaded when the
holder of the lease loads it. An attempt renews its lease before every operation but the first one,
and this is the first one: an attempt that has lost its lease may load a pull request that another
one has loaded by then.
-/

namespace BatchChanges

/-- A changeset that campaigns only look at. Until it is loaded, its pull request is the one that
was to be tracked. -/
structure Changeset.ReadOnly (externalId : String) (row : Changeset) : Prop where
  owner : row.ownerId = none
  current : row.currentSpecId = none
  previous : row.previousSpecId = none
  closing : row.closing = false
  unsynced (waits : row.unsynced = true) : row.externalId = some externalId

variable {externalId : String}

private theorem Changeset.readOnly_ofSpec {spec : ChangesetSpec}
    (target : spec.target = .trackExisting externalId) (campaign : CampaignId) (now : Time)
    (repo : Repo) (id : ChangesetId) :
    ReadOnly externalId { ofSpec campaign now repo spec with id } := by
  refine ⟨?_, ?_, ?_, ?_, fun _ => ?_⟩ <;> simp only [ofSpec, target]

private theorem Changeset.ReadOnly.not_held {row : Changeset} (readOnly : row.ReadOnly externalId) :
    row.isOwnedAndAttached = false := by
  simp only [isOwnedAndAttached, readOnly.owner]

/-- All that is planned for such a changeset is to load its pull request, if that was never done. -/
theorem Plan.Decides.loads {previous : Option BranchPush} {row : Changeset} {plan : Plan}
    (decides : Decides previous none row plan) (readOnly : row.ReadOnly externalId) :
    plan.operations = [] ∨ plan.operations = [.sync] ∧ row.unsynced = true := by
  cases decides with
  | merged merged => exact .inl rfl
  | closing closing =>
    rw [readOnly.closing] at closing
    cases closing
  | reopening closed held =>
    rw [readOnly.not_held] at held
    cases held
  | loading pushless unsynced => exact .inr ⟨rfl, unsynced⟩
  | tracking pushless => exact .inl rfl
  | opening pushes unpublished => cases pushes
  | changing pushes published differs => cases pushes

/-- Loading a pull request is done with it, or nothing has happened yet. -/
theorem Operation.Runs.of_sync {push : Option BranchPush} {claimed row : Changeset}
    {run : List Operation} {told : List Effect} (runs : Runs push claimed run row told)
    (loads : ∀ operation ∈ run, operation = .sync) : row = claimed ∨ row.unsynced = false := by
  cases runs with
  | nothing => exact .inl rfl
  | marked before idle =>
    cases loads _ (List.mem_append_right _ List.mem_cons_self)
    cases eq_close_of_idle idle
  | @acted operations row next told last effect repo answer before acts absorbed =>
    cases loads _ (List.mem_append_right _ List.mem_cons_self)
    cases performs_of_effect acts
    cases absorbs_of_absorb absorbed with
    | answered asked view => exact .inr rfl

namespace Flight

variable {specs : Table .changesetSpec ChangesetSpec} {flight : Flight} {question : Question}
  {resume : question.Answer → Attempt}

private theorem Follows.loads {previous current : Option ChangesetSpec} {plan : Plan}
    {run left : List Operation} (follows : flight.Follows specs previous current plan run left)
    (readOnly : flight.claimed.ReadOnly externalId) :
    current = none ∧
      (run ++ left = [] ∨ run ++ left = [.sync] ∧ flight.claimed.unsynced = true) := by
  have named := follows.namesCurrent
  rw [readOnly.current] at named
  cases named
  rw [← follows.split]
  exact ⟨rfl, (Plan.decides_of_between follows.planned).loads readOnly⟩

/-- An attempt on such a changeset knows as little of the pull request as before, or has loaded it.
-/
theorem Course.loaded (course : flight.Course specs)
    (readOnly : flight.claimed.ReadOnly externalId) :
    flight.attempt.row = flight.claimed ∨ flight.attempt.row.unsynced = false := by
  cases course with
  | @planned _ previous current plan run left follows between acts =>
    refine follows.runs.of_sync fun operation member => ?_
    have present : operation ∈ run ++ left := List.mem_append_left _ member
    rcases (follows.loads readOnly).2 with nothing | ⟨load, -⟩
    · rw [nothing] at present
      cases present
    · rw [load] at present
      exact List.mem_singleton.mp present
  | _ => exact .inl rfl

/-- It asks the code host for the pull request only, and only if it was never loaded. -/
theorem Course.loads (course : flight.Course specs)
    (readOnly : flight.claimed.ReadOnly externalId)
    (asks : flight.attempt.next = .ask question resume) (host : question.asksHost = true) :
    (∃ repo, question = .request repo (.load externalId)) ∧ flight.claimed.unsynced = true := by
  obtain ⟨repo, operation, effect, rest, stage, rfl⟩ := Attempt.acting_of_asksHost asks host
  cases course with
  | planned follows between acts =>
    rw [stage] at between
    cases between
    obtain ⟨rfl, nothing | ⟨load, waits⟩⟩ := follows.loads readOnly
    · simp at nothing
    · obtain ⟨rfl, same⟩ | ⟨rfl, same⟩ := List.append_eq_singleton_iff.mp load
      · cases same
        have acts := acts stage
        rw [follows.runs.of_nil.1] at acts
        cases Operation.performs_of_effect acts with
        | sync opened =>
          rw [readOnly.unsynced waits] at opened
          cases opened
          exact ⟨⟨repo, rfl⟩, waits⟩
      · cases same
  | _ => cases stage

end Flight

namespace System

variable {system : System} {event : Event} {id : ChangesetId} {row after : Changeset}
  {lease lease' : Option LeaseRecord}

/-- An event brings about a changeset for a spec that tracks the pull request of a number. -/
def StartsTracking (system : System) (event : Event) (id : ChangesetId) (externalId : String) :
    Prop :=
  system.store.changesets.find? id = none ∧ ∃ campaign moment repo spec,
    spec.target = .trackExisting externalId ∧
    (system.step event).store.changesets.find? id =
      some { Changeset.ofSpec campaign moment repo spec with id }

/-- Whatever happens to such a changeset, campaigns go on to look at it only. -/
theorem Sound.readOnly_step (sound : system.Sound)
    (found : system.store.changesets.find? id = some row)
    (stored : (system.step event).store.changesets.find? id = some after)
    (readOnly : row.ReadOnly externalId)
    (claimed : ∀ {number flight}, system.flights number = some flight → flight.claimed.id = id →
      flight.claimed.ReadOnly externalId) : after.ReadOnly externalId := by
  have change := (System.transition sound.numbered event).change sound id
  rw [found, stored] at change
  have owner : after.ownerId = none := change.ownerId.trans readOnly.owner
  have current : after.currentSpecId = none := by
    by_contra moved
    obtain ⟨spec, push, moves, pushes, -⟩ :=
      sound.movesOn found stored (readOnly.current ▸ moved)
    -- Only the campaign that created a changeset moves it on.
    obtain ⟨-, -, -, held, -⟩ := moves.wanted pushes
    simp only [Changeset.isOwnedAndAttached, owner] at held
    cases held
  refine ⟨owner, current, ?_, ?_, ?_⟩
  · rcases change.specs sound with ⟨-, same⟩ | ⟨spec, push, -, -, moved, -⟩
    · exact same.trans readOnly.previous
    · rw [current] at moved
      cases moved
  · rw [Bool.eq_false_iff]
    intro closing
    rcases change.closing closing with before | ⟨-, -, held⟩
    · rw [readOnly.closing] at before
      cases before
    · rw [readOnly.not_held] at held
      cases held
  · intro waits
    have kept : ∀ {other : Changeset}, other.ReadOnly externalId → after.sight = other.sight →
        after.externalId = some externalId := by
      intro other readOnly same
      exact (congrArg (·.2.1) same).trans
        (readOnly.unsynced ((congrArg (·.2.2) same).symm.trans waits))
    rcases change.sight with same | ⟨-, number, flight, record, under, here, -, -, same⟩
    · exact kept readOnly same
    · have mine := claimed under here
      rcases (sound.flight under).course.loaded mine with unchanged | loaded
      · rw [unchanged] at same
        exact kept mine same
      · rw [show after.unsynced = flight.attempt.row.unsynced from congrArg (·.2.2) same,
          loaded] at waits
        cases waits

/-- Campaigns only look at a changeset, and so do those who have claimed it. -/
structure Watched (id : ChangesetId) (externalId : String) (system : System) : Prop where
  old : id.value ≤ system.store.lastId
  stored {row : Changeset} (found : system.store.changesets.find? id = some row) :
    row.ReadOnly externalId
  claimed {number : Nat} {flight : Flight} (under : system.flights number = some flight)
    (here : flight.claimed.id = id) : flight.claimed.ReadOnly externalId

private theorem Watched.step (watched : system.Watched id externalId) (sound : system.Sound)
    (event : Event) : (system.step event).Watched id externalId := by
  have happens := System.transition sound.numbered event
  have stored : ∀ {after : Changeset},
      (system.step event).store.changesets.find? id = some after → after.ReadOnly externalId := by
    intro after present
    cases found : system.store.changesets.find? id with
    | some row => exact sound.readOnly_step found present (watched.stored found) watched.claimed
    | none =>
      have change := happens.change sound id
      rw [found, present] at change
      obtain ⟨_, _, _, _, _, _, -, -, -, -, -, -, new, -⟩ := change.created
      exact absurd watched.old (Int.not_le.mpr new)
  refine ⟨Int.le_trans watched.old happens.lastId_le, stored, ?_⟩
  intro number flight under here
  rcases (happens.flies under).claimed_eq with ⟨before, flying, same⟩ |
    ⟨claimed, expiresAt, worker, -, begins, found, -⟩
  · rw [← same] at here ⊢
    exact watched.claimed flying here
  · have named : claimed.id = id := by rw [← here, begins]
    rw [named] at found
    exact stored found

private theorem Watched.run (watched : system.Watched id externalId) (sound : system.Sound)
    (events : List Event) : (system.run events).Watched id externalId :=
  sound.keeps (Watched id externalId) watched events fun sound event watched =>
    watched.step sound event

private theorem StartsTracking.watched (tracks : system.StartsTracking event id externalId)
    (sound : system.Sound) :
    (system.step event).Watched id externalId := by
  obtain ⟨absent, campaign, moment, repo, spec, target, present⟩ := tracks
  have happens := System.transition sound.numbered event
  have change := happens.change sound id
  rw [absent, present] at change
  obtain ⟨number, visible, _, _, _, _, rfl, -, -, -, -, -, new, -⟩ := change.created
  refine ⟨((sound.step _).numbered.changesets present).2.2, ?_, ?_⟩
  · intro row found
    rw [present] at found
    cases found
    exact Changeset.readOnly_ofSpec target campaign moment repo id
  · intro other flight under here
    cases happens.flies under with
    | stays before => exact absurd ((sound.flight before).id_le) (Int.not_le.mpr (here ▸ new))
    | asked happened => cases happened
    | claimed happened => cases happened

/-- In every run that starts with the empty store, whatever failures of the store lie ahead: once a
changeset was created for a spec that tracks a pull request, it never has an owner or a current
spec, and it is never wished closed. All that attempts on it ask of the code host is to load the
pull request, and whoever asks has claimed the changeset when that had never been done, and it still
has not been done if the lease stands. -/
theorem tracked_is_read_only (faults : List Fault) (now : Time) (before after : List Event)
    (event : Event) (id : ChangesetId) (externalId : String)
    (tracks : ((start faults now).run before).StartsTracking event id externalId) :
    (∀ row, ((start faults now).run (before ++ event :: after)).store.changesets.find? id =
        some row → row.ownerId = none ∧ row.currentSpecId = none ∧ row.closing = false) ∧
    ∀ number flight question (resume : question.Answer → Attempt),
      ((start faults now).run (before ++ event :: after)).flights number = some flight →
      flight.claimed.id = id → flight.attempt.next = .ask question resume →
      question.asksHost = true →
      (∃ repo, question = .request repo (.load externalId)) ∧ flight.claimed.unsynced = true ∧
      ∀ record row,
        ((start faults now).run (before ++ event :: after)).store.leases.find? id = some record →
        record.lease.token = flight.attempt.lease.token →
        ((start faults now).run (before ++ event :: after)).store.changesets.find? id = some row →
        row.unsynced = true := by
  have sound := (sound_start faults now).run before
  have guards := (guards_start faults now).run (sound_start faults now) (before ++ event :: after)
  rw [run_append, run_cons] at guards ⊢
  have watched := (tracks.watched sound).run (sound.step event) after
  have soundLast := (sound.step event).run after
  constructor
  · intro row found
    have readOnly := watched.stored found
    exact ⟨readOnly.owner, readOnly.current, readOnly.closing⟩
  · rintro number flight question resume under rfl asks host
    have mine := soundLast.flight under
    obtain ⟨loads, waits⟩ := mine.course.loads (watched.claimed under rfl) asks host
    refine ⟨loads, waits, ?_⟩
    intro record row leased token found
    have same := guards.claimed under leased (token.trans mine.token) found
    exact (congrArg (·.2.2) same).trans waits

end System

namespace Sample

/-- The only generation tracks a pull request; it is applied up to its transaction. -/
def watching : List Event :=
  [.putRepo repo, .addCampaignSpec (campaignSpec "a"),
    .addChangesetSpec { spec 1 "a" "a" with target := .trackExisting "7" }] ++ (apply "a").take 4

private theorem startsTracking_watching :
    ((System.start [] (instant 0)).run watching).StartsTracking (.proceed 0 visible) ⟨4⟩ "7" :=
  ⟨by decide +kernel, ⟨3⟩, instant 0, repo,
    { spec 1 "a" "a" with target := .trackExisting "7" }, rfl, by decide +kernel⟩

/-- The lease of an attempt that is about to load the pull request runs out and is reset. Another
attempt claims the changeset, loads the pull request and completes. -/
def overdue : List Event :=
  attempt 0 1 ++ [.setClock (instant 61), .resetExpired] ++ attempt 1 2 ++ [.conclude 1 {}]

end Sample

open Sample in
/-- The transaction creates the changeset, and an attempt loads the pull request. -/
theorem System.tracked_is_read_only_loading :
    ((start [] (instant 0)).run watching).StartsTracking (.proceed 0 visible) ⟨4⟩ "7" ∧
    ∃ (row : Changeset) (flight : Flight) (question : Question)
      (resume : question.Answer → Attempt),
      ((start [] (instant 0)).run
        (watching ++ .proceed 0 visible :: attempt 0 1)).store.changesets.find? ⟨4⟩ = some row ∧
      row.ownerId = none ∧ row.currentSpecId = none ∧ row.closing = false ∧ row.unsynced = true ∧
      ((start [] (instant 0)).run (watching ++ .proceed 0 visible :: attempt 0 1)).flights 0 =
        some flight ∧
      flight.attempt.next = .ask question resume ∧
      ∃ repo, question = .request repo (.load "7") := by
  obtain ⟨row, found⟩ : ∃ row, ((start [] (instant 0)).run
      (watching ++ .proceed 0 visible :: attempt 0 1)).store.changesets.find? ⟨4⟩ = some row :=
    Option.isSome_iff_exists.mp (by decide +kernel)
  obtain ⟨record, leased, token⟩ := Option.map_eq_some_iff.mp (show
    (((start [] (instant 0)).run
      (watching ++ .proceed 0 visible :: attempt 0 1)).store.leases.find? ⟨4⟩).map
      (·.lease.token) = some (leaseToken 0) by decide +kernel)
  obtain ⟨flight, under, known⟩ := Option.map_eq_some_iff.mp (show
    (((start [] (instant 0)).run (watching ++ .proceed 0 visible :: attempt 0 1)).flights 0).map
      (fun flight => (flight.attempt.stage, flight.claimed.id)) =
      some (.acting repo .sync (.request (.load "7")) [], ⟨4⟩) by decide +kernel)
  simp only [Prod.mk.injEq] at known
  obtain ⟨stage, here⟩ := known
  obtain ⟨resume, asks⟩ := Attempt.asks_of_acting stage
  obtain ⟨calm, asked⟩ := tracked_is_read_only [] (instant 0) watching (attempt 0 1)
    (.proceed 0 visible) ⟨4⟩ "7" startsTracking_watching
  obtain ⟨owner, current, closing⟩ := calm row found
  obtain ⟨loads, -, unsynced⟩ := asked 0 flight _ resume under here asks rfl
  have mine := (((sound_start [] (instant 0)).run
    (watching ++ .proceed 0 visible :: attempt 0 1)).flight under).token
  exact ⟨startsTracking_watching, row, flight, _, resume, found, owner, current, closing,
    unsynced record row leased (token.trans mine.symm) found, under, asks, loads⟩

open Sample in
/-- The first attempt then loads the pull request of a changeset that is in sync. -/
theorem System.synced_changeset_is_loaded :
    ((start [] (instant 0)).run watching).StartsTracking (.proceed 0 visible) ⟨4⟩ "7" ∧
    ∃ (row : Changeset) (flight : Flight) (question : Question)
      (resume : question.Answer → Attempt),
      ((start [] (instant 0)).run
        (watching ++ .proceed 0 visible :: overdue)).store.changesets.find? ⟨4⟩ = some row ∧
      row.unsynced = false ∧
      ((start [] (instant 0)).run (watching ++ .proceed 0 visible :: overdue)).flights 0 =
        some flight ∧
      flight.claimed.id = ⟨4⟩ ∧ flight.attempt.next = .ask question resume ∧
      question = .request repo (.load "7") := by
  obtain ⟨row, found, synced⟩ := Option.map_eq_some_iff.mp (show
    (((start [] (instant 0)).run
      (watching ++ .proceed 0 visible :: overdue)).store.changesets.find? ⟨4⟩).map
      (·.unsynced) = some false by decide +kernel)
  obtain ⟨flight, under, known⟩ := Option.map_eq_some_iff.mp (show
    (((start [] (instant 0)).run (watching ++ .proceed 0 visible :: overdue)).flights 0).map
      (fun flight => (flight.attempt.stage, flight.claimed.id)) =
      some (.acting repo .sync (.request (.load "7")) [], ⟨4⟩) by decide +kernel)
  simp only [Prod.mk.injEq] at known
  obtain ⟨stage, here⟩ := known
  obtain ⟨resume, asks⟩ := Attempt.asks_of_acting stage
  exact ⟨startsTracking_watching, row, flight, _, resume, found, synced, under, here, asks, rfl⟩

end BatchChanges
