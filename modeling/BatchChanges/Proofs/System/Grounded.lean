import BatchChanges.Proofs.System.Failures
import BatchChanges.Proofs.System.Standing

/-! # Attempts find what they need

Every changeset names what is stored: it is created for a spec and a repository that were read, and
it moves on to specs that were read, while specs and repositories stay. What is known of its pull
request comes with the number, because attempts write back what they have learned. So no attempt
misses anything, and it fails only for a failure of the code host or the store, or because its lease
is lost. The store fails because of a failure ahead, as long as every attempt renews its lease for
the length that it was claimed for.
-/

namespace BatchChanges

/-- A failure that lies with the code host, with the store or with the lease. -/
def ReconcileError.Excused (details : String → Prop) : ReconcileError → Prop
  | .host _ _ | .leaseLost _ _ => True
  | .store (.backend detail) => details detail
  | _ => False

private theorem Question.Causes.excused {details : String → Prop} {length : Duration}
    {question : Question} {answer : question.Answer} {failure : ReconcileError}
    (causes : question.Causes answer failure) (excuses : question.Excuses details length answer)
    (lasting : length.isSpan = true ∨ ∀ detail, details detail) : failure.Excused details := by
  cases causes with
  | store refused =>
    obtain ⟨detail, rfl, ahead | long⟩ := excuses _ refused
    · exact ahead
    · rcases lasting with span | all
      · rw [long] at span
        cases span
      · exact all detail
  | leaseLost operation lost => trivial
  | host operation error asked => trivial

namespace Changeset

variable {specs larger : Table .changesetSpec ChangesetSpec} {repos more : Table .repo Repo}
  {row : Changeset}

private theorem Grounded.mono (grounded : row.Grounded specs repos)
    (grown : ∀ {id spec}, specs.find? id = some spec → larger.find? id = some spec)
    (stay : ∀ {id repo}, repos.find? id = some repo → ∃ other, more.find? id = some other) :
    row.Grounded larger more where
  toLocated := grounded.toLocated
  repo := have ⟨_, found⟩ := grounded.repo; stay found
  current named :=
    have ⟨spec, push, found, pushes⟩ := grounded.current named
    ⟨spec, push, grown found, pushes⟩
  previous named := have ⟨spec, found⟩ := grounded.previous named; ⟨spec, grown found⟩
  owned := grounded.owned

/-- A new changeset names the spec and the repository that it was created for. -/
theorem grounded_ofSpec {spec : ChangesetSpec} {repo : Repo} (campaign : CampaignId) (now : Time)
    (id : ChangesetId) (known : specs.find? spec.id = some spec)
    (located : repos.find? spec.repoId = some repo) (named : repo.id = spec.repoId) :
    Grounded specs repos { ofSpec campaign now repo spec with id } := by
  cases target : spec.target with
  | trackExisting externalId =>
    have opened : (ofSpec campaign now repo spec).externalId ≠ none := by simp [ofSpec, target]
    refine ⟨.of_externalId opened, ?_, ?_, ?_, ?_⟩
    · simpa [ofSpec, target, named] using ⟨repo, located⟩
    · simp [ofSpec, target]
    · simp [ofSpec, target]
    · simp [ofSpec, target]
  | branchPush push =>
    refine ⟨⟨?_, ?_, ?_⟩, ?_, ?_, ?_, ?_⟩
    · simp [ofSpec, target]
    · simp [ofSpec, target]
    · simp [ofSpec, target]
    · simpa [ofSpec, target, named] using ⟨repo, located⟩
    · intro id current
      simp only [ofSpec, target, Option.some.injEq] at current
      subst current
      exact ⟨spec, push, known, by simp only [ChangesetSpec.branchPush?, target]⟩
    · simp [ofSpec, target]
    · simp [ofSpec, target]

/-- Which specs a changeset names may change to a stored branch push and the one before. -/
theorem Grounded.of_specs {after : Changeset} (grounded : row.Grounded specs repos)
    (located : after.Located) (same : after.identity = row.identity)
    (moved : after.currentSpecId = row.currentSpecId ∧ after.previousSpecId = row.previousSpecId ∨
      ∃ spec push, specs.find? spec.id = some spec ∧ spec.branchPush? = some push ∧
        after.currentSpecId = some spec.id ∧
        (after.previousSpecId = row.previousSpecId ∨ after.previousSpecId = row.currentSpecId)) :
    after.Grounded specs repos := by
  have repo : ∃ repo, repos.find? after.repoId = some repo := by
    rw [show after.repoId = row.repoId from congrArg (·.2.1) same]
    exact grounded.repo
  have owner : after.ownerId = row.ownerId := congrArg (·.2.2.2.1) same
  rcases moved with ⟨current, previous⟩ | ⟨spec, push, known, pushes, current, previous⟩
  · refine ⟨located, repo, ?_, ?_, ?_⟩
    · intro id named
      exact grounded.current (current ▸ named)
    · intro id named
      exact grounded.previous (previous ▸ named)
    · rw [owner, current]
      exact grounded.owned
  · refine ⟨located, repo, ?_, ?_, ?_⟩
    · intro id named
      rw [current] at named
      cases named
      exact ⟨spec, push, known, pushes⟩
    · intro id named
      rcases previous with same | rotated
      · exact grounded.previous (same ▸ named)
      · obtain ⟨before, -, found, -⟩ := grounded.current (rotated ▸ named)
        exact ⟨before, found⟩
    · intro _
      rw [current]
      exact Option.some_ne_none spec.id

end Changeset

namespace System

variable {system next : System} {event : Event} {id : ChangesetId} {row after : Changeset}
  {lease lease' : Option LeaseRecord} {details : String → Prop}

/-- Only an application that moves a changeset on to a branch push changes the specs that it names,
and it knows the spec. -/
theorem Change.specs (change : Change system event next id (some row) lease (some after) lease')
    (sound : system.Sound) :
    after.currentSpecId = row.currentSpecId ∧ after.previousSpecId = row.previousSpecId ∨
      ∃ spec push, system.store.changesetSpecs.find? spec.id = some spec ∧
        spec.branchPush? = some push ∧ after.currentSpecId = some spec.id ∧
        (after.previousSpecId = row.previousSpecId ∨
          after.previousSpecId = row.currentSpecId) := by
  generalize present : some after = later at change
  cases change with
  | reset happens expired =>
    cases present
    left
    simp only [Changeset.released]
    split <;> exact ⟨rfl, rfl⟩
  | rewired generation happens under makes fate =>
    subst present
    cases fate with
    | kept => exact .inl ⟨rfl, rfl⟩
    | left unwanted decided =>
      left
      obtain ⟨-, rfl⟩ | ⟨-, rfl⟩ := Placement.ofDropped_eq_staged decided
      · exact ⟨rfl, rfl⟩
      · exact ⟨rfl, rfl⟩
    | @followed _ spec paired =>
      cases pushes : spec.branchPush? with
      | none =>
        left
        rcases row.following_eq_of_tracks generation.campaign generation.now pushes with same | same
        · rw [same]
          exact ⟨rfl, rfl⟩
        · rw [same]
          exact ⟨rfl, rfl⟩
      | some push =>
        refine .inr ⟨spec, push, sound.numbered.find?_of_paired paired, pushes, ?_⟩
        rw [row.following_eq generation.campaign generation.now pushes]
        refine ⟨rfl, ?_⟩
        by_cases waits : (row.queueState == .errored || row.queueState == .queued) = true
        · exact .inl (if_pos waits)
        · exact .inr (if_neg waits)
  | closed happens fate =>
    subst present
    cases fate <;> exact .inl ⟨rfl, rfl⟩
  | _ =>
    cases present
    exact .inl ⟨rfl, rfl⟩

/-- A changeset records that it was canceled, or how an attempt failed. -/
theorem Change.failureMessage
    (change : Change system event next id (some row) lease (some after) lease') {message : String}
    (noted : after.failureMessage = some message) :
    row.failureMessage = some message ∨ message = Changeset.canceledMessage ∨
      ∃ number flight error, system.flights number = some flight ∧
        flight.attempt.stage = .settled (some error) ∧ message = error.message := by
  have placed : after.place = Changeset.freshPlace ∨
      after.place = row.place ∧ after.wishes = row.wishes →
      row.failureMessage = some message := by
    rintro (fresh | ⟨same, -⟩)
    · rw [show after.failureMessage = none from congrArg (·.2.1) fresh] at noted
      cases noted
    · exact (congrArg (·.2.1) same).symm.trans noted
  generalize present : some after = later at change
  cases change with
  | @concluded number policy flight failure outcome row record happens under stopped gone settled
      here token =>
    cases present
    simp only [Changeset.withOutcome] at noted
    split at noted
    · obtain ⟨-, rfl⟩ | ⟨error, retryAt, rfl, rfl⟩ := Changeset.settled?_eq_some settled
      · cases noted
      · cases noted
        exact .inr (.inr ⟨number, flight, error, under, stopped, rfl⟩)
    · exact .inl noted
  | canceled happens waiting =>
    cases present
    cases noted
    exact .inr (.inl rfl)
  | reset happens expired =>
    cases present
    simp only [Changeset.released] at noted
    split at noted <;> exact .inl noted
  | rewired generation happens under makes fate =>
    subst present
    exact .inl (placed fate.place)
  | closed happens fate =>
    subst present
    exact .inl (placed fate.place)
  | _ =>
    cases present
    exact .inl noted

/-- Repositories are put into the store, and stay. -/
theorem Transition.repos (happens : Transition system event next) :
    next.store.repos = system.store.repos ∨
      ∃ repo : Repo, next.store.repos = system.store.repos.insert repo.id repo := by
  cases happens with
  | quiet store tokens flights deliveries => exact .inl (by rw [store])
  | repoPut repo => exact .inr ⟨repo, rfl⟩
  | campaignSpecAdded spec => exact .inl rfl
  | changesetSpecAdded spec => exact .inl rfl
  | claimed found store tokens flights deliveries => exact .inl (by rw [store])
  | asked under asks answered tokens flights deliveries =>
    obtain store | ⟨lease, record, expiresAt, -, -, -, store⟩ := store_of_answered answered
    · exact .inl (by rw [store])
    · exact .inl (by rw [store])
  | @concluded number policy flight failure outcome _ under stopped settled store tokens flights
      deliveries =>
    left
    rw [store]
    by_cases holds : system.store.Holds flight.attempt.lease
    · obtain ⟨record, found, same⟩ := holds
      rw [Store.finish_of_record found same]
      split <;> rfl
    · rw [Store.finish_of_not_holds holds]
  | canceled campaign happens store tokens flights deliveries => exact .inl (by rw [store]; rfl)
  | requeued store tokens flights deliveries => exact .inl (by rw [store]; rfl)
  | reset store tokens flights deliveries => exact .inl (by rw [store]; rfl)
  | rewired generation under makes transacted tokens flights deliveries =>
    exact .inl transacted.repos
  | closed transacted tokens flights deliveries => exact .inl transacted.repos

private theorem Transition.find?_repos (happens : Transition system event next) {id : RepoId}
    {repo : Repo} (found : system.store.repos.find? id = some repo) :
    ∃ other, next.store.repos.find? id = some other := by
  obtain same | ⟨added, same⟩ := happens.repos
  · exact ⟨repo, by rw [same, found]⟩
  · rw [same, Table.find?_insert]
    split
    · exact ⟨added, rfl⟩
    · exact ⟨repo, found⟩

/-- Changesets and attempts name what is stored, and attempts fail without their own fault. -/
structure Grounded (details : String → Prop) (system : System) : Prop where
  faults : system.world.backend.Tells details
  repo {id : RepoId} {repo : Repo} (found : system.store.repos.find? id = some repo) : repo.id = id
  row {id : ChangesetId} {row : Changeset} (found : system.store.changesets.find? id = some row) :
    row.Grounded system.store.changesetSpecs system.store.repos
  claimed {number : Nat} {flight : Flight} (under : system.flights number = some flight) :
    flight.claimed.Grounded system.store.changesetSpecs system.store.repos
  failure {number : Nat} {flight : Flight} {error : ReconcileError}
    (under : system.flights number = some flight)
    (failed : flight.attempt.stage = .settled (some error)) : error.Excused details
  message {id : ChangesetId} {row : Changeset} {message : String}
    (found : system.store.changesets.find? id = some row)
    (noted : row.failureMessage = some message) :
    message = Changeset.canceledMessage ∨
      ∃ error : ReconcileError, error.Excused details ∧ message = error.message

theorem grounded_start {faults : List Fault} (ahead : ∀ fault ∈ faults, details fault.detail)
    (now : Time) : (start faults now).Grounded details where
  faults := ahead
  repo found := by cases found
  row found := by cases found
  claimed under := by cases under
  failure under := by cases under
  message found := by cases found

/-- A changeset that an event leaves behind names what is stored then. -/
theorem Grounded.row_transition (grounded : system.Grounded details) (sound : system.Sound)
    (happens : Transition system event next)
    (found : next.store.changesets.find? id = some after) :
    after.Grounded next.store.changesetSpecs next.store.repos := by
  have change := happens.change sound id
  rw [found] at change
  refine Changeset.Grounded.mono ?_ (happens.find?_changesetSpecs sound.numbered)
    happens.find?_repos
  cases stored : system.store.changesets.find? id with
  | some row =>
    rw [stored] at change
    have before := grounded.row stored
    refine before.of_specs ?_ change.identity (change.specs sound)
    rcases change.sight with same | ⟨-, number, flight, record, under, -, -, -, same⟩
    · exact before.toLocated.congr same
    · have learns := (sound.flight under).course.learns
      exact (learns.located (grounded.claimed under).toLocated).congr same
  | none =>
    rw [stored] at change
    obtain ⟨_, _, _, generation, spec, repo, -, -, -, -, paired, located, -, rfl⟩ := change.created
    exact Changeset.grounded_ofSpec generation.campaign generation.now id
      (sound.numbered.find?_of_paired paired) located (grounded.repo located)

/-- What it records is a cancellation, or a failure of an attempt. -/
theorem Grounded.message_transition (grounded : system.Grounded details) (sound : system.Sound)
    (happens : Transition system event next) {message : String}
    (found : next.store.changesets.find? id = some after)
    (noted : after.failureMessage = some message) :
    message = Changeset.canceledMessage ∨
      ∃ error : ReconcileError, error.Excused details ∧ message = error.message := by
  have change := happens.change sound id
  rw [found] at change
  cases stored : system.store.changesets.find? id with
  | some row =>
    rw [stored] at change
    rcases change.failureMessage noted with before | canceled | ⟨_, _, error, under, failed, same⟩
    · exact grounded.message stored before
    · exact .inl canceled
    · exact .inr ⟨error, grounded.failure under failed, same⟩
  | none =>
    rw [stored] at change
    obtain ⟨_, _, _, generation, spec, repo, -, -, -, -, -, -, -, rfl⟩ := change.created
    simp only [Changeset.ofSpec] at noted
    split at noted <;> cases noted

/-- Attempts ask under settings for which the store renews leases, if that matters. -/
def Lasts (details : String → Prop) (system : System) (event : Event) : Prop :=
  ∀ number settings reply, event = .ask number settings reply → system.flights number ≠ none →
    settings.leaseDuration.isSpan = true ∨ ∀ detail, details detail

/-- An attempt fails with an excuse. -/
theorem Grounded.failure_step (grounded : system.Grounded details) (sound : system.Sound)
    (lasts : system.Lasts details event) {number : Nat} {flight : Flight} {error : ReconcileError}
    (under : (system.step event).flights number = some flight)
    (failed : flight.attempt.stage = .settled (some error)) : error.Excused details := by
  have happens := System.transition sound.numbered event
  cases happens.flies under with
  | stays flying => exact grounded.failure flying failed
  | @asked before settings reply question _ _ happens flying asks =>
    subst happens
    obtain ⟨resume, asks⟩ := asks
    simp only [step, flying] at under
    obtain ⟨answer, rfl, answered, excuses⟩ := ask_answered grounded.faults asks under
    have finds : question.Finds system.store.changesetSpecs system.store.repos answer := by
      cases question with
      | changesetSpec id => exact answered.2
      | repo id => exact answered.2
      | _ => trivial
    have causes := (sound.flight flying).course.causes (grounded.claimed flying) asks finds failed
    refine causes.excused excuses (lasts number settings reply rfl ?_)
    rw [flying]
    exact Option.some_ne_none before
  | claimed happens new below found begins stored leased =>
    subst begins
    obtain ⟨owned, unnamed⟩ := Attempt.error_of_start failed
    have row := grounded.row (sound.numbered.find?_candidate found)
    exact absurd unnamed (row.owned owned)

theorem Grounded.step (grounded : system.Grounded details) (sound : system.Sound)
    (lasts : system.Lasts details event) : (system.step event).Grounded details := by
  have happens := System.transition sound.numbered event
  refine ⟨tells_step grounded.faults event, ?_, ?_, ?_, ?_, ?_⟩
  · intro id repo found
    obtain same | ⟨added, same⟩ := happens.repos
    · exact grounded.repo (same ▸ found)
    · rw [same] at found
      rcases Table.find?_insert_eq_some.mp found with ⟨rfl, rfl⟩ | ⟨-, found⟩
      · rfl
      · exact grounded.repo found
  · intro id row found
    exact grounded.row_transition sound happens found
  · intro number flight under
    rcases (happens.flies under).claimed_eq with ⟨before, flying, same⟩ |
      ⟨row, expiresAt, worker, -, -, stored, -⟩
    · rw [← same]
      exact (grounded.claimed flying).mono (happens.find?_changesetSpecs sound.numbered)
        happens.find?_repos
    · exact grounded.row_transition sound happens stored
  · intro number flight error under failed
    exact grounded.failure_step sound lasts under failed
  · intro id row message found noted
    exact grounded.message_transition sound happens found noted

/-- Whatever the store fails with, every changeset names what is stored. -/
theorem grounded_run (faults : List Fault) (now : Time) (events : List Event) :
    ((start faults now).run events).Grounded fun _ => True := by
  have always : (start faults now).Along (Lasts fun _ => True) events :=
    along_of_forall fun _ _ _ _ _ _ _ => .inr fun _ => trivial
  exact always.keeps (sound_start faults now)
    (fun sound lasts grounded => grounded.step sound lasts)
    (grounded_start (fun _ _ => trivial) now)

/-- Every attempt renews its lease for the length that it was claimed for. -/
def Steady (lengths : Nat → Duration) (system : System) : Event → Prop
  | .claim _ length => length = lengths system.tokens
  | .ask number settings _ => settings.leaseDuration = lengths number
  | _ => True

instance (lengths : Nat → Duration) : Decidable (Steady lengths system event) :=
  match event with
  | .claim _ _ | .ask _ _ _ => inferInstanceAs (Decidable (_ = _))
  | .putRepo _ | .addCampaignSpec _ | .addChangesetSpec _ | .setClock _ | .conclude _ _
  | .abandon _ | .cancelQueued _ | .requeueDue _ | .resetExpired | .apply _ _ | .proceed _ _
  | .close _ => inferInstanceAs (Decidable True)

/-- Every attempt was claimed for a span of time. -/
def Spanned (lengths : Nat → Duration) (system : System) : Prop :=
  ∀ number flight, system.flights number = some flight → (lengths number).isSpan = true

private theorem Spanned.step {lengths : Nat → Duration} (spanned : system.Spanned lengths)
    (sound : system.Sound) (steady : Steady lengths system event) :
    (system.step event).Spanned lengths := by
  intro number flight under
  cases (System.transition sound.numbered event).flies under with
  | stays flying => exact spanned number flight flying
  | asked happens flying asks moves answered deliveries same => exact spanned number _ flying
  | @claimed worker length row expiresAt happens new below found begins stored leased =>
    subst happens new
    rw [← show length = lengths system.tokens from steady]
    refine isSpan_of_claim ?_ under
    by_contra flying
    obtain ⟨before, flying⟩ := Option.ne_none_iff_exists'.mp flying
    exact absurd (sound.flight flying).number_lt (Nat.lt_irrefl _)

private theorem Spanned.lasts {lengths : Nat → Duration} (spanned : system.Spanned lengths)
    (steady : Steady lengths system event) : system.Lasts details event := by
  rintro number settings reply rfl busy
  obtain ⟨flight, under⟩ := Option.ne_none_iff_exists'.mp busy
  left
  rw [show settings.leaseDuration = lengths number from steady]
  exact spanned number flight under

private theorem Grounded.run {lengths : Nat → Duration} {events : List Event}
    (grounded : system.Grounded details) (spanned : system.Spanned lengths) (sound : system.Sound)
    (steady : system.Along (Steady lengths) events) : (system.run events).Grounded details := by
  induction events generalizing system with
  | nil => exact grounded
  | cons event rest ih =>
    exact ih (grounded.step sound (spanned.lasts steady.1)) (spanned.step sound steady.1)
      (sound.step event) steady.2

/-- Attempts fail, and changesets record failures, with an excuse. -/
structure Reports (details : String → Prop) (system : System) : Prop where
  failure (number : Nat) (flight : Flight) (error : ReconcileError)
    (under : system.flights number = some flight)
    (failed : flight.attempt.stage = .settled (some error)) : error.Excused details
  message (id : ChangesetId) (row : Changeset) (message : String)
    (found : system.store.changesets.find? id = some row)
    (noted : row.failureMessage = some message) :
    message = Changeset.canceledMessage ∨
      ∃ error : ReconcileError, error.Excused details ∧ message = error.message

private theorem Grounded.reports (grounded : system.Grounded details) : system.Reports details where
  failure _ _ _ under failed := grounded.failure under failed
  message _ _ _ found noted := grounded.message found noted

/-- In every run that starts with the empty store, every changeset names what is stored, the number
of its pull request is known as soon as anything else is, and one that a campaign created names a
branch push. So attempts fail with failures of the code host, of the store and with lost leases
only, and nothing else is recorded of them. If every attempt renews its lease for the length that it
was claimed for, all failures of the store were ahead of it at the start. -/
theorem attempts_miss_nothing (faults : List Fault) (now : Time) (events : List Event) :
    (∀ id row, ((start faults now).run events).store.changesets.find? id = some row →
      row.Grounded ((start faults now).run events).store.changesetSpecs
        ((start faults now).run events).store.repos) ∧
    ((start faults now).run events).Reports (fun _ => True) ∧
    ∀ lengths, (start faults now).Along (Steady lengths) events →
      ((start faults now).run events).Reports
        fun detail => ∃ fault ∈ faults, fault.detail = detail := by
  have sound := sound_start faults now
  have always : (start faults now).Along (Lasts fun _ => True) events :=
    along_of_forall fun _ _ _ _ _ _ _ => .inr fun _ => trivial
  have grounded := always.keeps sound (fun sound lasts grounded => grounded.step sound lasts)
    (grounded_start (fun _ _ => trivial) now)
  refine ⟨fun id row found => grounded.row found, grounded.reports, ?_⟩
  intro lengths steady
  have ahead : (start faults now).Grounded fun detail => ∃ fault ∈ faults, fault.detail = detail :=
    grounded_start (fun fault member => ⟨fault, member, rfl⟩) now
  have spanned : (start faults now).Spanned lengths := fun number flight under => by cases under
  exact (ahead.run spanned sound steady).reports

end System

namespace Sample

/-- The store fails at the first renewal of a lease. -/
def outage : List Fault := [⟨.renew, 0, "connection reset"⟩]

/-- An attempt up to its first renewal, and its write-back. -/
def failing : List Event :=
  setUp ++ .claim "w" (.ofSeconds 300) :: List.replicate 4 (.ask 0 {} reply) ++ [.conclude 0 {}]

end Sample

open Sample in
/-- An attempt that the store fails records nothing but that failure. -/
theorem System.attempts_miss_nothing_outage :
    ∃ row error, ((start outage (instant 0)).run failing).store.changesets.find? changeset =
        some row ∧
      row.Grounded ((start outage (instant 0)).run failing).store.changesetSpecs
        ((start outage (instant 0)).run failing).store.repos ∧
      row.failureMessage = some "store error: storage error: connection reset" ∧
      (error : ReconcileError).Excused (fun detail => ∃ fault ∈ outage, fault.detail = detail) ∧
      row.failureMessage = some error.message := by
  obtain ⟨grounded, -, steadily⟩ := attempts_miss_nothing outage (instant 0) failing
  obtain ⟨row, found, noted⟩ := Option.map_eq_some_iff.mp (show
    (((start outage (instant 0)).run failing).store.changesets.find? changeset).map
      (·.failureMessage) = some (some "store error: storage error: connection reset")
    by decide +kernel)
  have reports := steadily (fun _ => .ofSeconds 300) (by decide +kernel)
  obtain canceled | ⟨error, excused, same⟩ := reports.message changeset row _ found noted
  · simp [Changeset.canceledMessage] at canceled
  · exact ⟨row, error, found, grounded changeset row found, noted, excused, same ▸ noted⟩

end BatchChanges
