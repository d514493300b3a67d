import BatchChanges.Proofs.System.Pursuit
import BatchChanges.Proofs.System.Standing

/-! # Attempts that are overtaken

While an attempt brings a pull request from one branch push to another, an application moves the
changeset on to a third one. The application notes as the previous spec the one that the attempt is
about, since the changeset is in processing; but whether the code host is ever told that spec is
only known when the attempt has ended. The next plan compares the noted spec with the new one. So a
facet that the two of them have in common is told to nobody any more, also if the attempt failed
before it told it.
-/

namespace BatchChanges

/-- What is known of a pull request that is open for all one knows. -/
def Shown (standing : Publication × Option HostState) : Prop :=
  standing.1 = .published ∧ standing.2 ≠ some .merged ∧ standing.2 ≠ some .closed

/-- A facet differs between the two branch pushes that a changeset names. -/
theorem Facet.differs_iff {α : Type} {facet : Facet α} {specs : Table .changesetSpec ChangesetSpec}
    {row : Changeset} {previous current : ChangesetSpec} {old push : BranchPush}
    (namesPrevious : specs.Names row.previousSpecId (some previous))
    (pushesPrevious : previous.branchPush? = some old)
    (namesCurrent : specs.Names row.currentSpecId (some current))
    (pushes : current.branchPush? = some push) :
    facet.Differs specs row ↔ facet.value old ≠ facet.value push := by
  constructor
  · rintro ⟨before, now, first, second, namesBefore, pushesBefore, namesNow, pushesNow, differs⟩
    cases namesBefore.unique namesPrevious
    cases namesNow.unique namesCurrent
    cases pushesPrevious.symm.trans pushesBefore
    cases pushes.symm.trans pushesNow
    exact differs
  · intro differs
    exact ⟨previous, current, old, push, namesPrevious, pushesPrevious, namesCurrent, pushes,
      differs⟩

/-- A pull request that showed a branch push shows the facet of another one, after an attempt about
a third one has told what it told. -/
def Facet.Shows {α : Type} (facet : Facet α) (shown aimed : BranchPush) (told : List Effect)
    (push : BranchPush) : Prop :=
  facet.Told told ∧ facet.value aimed = facet.value push ∨
    ¬ facet.Told told ∧ facet.value shown = facet.value push

namespace System

variable {system next : System} {event : Event} {events : List Event} {id : ChangesetId}
  {number : Nat} {flight last : Flight} {moved row final : Changeset} {sent : List Effect}

/-- If the code host is asked about the changeset and answers, it says that the pull request is
open. -/
def ReportsOpen (id : ChangesetId) (system : System) (event : Event) : Prop :=
  ∀ number settings reply flight repo asked resume view,
    event = .ask number settings reply → system.flights number = some flight →
    flight.claimed.id = id → flight.attempt.next = .ask (.request repo asked) resume →
    reply.request = .ok view → view.state = .opened ∨ view.state = .draft

/-- Whether it can be seen from an event that the code host says nothing else. -/
def reportsOpen : Event → Bool
  | .ask _ _ reply =>
    match reply.request with
    | .ok view => view.state == .opened || view.state == .draft
    | .error _ => true
  | _ => true

private theorem ReportsOpen.of_reportsOpen (opened : reportsOpen event = true) :
    ReportsOpen id system event := by
  rintro number settings reply flight repo asked resume view rfl - - - replied
  simpa [reportsOpen, replied] using opened

/-- The changeset and all attempts on it know of a pull request that is open. -/
structure Afloat (system : System) (id : ChangesetId) : Prop where
  row : ∃ row, system.store.changesets.find? id = some row ∧ Shown row.standing
  flying {number : Nat} {flight : Flight} (under : system.flights number = some flight)
    (here : flight.claimed.id = id) :
    Shown flight.claimed.standing ∧ Shown flight.attempt.row.standing

/-- As long as the code host says so, everybody goes on to know of an open pull request. -/
theorem Afloat.step (afloat : system.Afloat id) (sound : system.Sound)
    (reports : ReportsOpen id system event) : (system.step event).Afloat id where
  row := by
    obtain ⟨row, found, shown⟩ := afloat.row
    have change := (System.transition sound.numbered event).change sound id
    rw [found] at change
    obtain ⟨after, stored⟩ := change.present shown.1
    rw [stored] at change
    refine ⟨after, stored, ?_⟩
    obtain same | ⟨-, number, flight, record, under, here, -, -, same⟩ := change.standing
    · exact same ▸ shown
    · exact same ▸ (afloat.flying under here).2
  flying {number flight} under here := by
    have course := ((sound.step event).flight under).course
    cases (System.transition sound.numbered event).flies under with
    | stays before => exact afloat.flying before here
    | @asked before settings reply question answer attempt happened underBefore asks moves answered
        deliveries same =>
      subst same
      obtain ⟨claimed, shown⟩ := afloat.flying underBefore here
      refine ⟨claimed, course.published claimed.1, ?_⟩
      obtain ⟨resume, asks⟩ := asks
      rcases moves.externalState with kept | ⟨view, said, state⟩
      · simp only [Changeset.standing, kept]
        exact shown.2
      · obtain ⟨repo, asked, rfl, replied⟩ := answered.view? said
        simp only [Changeset.standing, state]
        rcases reports _ _ _ _ _ _ _ _ happened underBefore here asks replied with opened | draft
        · simp [opened]
        · simp [draft]
    | claimed happened new below found begins stored leased =>
      subst begins here
      obtain ⟨row, present, shown⟩ := afloat.row
      rw [sound.numbered.find?_candidate found] at present
      cases present
      rw [Attempt.row_start]
      exact ⟨shown, shown⟩

private theorem Afloat.run (afloat : system.Afloat id) (sound : system.Sound)
    (reports : system.Along (ReportsOpen id) events) : (system.run events).Afloat id :=
  reports.keeps sound (fun {system _} sound reports (afloat : system.Afloat id) =>
    afloat.step sound reports) afloat

/-- A changeset with an open pull request that is completed with its aim shows a facet of its spec
exactly if the previous spec that it names has another one, or the code host was told the same
before. -/
theorem Pursuit.lastTold_iff {α : Type} (facet : Facet α) {former : System} {spec : ChangesetSpec}
    {push : BranchPush} (pursuit : Pursuit Shown moved system id sent)
    (effects : system.effects id = sent ++ former.effects id) (wanted : moved.closing = false)
    (current : moved.currentSpecId = some spec.id)
    (known : system.store.changesetSpecs.find? spec.id = some spec)
    (pushes : spec.branchPush? = some push)
    (found : system.store.changesets.find? id = some final)
    (completed : final.queueState = .completed) :
    system.lastTold facet id = some (facet.value push) ↔
      facet.Differs system.store.changesetSpecs moved ∨
        former.lastTold facet id = some (facet.value push) := by
  have names : ∀ {flight : Flight}, flight.Pursues system.store.changesetSpecs moved Shown →
      system.store.changesetSpecs.Names flight.claimed.currentSpecId (some spec) := by
    intro flight pursues
    rw [Changeset.currentSpecId_of_aim pursues.aim, current]
    exact .row known
  have steady : ∀ {flight : Flight}, flight.Pursues system.store.changesetSpecs moved Shown →
      flight.claimed.Steady system.store.changesetSpecs := fun pursues =>
    ⟨pursues.fits.2.1, pursues.fits.2.2, (Changeset.closing_of_aim pursues.aim).trans wanted, spec,
      push, names pursues, pushes⟩
  by_cases told : facet.Told sent
  · refine iff_of_true (lastTold_of_told effects told ?_) (.inl ?_)
    · intro effect value member carried
      obtain ⟨flight, pursues, said⟩ := pursuit.source member
      obtain ⟨now, branch, namesNow, pushesNow, same⟩ :=
        facet.told_eq_value pursues.course said carried
      cases (names pursues).unique namesNow
      cases pushes.symm.trans pushesNow
      exact same
    · obtain ⟨effect, member, value, carried⟩ := told
      obtain ⟨flight, pursues, said⟩ := pursuit.source member
      have differs :=
        facet.differs_of_told pursues.course (steady pursues) pursues.fits.1 said carried
      exact differs.congr (Changeset.currentSpecId_of_aim pursues.aim).symm
        (Changeset.previousSpecId_of_aim pursues.aim).symm
  · rw [lastTold_of_not_told effects told]
    refine ⟨.inr, fun known => known.resolve_left fun differs => told ?_⟩
    obtain ⟨flight, pursues, stopped, said⟩ := pursuit.completed found completed
    obtain ⟨effect, member, value, carried⟩ :=
      facet.told_of_differs pursues.course stopped (steady pursues) pursues.fits.1
        (differs.congr (Changeset.currentSpecId_of_aim pursues.aim)
          (Changeset.previousSpecId_of_aim pursues.aim))
    exact ⟨effect, said effect member, value, carried⟩

/-- Whether a worker claims the changeset. -/
def claims (id : ChangesetId) (system : System) : Event → Bool
  | .claim _ _ => decide ((system.store.candidate? system.now).map (·.id) = some id)
  | _ => false

/-- An attempt with a new token has just been claimed, as its changeset is stored. -/
theorem claims_of_new (sound : system.Sound)
    (under : (system.step event).flights system.tokens = some flight) :
    claims flight.claimed.id system event = true ∧
      (∃ lease, flight = { claimed := flight.claimed, attempt := .start flight.claimed lease }) ∧
      (system.step event).store.changesets.find? flight.claimed.id = some flight.claimed := by
  cases (System.transition sound.numbered event).flies under with
  | stays before => exact absurd (sound.flight before).number_lt (Nat.lt_irrefl _)
  | asked happened before asks moves answered deliveries same =>
    exact absurd (sound.flight before).number_lt (Nat.lt_irrefl _)
  | claimed happened new below found begins stored leased =>
    subst happened begins
    exact ⟨by simp [claims, found], ⟨_, rfl⟩, stored⟩

/-- No other attempt on the changeset is under way. -/
def Alone (system : System) (id : ChangesetId) (number : Nat) : Prop :=
  ∀ other flight, system.flights other = some flight → flight.claimed.id = id → other = number

/-- So it stays until a worker claims the changeset. -/
theorem Alone.step (alone : system.Alone id number) (sound : system.Sound)
    (unclaimed : claims id system event = false) : (system.step event).Alone id number := by
  intro other flight under here
  cases (System.transition sound.numbered event).flies under with
  | stays before => exact alone _ _ before here
  | asked happened before asks moves answered deliveries same =>
    subst same
    exact alone _ _ before here
  | claimed happened new below found begins stored leased =>
    subst happened begins here
    simp [claims, found] at unclaimed

private theorem Alone.run (alone : system.Alone id number) (sound : system.Sound)
    (unclaimed : system.Along (fun system event => claims id system event = false) events) :
    (system.run events).Alone id number :=
  unclaimed.keeps sound (fun {system _} sound unclaimed (alone : system.Alone id number) =>
    alone.step sound unclaimed) alone

/-- An attempt adds what it tells in one event to what it told before. -/
theorem told_step (sound : system.Sound) (old : number < system.tokens) {after : Flight}
    (under : system.flights number = some flight)
    (still : (system.step event).flights number = some after) {effect : Effect}
    (member : effect ∈ flight.told) : effect ∈ after.told := by
  cases (System.transition sound.numbered event).flies still with
  | stays before =>
    cases under.symm.trans before
    exact member
  | asked happened before asks moves answered deliveries same =>
    cases under.symm.trans before
    subst same
    exact List.mem_append_right _ member
  | claimed happened new below found begins stored leased => exact absurd new (Nat.ne_of_lt old)

/-- What the code host is told about a changeset meanwhile, the only attempt on it tells. -/
theorem Alone.told (alone : system.Alone id number) (sound : system.Sound)
    (unclaimed : system.Along (fun system event => claims id system event = false) events)
    (under : system.flights number = some flight) (here : flight.claimed.id = id)
    (still : (system.run events).flights number = some last) :
    ∃ sent, (system.run events).effects id = sent ++ system.effects id ∧
      ∀ effect, effect ∈ last.told ↔ effect ∈ sent ∨ effect ∈ flight.told := by
  induction events generalizing system flight with
  | nil =>
    cases under.symm.trans still
    exact ⟨[], rfl, by simp⟩
  | cons event rest ih =>
    have soundNext := sound.step event
    have aloneNext := alone.step sound unclaimed.1
    have old := (sound.flight under).number_lt
    have happens := System.transition sound.numbered event
    obtain ⟨middle, flying, same⟩ := soundNext.under_before rest
      (Nat.lt_of_lt_of_le old happens.tokens_le) still
    obtain ⟨before, underToo, kept⟩ := sound.under_before [event] old flying
    cases under.symm.trans underToo
    obtain ⟨later, effects, told⟩ :=
      ih aloneNext soundNext unclaimed.2 flying (kept ▸ here) still
    obtain ⟨news, new⟩ := happens.news id
    refine ⟨later ++ news, ?_, ?_⟩
    · rw [run_cons, effects, new.effects, List.append_assoc]
    intro effect
    have step : effect ∈ middle.told ↔ effect ∈ news ∨ effect ∈ flight.told := by
      constructor
      · intro member
        rcases new.known flying (kept ▸ here) member with recent | ⟨other, underOther, about, said⟩
        · exact .inl recent
        · cases alone _ _ underOther about
          cases under.symm.trans underOther
          exact .inr said
      · rintro (recent | earlier)
        · obtain ⟨other, teller, underOther, about, said⟩ := new.told recent
          cases aloneNext _ _ underOther about
          cases flying.symm.trans underOther
          exact said
        · exact told_step sound old under flying earlier
    rw [told, step, List.mem_append, or_assoc]

private theorem Alone.silent (alone : (system.step event).Alone id number) (sound : system.Sound)
    (gone : (system.step event).flights number = none) :
    (system.step event).effects id = system.effects id := by
  obtain ⟨news, new⟩ := (System.transition sound.numbered event).news id
  have nothing : news = [] := by
    apply List.eq_nil_iff_forall_not_mem.mpr
    intro effect member
    obtain ⟨other, flight, under, here, -⟩ := new.told member
    rw [alone _ _ under here, gone] at under
    cases under
  rw [new.effects, nothing, List.nil_append]

/-- A changeset waits with its aim, and no attempt is working on it. -/
def Awaits (system : System) (id : ChangesetId) (moved : Changeset) : Prop :=
  ∃ row, system.store.changesets.find? id = some row ∧ row.aim = moved.aim ∧
    (row.queueState = .queued ∨ row.queueState = .errored)

/-- It goes on waiting until a worker claims it, also if an older attempt is written back. -/
theorem Awaits.step (awaits : system.Awaits id moved) (sound : system.Sound)
    (wanted : moved.closing = false) (spares : Spares id system event)
    (unclaimed : claims id system event = false) : (system.step event).Awaits id moved := by
  obtain ⟨row, found, aim, waits⟩ := awaits
  have happens := System.transition sound.numbered event
  have change := happens.change sound id
  rw [found] at change
  obtain ⟨after, stored, pursued⟩ := change.pursued rfl fun edits => (spares edits).trans found
  refine ⟨after, stored, ?_⟩
  cases pursued with
  | kept same => exact same ▸ ⟨aim, waits⟩
  | claimed due same flies =>
    obtain ⟨flight, under, claimed⟩ := flies
    have here : flight.claimed.id = id := by
      rw [claimed, same]
      exact (sound.numbered.changesets found).1
    have claims := (claims_of_new sound under).1
    rw [here, unclaimed] at claims
    cases claims
  | placed idle waits same standing => exact ⟨same.trans aim, waits⟩
  | @concluded number policy flight failure outcome record under here leased token stopped settled
      same =>
    subst same
    have idle : row.queueState ≠ .processing := by
      rcases waits with queued | errored
      · simp [queued]
      · simp [errored]
    have place := Changeset.place_withOutcome idle outcome record.closingAtClaim
    have closing : row.closing = false := (Changeset.closing_of_aim aim).trans wanted
    refine ⟨(Changeset.aim_withOutcome closing _ _).trans aim, ?_⟩
    rw [show (row.withOutcome outcome record.closingAtClaim).queueState = row.queueState
      from congrArg Prod.fst place]
    exact waits

private theorem Awaits.run (awaits : system.Awaits id moved) (sound : system.Sound)
    (wanted : moved.closing = false) (spared : system.Along (Spares id) events)
    (unclaimed : system.Along (fun system event => claims id system event = false) events) :
    (system.run events).Awaits id moved := by
  induction events generalizing system with
  | nil => exact awaits
  | cons event rest ih =>
    exact ih (awaits.step sound wanted spared.1 unclaimed.1) (sound.step event) spared.2 unclaimed.2

/-- A worker has just claimed a changeset, and nobody else is at work on it. Its current spec pushes
the branch push `aimed`, while its open pull request shows what the code host was told last, which
is `shown`. -/
structure Begins (system : System) (number : Nat) (claimed : Changeset)
    (shown aimed : BranchPush) : Prop where
  under : ∃ lease, system.flights number = some { claimed, attempt := .start claimed lease }
  alone : system.Alone claimed.id number
  stored : system.store.changesets.find? claimed.id = some claimed
  standing : Shown claimed.standing
  current : ∃ spec, system.store.changesetSpecs.Names claimed.currentSpecId (some spec) ∧
    spec.branchPush? = some aimed
  commit : system.lastTold .commit claimed.id = some shown.commit
  text : system.lastTold .text claimed.id = some shown.text

namespace Begins

variable {claimed : Changeset} {shown aimed : BranchPush}

private theorem afloat (begins : system.Begins number claimed shown aimed) :
    system.Afloat claimed.id where
  row := ⟨claimed, begins.stored, begins.standing⟩
  flying {other flight} under here := by
    obtain ⟨lease, started⟩ := begins.under
    cases begins.alone other flight under here
    cases started.symm.trans under
    rw [Attempt.row_start]
    exact ⟨begins.standing, begins.standing⟩

/-- While the attempt is under way, the pull request shows a facet of the current spec if the
attempt has told it, and otherwise what it showed before. -/
theorem lastTold_iff {α : Type} (facet : Facet α) (begins : system.Begins number claimed shown aimed)
    (sound : system.Sound)
    (unclaimed : system.Along (fun system event => claims claimed.id system event = false) events)
    (under : (system.run events).flights number = some last)
    (known : system.lastTold facet claimed.id = some (facet.value shown)) (push : BranchPush) :
    (system.run events).lastTold facet claimed.id = some (facet.value push) ↔
      facet.Shows shown aimed last.told push := by
  obtain ⟨lease, started⟩ := begins.under
  obtain ⟨sent, effects, same⟩ := begins.alone.told sound unclaimed started rfl under
  have told_iff : facet.Told last.told ↔ facet.Told sent := by
    simp only [Facet.Told, same, List.not_mem_nil, or_false]
  rw [Facet.Shows, told_iff]
  by_cases told : facet.Told sent
  · have value : ∀ {effect other}, effect ∈ sent → facet.carried? effect = some other →
        other = facet.value aimed := by
      intro effect other member carried
      have course := ((sound.run events).flight under).course
      obtain ⟨now, branch, namesNow, pushesNow, rfl⟩ :=
        facet.told_eq_value course ((same effect).mpr (.inl member)) carried
      obtain ⟨spec, names, pushes⟩ := begins.current
      obtain ⟨before, startedToo, kept⟩ :=
        sound.under_before events (sound.flight started).number_lt under
      cases started.symm.trans startedToo
      rw [← kept] at namesNow
      have grown := names.mono fun found => sound.find?_changesetSpecs events found
      cases grown.unique namesNow
      cases pushes.symm.trans pushesNow
      rfl
    rw [lastTold_of_told effects told value]
    simp [told]
  · rw [lastTold_of_not_told effects told, known]
    simp [told]

/-- At any time before the attempt has ended, it is about the changeset as it was claimed. -/
theorem claimed_eq (begins : system.Begins number claimed shown aimed) (sound : system.Sound)
    {later : List Event} (under : (system.run (events ++ later)).flights number = some last) :
    ∃ flight, (system.run events).flights number = some flight ∧ flight.claimed = claimed := by
  obtain ⟨lease, began⟩ := begins.under
  have old := (sound.flight began).number_lt
  rw [run_append] at under
  obtain ⟨flight, flying, -⟩ := (sound.run events).under_before later
    (Nat.lt_of_lt_of_le old (sound.tokens_le events)) under
  obtain ⟨first, begun, same⟩ := sound.under_before events old flying
  cases began.symm.trans begun
  exact ⟨flight, flying, same.symm⟩

/-- An application that finds the changeset in processing under the lease of the attempt notes the
spec of the attempt. -/
theorem noted_iff {α : Type} (facet : Facet α) (begins : system.Begins number claimed shown aimed)
    (sound : system.Sound) (faithful : system.Faithful) {later : List Event}
    (under : (system.run (events ++ later)).flights number = some last) {record : LeaseRecord}
    (leased : (system.run events).store.leases.find? claimed.id = some record)
    (token : record.lease.token = leaseToken number) {spec : ChangesetSpec} {push : BranchPush}
    (moves : (system.run events).MovesOn event claimed.id row spec moved)
    (pushes : spec.branchPush? = some push) (busy : row.queueState = .processing)
    {specs : Table .changesetSpec ChangesetSpec}
    (grown : ∀ {id spec}, (system.run events).store.changesetSpecs.find? id = some spec →
      specs.find? id = some spec) :
    facet.Differs specs moved ↔ facet.value aimed ≠ facet.value push := by
  obtain ⟨flight, flying, rfl⟩ := begins.claimed_eq sound under
  have wishes := ((faithful.run sound events).claim flying leased token).2 row moves.found busy
  obtain ⟨current, previous, -⟩ := moves.wanted pushes
  have noted : moved.previousSpecId = flight.claimed.currentSpecId := by
    rw [previous, busy]
    exact congrArg Prod.fst wishes
  obtain ⟨aimedSpec, names, pushesAimed⟩ := begins.current
  have namesPrevious : specs.Names moved.previousSpecId (some aimedSpec) := by
    rw [noted]
    exact names.mono fun found => grown (sound.find?_changesetSpecs events found)
  have namesCurrent : specs.Names moved.currentSpecId (some spec) := by
    rw [current]
    exact .row (grown (moves.known (sound.run events)))
  exact Facet.differs_iff namesPrevious pushesAimed namesCurrent pushes

end Begins

/-- A changeset that awaits to be claimed when all attempts on it have ended is pursued from then
on. -/
theorem Awaits.pursuit (awaits : system.Awaits id moved) (afloat : system.Afloat id)
    (sound : system.Sound) (idle : ∀ number flight, system.flights number = some flight →
      flight.claimed.id ≠ id)
    (wanted : moved.closing = false) (spared : system.Along (Spares id) events)
    (reports : system.Along (ReportsOpen id) events) :
    ∃ sent, Pursuit Shown moved (system.run events) id sent ∧
      (system.run events).effects id = sent ++ system.effects id := by
  obtain ⟨row, stored, aim, waits⟩ := awaits
  obtain ⟨same, present, shown⟩ := afloat.row
  cases stored.symm.trans present
  have unfinished : row.queueState ≠ .completed := by
    intro done
    simp [done] at waits
  have begins : Pursuit Shown moved system id [] :=
    .start stored aim unfinished shown fun under => idle _ _ under
  obtain ⟨sent, pursuit, effects⟩ := begins.run sound wanted spared <| by
    rintro earlier later number flight rfl under pursues here
    have floating := afloat.run sound (along_append.mp reports).1
    exact .inr (floating.flying under here).2
  rw [List.append_nil] at pursuit
  exact ⟨sent, pursuit, effects⟩

/-- When an attempt that was overtaken has ended, in whichever way, its changeset awaits to be
claimed with an open pull request, and nobody is at work on it. -/
theorem Begins.ended {claimed : Changeset} {shown aimed push : BranchPush} {spec : ChangesetSpec}
    {during between : List Event} {cause ending : Event}
    (begins : system.Begins number claimed shown aimed) (sound : system.Sound)
    (moves : (system.run during).MovesOn cause claimed.id row spec moved)
    (pushes : spec.branchPush? = some push)
    (gone : (system.run (during ++ [cause] ++ between ++ [ending])).flights number = none)
    (unclaimed : system.Along (fun system event => claims claimed.id system event = false)
      (during ++ [cause] ++ between ++ [ending]))
    (reports : system.Along (ReportsOpen claimed.id) (during ++ [cause] ++ between ++ [ending]))
    (spared : (system.run (during ++ [cause])).Along (Spares claimed.id) (between ++ [ending])) :
    (system.run (during ++ [cause] ++ between ++ [ending])).Awaits claimed.id moved ∧
      (system.run (during ++ [cause] ++ between ++ [ending])).Afloat claimed.id ∧
      ∀ other flight, (system.run (during ++ [cause] ++ between ++ [ending])).flights other =
        some flight → flight.claimed.id ≠ claimed.id := by
  have alone := begins.alone.run sound unclaimed
  obtain ⟨-, -, wanted, -, queued⟩ := moves.wanted pushes
  refine ⟨?_, begins.afloat.run sound reports, ?_⟩
  · have soundMoved := sound.run (during ++ [cause])
    have awaits : (system.run (during ++ [cause])).Awaits claimed.id moved := by
      refine ⟨moved, ?_, rfl, .inl queued⟩
      rw [run_append, run_cons, run_nil]
      exact moves.stored
    rw [List.append_assoc, run_append]
    rw [List.append_assoc, along_append] at unclaimed
    exact awaits.run soundMoved wanted spared unclaimed.2
  · intro other flight under here
    rw [alone other flight under here, gone] at under
    cases under

/-- In every run that starts with the empty store, whatever else fails, as long as the code host
does not say that the pull request is closed or merged: an attempt has begun to bring an open pull
request from what it shows to a branch push, and before the attempt has ended, in whichever way, an
application moves the changeset on to another one. If no campaign edits the changeset after that, it
is completed with the new spec. Then the pull request shows a facet of it exactly if the previous
spec that the application noted has another one, or the pull request showed the same when the
attempt had ended. If the application found the changeset in processing under the lease of the
attempt, then it noted the spec of the attempt: what this one has in common with the new spec is
shown only if the attempt told it, or the pull request showed it before. -/
theorem overtaken_shows_spec_iff (faults : List Fault) (now : Time) (started finished : System)
    (before during between after : List Event) (cause ending : Event) (number : Nat)
    (claimed row moved final : Changeset) (last : Flight) (spec : ChangesetSpec)
    (shown aimed push : BranchPush) (reached : (start faults now).run before = started)
    (begins : started.Begins number claimed shown aimed)
    (moves : (started.run during).MovesOn cause claimed.id row spec moved)
    (pushes : spec.branchPush? = some push)
    (under : (started.run (during ++ [cause] ++ between)).flights number = some last)
    (gone : (started.run (during ++ [cause] ++ between ++ [ending])).flights number = none)
    (unclaimed : started.Along (fun system event => claims claimed.id system event = false)
      (during ++ [cause] ++ between ++ [ending]))
    (reports : started.Along (ReportsOpen claimed.id)
      (during ++ [cause] ++ between ++ [ending] ++ after))
    (spared : (started.run (during ++ [cause])).Along (Spares claimed.id)
      (between ++ [ending] ++ after))
    (finishes : started.run (during ++ [cause] ++ between ++ [ending] ++ after) = finished)
    (found : finished.store.changesets.find? claimed.id = some final)
    (completed : final.queueState = .completed) :
    final.currentSpecId = some spec.id ∧
      finished.store.changesetSpecs.find? spec.id = some spec ∧
      (finished.lastTold .commit claimed.id = some push.commit ↔
        Facet.commit.Differs finished.store.changesetSpecs moved ∨
          Facet.commit.Shows shown aimed last.told push) ∧
      (finished.lastTold .text claimed.id = some push.text ↔
        Facet.text.Differs finished.store.changesetSpecs moved ∨
          Facet.text.Shows shown aimed last.told push) ∧
      ∀ record, (started.run during).store.leases.find? claimed.id = some record →
        record.lease.token = leaseToken number → row.queueState = .processing →
        (finished.lastTold .commit claimed.id = some push.commit ↔
          aimed.commit ≠ push.commit ∨ Facet.commit.Told last.told ∨
            shown.commit = push.commit) ∧
        (finished.lastTold .text claimed.id = some push.text ↔
          aimed.text ≠ push.text ∨ Facet.text.Told last.told ∨ shown.text = push.text) := by
  have faithful := (faithful_start faults now).run (sound_start faults now) before
  have sound := (sound_start faults now).run before
  rw [reached] at faithful sound
  have soundTaken := sound.run during
  have soundEnded := sound.run (during ++ [cause] ++ between ++ [ending])
  have known : ∀ {id spec}, (started.run during).store.changesetSpecs.find? id = some spec →
      finished.store.changesetSpecs.find? id = some spec := by
    intro id spec known
    rw [← finishes, List.append_assoc, List.append_assoc, List.append_assoc, run_append]
    exact soundTaken.find?_changesetSpecs _ known
  obtain ⟨current, -, wanted, -⟩ := moves.wanted pushes
  rw [along_append] at reports spared
  have apart := spared.2
  rw [← run_append, ← List.append_assoc] at apart
  obtain ⟨awaits, afloat, idle⟩ :=
    begins.ended sound moves pushes gone unclaimed reports.1 spared.1
  obtain ⟨sent, pursuit, effects⟩ :=
    awaits.pursuit afloat soundEnded idle wanted apart reports.2
  rw [run_append] at finishes
  rw [finishes] at pursuit effects
  have present := known (moves.known soundTaken)
  have shows : ∀ {α : Type} (facet : Facet α),
      started.lastTold facet claimed.id = some (facet.value shown) →
      (finished.lastTold facet claimed.id = some (facet.value push) ↔
        facet.Differs finished.store.changesetSpecs moved ∨
          facet.Shows shown aimed last.told push) := by
    intro α facet before
    have alone := begins.alone.run sound unclaimed
    rw [pursuit.lastTold_iff facet effects wanted current present pushes found completed,
      ← begins.lastTold_iff facet sound (along_append.mp unclaimed).1 under before push]
    rw [run_append _ _ [ending], run_cons, run_nil] at alone gone ⊢
    rw [lastTold, alone.silent (sound.run _) gone, ← lastTold]
  obtain ⟨stored, foundToo, aim, -⟩ := pursuit.row
  cases found.symm.trans foundToo
  refine ⟨(Changeset.currentSpecId_of_aim aim).trans current, present,
    shows .commit begins.commit, shows .text begins.text, ?_⟩
  intro record leased token busy
  rw [List.append_assoc] at under
  have told : ∀ {α : Type} (facet : Facet α),
      started.lastTold facet claimed.id = some (facet.value shown) →
      (finished.lastTold facet claimed.id = some (facet.value push) ↔
        facet.value aimed ≠ facet.value push ∨ facet.Told last.told ∨
          facet.value shown = facet.value push) := by
    intro α facet before
    rw [shows facet before, begins.noted_iff facet sound faithful under leased token moves pushes
      busy known, Facet.Shows]
    tauto
  exact ⟨told .commit begins.commit, told .text begins.text⟩

end System

-- The attempt on the second generation is overtaken by the third one, and fails.
namespace Sample

/-- Three generations. The first one is reconciled, and the second one is applied. -/
def appliedAgain (title message : String) : List Event :=
  [.putRepo repo, .addCampaignSpec (campaignSpec "a"), .addChangesetSpec (spec 1 "a" "a"),
    .addCampaignSpec (campaignSpec "b"), .addChangesetSpec (spec 3 "b" "b"),
    .addCampaignSpec (campaignSpec "c"), .addChangesetSpec (spec 5 title message)] ++
    apply "a" ++ attempt 0 5 ++ [.conclude 0 {}] ++ apply "b"

/-- An attempt on the second generation has just begun. -/
def beginning (title message : String) : System :=
  ((System.start [] (instant 0)).run (appliedAgain title message)).step
    (.claim "w" (.ofSeconds 60))

/-- The attempt asks some questions, and the third generation is about to be stored. -/
def asked (questions : Nat) : List Event :=
  List.replicate questions (.ask 1 {} reply) ++ (apply "c").take 4

/-- A code host that refuses everything. -/
def refusals : HostReply where
  push := .error (.rejected "no")
  request := .error (.rejected "no")

/-- The third generation is stored, the attempt fails and is written back, and the next attempt on
the changeset succeeds. -/
def overtaking (questions later : Nat) : List Event :=
  asked questions ++ [.proceed 0 visible] ++ [.ask 1 {} refusals] ++ [.conclude 1 {}] ++
    (attempt 2 later ++ [.conclude 2 {}])

end Sample

open Sample in
/-- The attempt brings the changeset, whose pull request shows the first generation, to the second
one. -/
theorem System.begins_beginning : ∃ claimed, claimed.id = ⟨8⟩ ∧
    (beginning "b" "b").Begins 1 claimed (push "a" "a") (push "b" "b") := by
  have sound := (sound_start [] (instant 0)).run (appliedAgain "b" "b")
  have idle := sound.idle (show
    ((start [] (instant 0)).run (appliedAgain "b" "b")).isIdle = true by decide +kernel)
  have only : ((start [] (instant 0)).run (appliedAgain "b" "b")).tokens = 1 := by decide +kernel
  obtain ⟨flight, under, known⟩ := Option.map_eq_some_iff.mp (show
    ((beginning "b" "b").flights 1).map (fun flight => (flight.claimed.id,
      flight.claimed.publication, flight.claimed.externalState, flight.claimed.currentSpecId)) =
      some (⟨8⟩, .published, some .opened, some ⟨4⟩) by decide +kernel)
  simp only [Prod.mk.injEq] at known
  obtain ⟨here, published, opened, named⟩ := known
  obtain ⟨-, ⟨lease, same⟩, stored⟩ := claims_of_new sound (only ▸ under)
  obtain ⟨spec, present, pushes⟩ := Option.bind_eq_some_iff.mp (show
    ((beginning "b" "b").store.changesetSpecs.find? ⟨4⟩).bind ChangesetSpec.branchPush? =
      some (push "b" "b") by decide +kernel)
  have commit : (beginning "b" "b").lastTold .commit ⟨8⟩ = some (push "a" "a").commit := by
    decide +kernel
  have text : (beginning "b" "b").lastTold .text ⟨8⟩ = some (push "a" "a").text := by
    decide +kernel
  refine ⟨flight.claimed, here, ⟨lease, same ▸ under⟩, ?_, stored, ⟨published, ?_, ?_⟩,
    ⟨spec, named ▸ .row present, pushes⟩, here ▸ commit, here ▸ text⟩
  · intro other flight flying _
    have happens := System.transition sound.numbered (.claim "w" (.ofSeconds 60))
    obtain ⟨before, earlier, -⟩ | ⟨_, _, _, new, -⟩ := (happens.flies flying).claimed_eq
    · rw [idle] at earlier
      cases earlier
    · exact new.trans only
  · simp [Changeset.standing, opened]
  · simp [Changeset.standing, opened]

open Sample in
/-- The third generation is the same as the second one. The attempt has edited the title and fails
to push: the title is the right one, and the commit is not. -/
theorem System.overtaken_shows_spec_iff_refused :
    ∃ row spec flight,
      ((beginning "b" "b").run (overtaking 5 2)).store.changesets.find? ⟨8⟩ = some row ∧
      row.queueState = .completed ∧ row.currentSpecId = some spec.id ∧
      ((beginning "b" "b").run (overtaking 5 2)).store.changesetSpecs.find? spec.id = some spec ∧
      spec.branchPush? = some (push "b" "b") ∧
      ((beginning "b" "b").run
        (asked 5 ++ [.proceed 0 visible] ++ [.ask 1 {} refusals])).flights 1 = some flight ∧
      flight.told = [.request (.update "101" (push "b" "b"))] ∧
      ((beginning "b" "b").run (overtaking 5 2)).lastTold .text ⟨8⟩ =
        some (push "b" "b").text ∧
      ((beginning "b" "b").run (overtaking 5 2)).lastTold .commit ⟨8⟩ ≠
        some (push "b" "b").commit := by
  have sound : (beginning "b" "b").Sound :=
    ((sound_start [] (instant 0)).run (appliedAgain "b" "b")).step _
  have reached : (start [] (instant 0)).run
      (appliedAgain "b" "b" ++ [.claim "w" (.ofSeconds 60)]) = beginning "b" "b" := by
    rw [run_append, run_cons, run_nil, beginning]
  obtain ⟨claimed, here, begins⟩ := begins_beginning
  obtain ⟨row, found, busy⟩ := Option.map_eq_some_iff.mp (show
    (((beginning "b" "b").run (asked 5)).store.changesets.find? ⟨8⟩).map (fun row =>
      (row.queueState, row.currentSpecId)) = some (.processing, some ⟨4⟩) by decide +kernel)
  obtain ⟨moved, stored, current⟩ := Option.map_eq_some_iff.mp (show
    ((((beginning "b" "b").run (asked 5)).step (.proceed 0 visible)).store.changesets.find?
      ⟨8⟩).map (·.currentSpecId) = some (some ⟨6⟩) by decide +kernel)
  simp only [Prod.mk.injEq] at busy
  obtain ⟨spec, branch, moves, pushes, assigned⟩ := (sound.run (asked 5)).movesOn found stored (by
    rw [current, busy.2]
    decide)
  obtain ⟨record, leased, token⟩ := Option.map_eq_some_iff.mp (show
    (((beginning "b" "b").run (asked 5)).store.leases.find? ⟨8⟩).map (·.lease.token) =
      some (leaseToken 1) by decide +kernel)
  obtain ⟨last, flying, told⟩ := Option.map_eq_some_iff.mp (show
    (((beginning "b" "b").run (asked 5 ++ [.proceed 0 visible] ++ [.ask 1 {} refusals])).flights
      1).map (·.told) = some [.request (.update "101" (push "b" "b"))] by decide +kernel)
  have gone : ((beginning "b" "b").run (asked 5 ++ [.proceed 0 visible] ++
      [.ask 1 {} refusals] ++ [.conclude 1 {}])).flights 1 = none :=
    Option.isNone_iff_eq_none.mp (by decide +kernel)
  have unclaimed : (beginning "b" "b").Along (fun system event => claims ⟨8⟩ system event = false)
      (asked 5 ++ [.proceed 0 visible] ++ [.ask 1 {} refusals] ++ [.conclude 1 {}]) := by
    decide +kernel
  have reports : (beginning "b" "b").Along (fun _ event => reportsOpen event = true)
      (asked 5 ++ [.proceed 0 visible] ++ [.ask 1 {} refusals] ++ [.conclude 1 {}] ++
        (attempt 2 2 ++ [.conclude 2 {}])) := by
    decide +kernel
  have spared : ((beginning "b" "b").run (asked 5 ++ [.proceed 0 visible])).Along (Spares ⟨8⟩)
      ([.ask 1 {} refusals] ++ [.conclude 1 {}] ++ (attempt 2 2 ++ [.conclude 2 {}])) := by
    decide +kernel
  obtain ⟨final, present, completed⟩ := Option.map_eq_some_iff.mp (show
    (((beginning "b" "b").run (overtaking 5 2)).store.changesets.find? ⟨8⟩).map (·.queueState) =
      some .completed by decide +kernel)
  obtain ⟨names, known, -, -, processing⟩ := overtaken_shows_spec_iff [] (instant 0)
    (beginning "b" "b") ((beginning "b" "b").run (overtaking 5 2))
    (appliedAgain "b" "b" ++ [.claim "w" (.ofSeconds 60)]) (asked 5) [.ask 1 {} refusals]
    (attempt 2 2 ++ [.conclude 2 {}]) (.proceed 0 visible) (.conclude 1 {}) 1 claimed row moved
    final last spec (push "a" "a") (push "b" "b") branch reached begins
    (by rw [here]; exact moves) pushes flying gone (by rw [here]; exact unclaimed)
    (reports.mono sound fun _ opened => .of_reportsOpen opened) (by rw [here]; exact spared)
    (by rw [overtaking]) (by rw [here]; exact present) completed
  obtain ⟨commits, texts⟩ := processing record (by rw [here]; exact leased) token busy.1
  rw [here] at commits texts
  have pushed : (((beginning "b" "b").run (overtaking 5 2)).store.changesetSpecs.find? ⟨6⟩).bind
      ChangesetSpec.branchPush? = some (push "b" "b") := by decide +kernel
  have same : spec.id = ⟨6⟩ := (Option.some.inj (current.symm.trans assigned)).symm
  rw [← same, known, Option.bind_some, pushes] at pushed
  cases pushed
  have edited : Facet.text.Told last.told := by
    rw [told]
    exact ⟨_, List.mem_cons_self, _, rfl⟩
  have unpushed : ¬ Facet.commit.Told last.told := by
    rw [told]
    rintro ⟨effect, member, value, carried⟩
    cases List.mem_singleton.mp member
    cases carried
  refine ⟨final, spec, last, present, completed, names, known, pushes, flying, told,
    texts.mpr (.inr (.inl edited)), ?_⟩
  intro shown
  rcases commits.mp shown with differs | told | older
  · exact differs rfl
  · exact unpushed told
  · exact absurd older (by decide)

open Sample in
/-- The third generation has the title of the second one. The attempt fails to edit it, after the
third generation was stored: the changeset is completed, and its pull request still has the title of
the first one. -/
theorem System.overtaken_shows_former_text :
    (((beginning "b" "c").run (asked 3)).store.changesets.find? ⟨8⟩).map (fun row =>
        (row.isOwnedAndAttached, row.publication, row.isOpen, row.queueState)) =
      some (true, .published, true, .processing) ∧
    (((beginning "b" "c").run (asked 3)).store.changesets.find? ⟨8⟩).map (fun row =>
        ((row.previousSpecId.bind (beginning "b" "c").store.changesetSpecs.find?).bind
            ChangesetSpec.branchPush?,
          (row.currentSpecId.bind (beginning "b" "c").store.changesetSpecs.find?).bind
            ChangesetSpec.branchPush?)) = some (some (push "a" "a"), some (push "b" "b")) ∧
    ((beginning "b" "c").run (asked 3)).lastTold .commit ⟨8⟩ = some (push "a" "a").commit ∧
    ((beginning "b" "c").run (asked 3)).lastTold .text ⟨8⟩ = some (push "a" "a").text ∧
    ∃ row current,
      ((beginning "b" "c").run (overtaking 3 8)).store.changesets.find? ⟨8⟩ = some row ∧
      row.queueState = .completed ∧ row.currentSpecId = some current ∧
      (((beginning "b" "c").run (overtaking 3 8)).store.changesetSpecs.find? current).bind
        ChangesetSpec.branchPush? = some (push "b" "c") ∧
      ((beginning "b" "c").run (overtaking 3 8)).lastTold .text ⟨8⟩ =
        some (push "a" "a").text ∧ (push "a" "a").text ≠ (push "b" "c").text := by
  obtain ⟨row, found, known⟩ := Option.map_eq_some_iff.mp (show
    (((beginning "b" "c").run (overtaking 3 8)).store.changesets.find? ⟨8⟩).map (fun row =>
      (row.queueState, row.currentSpecId)) = some (.completed, some ⟨6⟩) by decide +kernel)
  simp only [Prod.mk.injEq] at known
  refine ⟨?_, ?_, ?_, ?_, row, ⟨6⟩, found, known.1, known.2, ?_, ?_, ?_⟩
  · decide +kernel
  · decide +kernel
  · decide +kernel
  · decide +kernel
  · decide +kernel
  · decide +kernel
  · decide

end BatchChanges
