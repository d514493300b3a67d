import BatchChanges.Proofs.System.Edits
import BatchChanges.Proofs.System.Sequential

/-! # What code hosts were told last

An application assigns a spec to a changeset. From then on the code host is told the facets of this
spec only: all of them if the pull request was not open yet, and otherwise those in which the spec
differs from the previous one that the application noted. So a changeset that is completed shows a
facet of its spec exactly if it was unpublished, or the facet differs, or the code host was told the
same value last when the spec was assigned.
-/

namespace BatchChanges

namespace Changeset

variable {spec : ChangesetSpec} {push : BranchPush}

/-- A changeset that a branch push brings about is queued for it. -/
theorem ofSpec_of_push (campaign : CampaignId) (now : Time) (repo : Repo) (id : ChangesetId)
    (pushes : spec.branchPush? = some push) :
    ({ ofSpec campaign now repo spec with id } : Changeset).currentSpecId = some spec.id ∧
      ({ ofSpec campaign now repo spec with id } : Changeset).queueState = .queued := by
  simp only [ofSpec, ChangesetSpec.target_of_branchPush? pushes, and_self]

end Changeset

namespace Facet

variable {α : Type} (facet : Facet α) {specs larger : Table .changesetSpec ChangesetSpec}
  {row after : Changeset}

/-- Whether one of the effects tells the facet. -/
def Told (effects : List Effect) : Prop :=
  ∃ effect ∈ effects, ∃ told, facet.carried? effect = some told

variable {facet}

private theorem Told.append_right {effects : List Effect} (told : facet.Told effects)
    (more : List Effect) : facet.Told (more ++ effects) := by
  obtain ⟨effect, member, carried⟩ := told
  exact ⟨effect, List.mem_append_right _ member, carried⟩

private theorem findSome?_of_not_told {effects : List Effect} (silent : ¬ facet.Told effects) :
    effects.findSome? facet.carried? = none := by
  apply List.findSome?_eq_none_iff.mpr
  intro effect member
  by_contra carried
  obtain ⟨value, carried⟩ := Option.ne_none_iff_exists'.mp carried
  exact silent ⟨effect, member, value, carried⟩

private theorem findSome?_of_told {effects : List Effect} {value : α} (told : facet.Told effects)
    (same : ∀ {effect other}, effect ∈ effects → facet.carried? effect = some other →
      other = value) : effects.findSome? facet.carried? = some value := by
  cases first : effects.findSome? facet.carried? with
  | none =>
    obtain ⟨effect, member, other, carried⟩ := told
    rw [List.findSome?_eq_none_iff.mp first effect member] at carried
    cases carried
  | some other =>
    obtain ⟨effect, member, carried⟩ := List.exists_of_findSome?_eq_some first
    rw [same member carried]

/-- Only the specs that a changeset names decide whether they differ. -/
theorem Differs.congr (differs : facet.Differs specs row)
    (current : after.currentSpecId = row.currentSpecId)
    (previous : after.previousSpecId = row.previousSpecId) : facet.Differs specs after := by
  simp only [Differs, current, previous]
  exact differs

private theorem differs_grown_iff (orderly : row.Orderly specs)
    (grown : ∀ {id spec}, specs.find? id = some spec → larger.find? id = some spec) :
    facet.Differs larger row ↔ facet.Differs specs row := by
  constructor
  · rintro ⟨previous, current, old, push, namesPrevious, branch, namesCurrent, pushes, differs⟩
    obtain ⟨before, namesBefore⟩ := orderly.namesPrevious
    obtain ⟨now, namesNow⟩ := orderly.namesCurrent
    obtain rfl := (namesBefore.mono grown).unique namesPrevious
    cases (namesNow.mono grown).unique namesCurrent
    exact ⟨previous, current, old, push, namesBefore, branch, namesNow, pushes, differs⟩
  · rintro ⟨previous, current, old, push, namesPrevious, branch, namesCurrent, pushes, differs⟩
    exact ⟨previous, current, old, push, namesPrevious.mono grown, branch,
      namesCurrent.mono grown, pushes, differs⟩

end Facet

namespace System

variable {origin system next : System} {events : List Event} {event : Event} {id : ChangesetId}

/-- What code hosts were told about a changeset with success, the last first. -/
def effects (system : System) (id : ChangesetId) : List Effect :=
  (system.deliveries.filter fun delivery => decide (delivery.1 = id)).map (·.2)

/-- The facet of a changeset as a code host was told it last. -/
def lastTold {α : Type} (facet : Facet α) (system : System) (id : ChangesetId) : Option α :=
  (system.effects id).findSome? facet.carried?

section

variable {α : Type} {facet : Facet α} {sent : List Effect}

/-- Of what was told later, a facet is what all of it says of the facet. -/
theorem lastTold_of_told {value : α} (effects : system.effects id = sent ++ origin.effects id)
    (told : facet.Told sent)
    (same : ∀ {effect other}, effect ∈ sent → facet.carried? effect = some other →
      other = value) : system.lastTold facet id = some value := by
  rw [lastTold, effects, List.findSome?_append, Facet.findSome?_of_told told same, Option.some_or]

/-- What does not tell a facet leaves it as it was told before. -/
theorem lastTold_of_not_told (effects : system.effects id = sent ++ origin.effects id)
    (silent : ¬ facet.Told sent) : system.lastTold facet id = origin.lastTold facet id := by
  rw [lastTold, effects, List.findSome?_append, Facet.findSome?_of_not_told silent,
    Option.none_or, lastTold]

end

private theorem Transition.deliveries_eq (happens : Transition system event next) :
    next.deliveries = system.deliveries ∨ ∃ (number : Nat) (flight : Flight) (told : List Effect),
      next.flights number = some flight ∧ (∀ effect ∈ told, effect ∈ flight.told) ∧
      next.deliveries = told.map (flight.claimed.id, ·) ++ system.deliveries := by
  cases happens with
  | quiet store tokens flights deliveries => exact .inl deliveries
  | repoPut repo => exact .inl rfl
  | campaignSpecAdded spec => exact .inl rfl
  | changesetSpecAdded spec => exact .inl rfl
  | claimed found store tokens flights deliveries => exact .inl deliveries
  | @asked number settings reply flight question resume answer _ under asks answered tokens flights
      deliveries =>
    refine .inr ⟨number, { flight with
      attempt := resume answer, told := (question.told? answer).toList ++ flight.told },
      (question.told? answer).toList, ?_, ?_, deliveries⟩
    · rw [flights, Function.update_self]
    · exact fun effect member => List.mem_append_left _ member
  | concluded under stopped settled store tokens flights deliveries => exact .inl deliveries
  | canceled campaign happens store tokens flights deliveries => exact .inl deliveries
  | requeued store tokens flights deliveries => exact .inl deliveries
  | reset store tokens flights deliveries => exact .inl deliveries
  | rewired generation under makes transacted tokens flights deliveries => exact .inl deliveries
  | closed transacted tokens flights deliveries => exact .inl deliveries

private theorem effects_of_deliveries {told : List Effect} {about : ChangesetId}
    (deliveries : next.deliveries = told.map (about, ·) ++ system.deliveries) (id : ChangesetId) :
    next.effects id = (if about = id then told else []) ++ system.effects id := by
  simp only [effects, deliveries, List.filter_append, List.map_append]
  congr 1
  split
  · next same => simp [List.filter_map, Function.comp_def, same]
  · next other => simp [List.filter_map, Function.comp_def, other]

/-- What is newly told about a changeset in one event is what an attempt on it tells. -/
structure News (system next : System) (id : ChangesetId) (news : List Effect) : Prop where
  effects : next.effects id = news ++ system.effects id
  told {effect : Effect} (member : effect ∈ news) : ∃ number flight,
    next.flights number = some flight ∧ flight.claimed.id = id ∧ effect ∈ flight.told
  known {number : Nat} {flight : Flight} (under : next.flights number = some flight)
    (here : flight.claimed.id = id) {effect : Effect} (member : effect ∈ flight.told) :
    effect ∈ news ∨ ∃ before, system.flights number = some before ∧ before.claimed.id = id ∧
      effect ∈ before.told

theorem Transition.news (happens : Transition system event next) (id : ChangesetId) :
    ∃ news, News system next id news := by
  have known : ∀ {news number flight}, next.effects id = news ++ system.effects id →
      next.flights number = some flight → flight.claimed.id = id → ∀ {effect},
      effect ∈ flight.told → effect ∈ news ∨ ∃ before, system.flights number = some before ∧
        before.claimed.id = id ∧ effect ∈ before.told := by
    intro news number flight grown under here effect member
    cases happens.flies under with
    | stays before => exact .inr ⟨flight, before, here, member⟩
    | asked happened before asks moves answered deliveries same =>
      subst same
      rcases List.mem_append.mp member with new | old
      · have same := effects_of_deliveries deliveries id
        rw [grown, if_pos here] at same
        rw [List.append_cancel_right same]
        exact .inl new
      · exact .inr ⟨_, before, here, old⟩
    | claimed happened new below found begins stored leased =>
      subst begins
      cases member
  rcases happens.deliveries_eq with same | ⟨number, flight, told, under, said, deliveries⟩
  · have grown : next.effects id = [] ++ system.effects id := by simp only [effects, same]; rfl
    refine ⟨[], grown, ?_, known grown⟩
    intro effect member
    cases member
  · have grown := effects_of_deliveries deliveries id
    refine ⟨_, grown, ?_, known grown⟩
    intro effect member
    split at member
    · next here => exact ⟨number, flight, under, here, said _ member⟩
    · cases member

/-- An application is about to assign a spec to the changeset of a number, which may not exist
yet. -/
def Assigns (system : System) (event : Event) (id : ChangesetId) (spec : ChangesetSpec) : Prop :=
  ∃ number visible applying generation, event = .proceed number visible ∧
    system.applications number = some applying ∧ applying.Makes visible generation ∧
    (spec, system.store.changesets.find? id) ∈
      system.store.pairs generation.spec generation.campaign

/-- What the code host was told of a facet since the changeset `moved` got its spec, now that it is
`row`. -/
structure Tracks {α : Type} (facet : Facet α) (specs : Table .changesetSpec ChangesetSpec)
    (push : BranchPush) (moved row : Changeset) (sent : List Effect) : Prop where
  value {effect : Effect} {told : α} (member : effect ∈ sent)
    (carried : facet.carried? effect = some told) : told = facet.value push
  opened (before : moved.publication = .unpublished) (after : row.publication = .published) :
    facet.Told sent
  differs (before : moved.publication = .published) (told : facet.Told sent) :
    facet.Differs specs row
  completed (before : moved.publication = .published) (done : row.queueState = .completed)
    (differs : facet.Differs specs row) : facet.Told sent

/-- What is known of a changeset and of all facets of its spec since it got the spec. -/
structure Link (system : System) (id : ChangesetId) (spec : ChangesetSpec) (push : BranchPush)
    (moved row : Changeset) (sent : List Effect) : Prop where
  names : system.store.changesetSpecs.Names row.currentSpecId (some spec)
  pushes : spec.branchPush? = some push
  published (before : moved.publication = .published) : row.publication = .published
  tracks {α : Type} (facet : Facet α) :
    Tracks facet system.store.changesetSpecs push moved row sent
  flying {number : Nat} {flight : Flight} (under : system.flights number = some flight)
    (here : flight.claimed.id = id) {effect : Effect} (member : effect ∈ flight.told) :
    effect ∈ sent

variable {spec : ChangesetSpec} {push : BranchPush} {moved row after : Changeset}
  {sent news : List Effect}

private theorem Tracks.start {α : Type} (facet : Facet α)
    {specs : Table .changesetSpec ChangesetSpec} (queued : moved.queueState = .queued) :
    Tracks facet specs push moved moved [] where
  value member := by cases member
  opened before after := by
    rw [before] at after
    cases after
  differs _ told := by
    obtain ⟨effect, member, -⟩ := told
    cases member
  completed _ done := by
    rw [queued] at done
    cases done

/-- What is told goes on to be the value of the facet and no more than differs; a changeset becomes
published only by being opened, and is completed only if what differs was told. -/
theorem Tracks.step {α : Type} {facet : Facet α} {specs larger : Table .changesetSpec ChangesetSpec}
    (tracks : Tracks facet specs push moved row sent)
    (same : facet.Differs larger after ↔ facet.Differs specs row)
    (value : ∀ {effect told}, effect ∈ news → facet.carried? effect = some told →
      told = facet.value push)
    (opened : row.publication = .unpublished → after.publication = .published → facet.Told sent)
    (differs : ∀ {effect told}, effect ∈ news → facet.carried? effect = some told →
      moved.publication = .published → facet.Differs larger after)
    (completed : moved.publication = .published → after.queueState = .completed →
      facet.Differs specs row → row.queueState = .completed ∨ facet.Told sent) :
    Tracks facet larger push moved after (news ++ sent) where
  value member carried := by
    rcases List.mem_append.mp member with recent | earlier
    · exact value recent carried
    · exact tracks.value earlier carried
  opened before done := by
    apply Facet.Told.append_right
    cases publication : row.publication with
    | published => exact tracks.opened before publication
    | unpublished => exact opened publication done
  differs before told := by
    obtain ⟨effect, member, value, carried⟩ := told
    rcases List.mem_append.mp member with recent | earlier
    · exact differs recent carried before
    · have told : facet.Told sent := ⟨effect, earlier, value, carried⟩
      exact same.mpr (tracks.differs before told)
  completed before done differing := by
    have differed := same.mp differing
    apply Facet.Told.append_right
    rcases completed before done differed with earlier | told
    · exact tracks.completed before earlier differed
    · exact told

/-- When a changeset has just got a spec, nothing was told of it yet. -/
theorem Link.start (names : next.store.changesetSpecs.Names moved.currentSpecId (some spec))
    (pushes : spec.branchPush? = some push) (queued : moved.queueState = .queued)
    (alone : ∀ number, next.flights number = none) : Link next id spec push moved moved [] where
  names := names
  pushes := pushes
  published before := before
  tracks facet := .start facet queued
  flying under := by
    rw [alone] at under
    cases under

/-- What is new was told by an attempt that claimed the changeset as it is. -/
theorem News.told_by (new : News system next id news) (sound : next.Sound) (ordered : next.Ordered)
    (stored : next.store.changesets.find? id = some after) {effect : Effect}
    (member : effect ∈ news) :
    ∃ flight : Flight, flight.claimed = after ∧ flight.Course next.store.changesetSpecs ∧
      effect ∈ flight.told := by
  obtain ⟨number, flight, under, rfl, said⟩ := new.told member
  have same := ordered.stored under
  rw [stored] at same
  exact ⟨flight, (Option.some.inj same).symm, (sound.flight under).course, said⟩

/-- What is known goes on to be known, if the changeset keeps its specs, becomes published only by
being opened, and is completed only if what differs was told. -/
theorem Link.step (link : Link system id spec push moved row sent) (sound : system.Sound)
    (ordered : system.Ordered) (happens : Transition system event next) (soundNext : next.Sound)
    (orderedNext : next.Ordered) (found : system.store.changesets.find? id = some row)
    (stored : next.store.changesets.find? id = some after)
    (held : after.isOwnedAndAttached = true)
    (current : after.currentSpecId = row.currentSpecId)
    (previous : after.previousSpecId = row.previousSpecId)
    (published : row.publication = .published → after.publication = .published)
    (opened : ∀ {α : Type} (facet : Facet α), row.publication = .unpublished →
      after.publication = .published → facet.Told sent)
    (completed : ∀ {α : Type} (facet : Facet α), row.publication = .published →
      after.queueState = .completed → facet.Differs system.store.changesetSpecs row →
      row.queueState = .completed ∨ facet.Told sent)
    (new : News system next id news) : Link next id spec push moved after (news ++ sent) where
  names := by
    rw [current]
    exact link.names.mono fun found => happens.find?_changesetSpecs sound.numbered found
  pushes := link.pushes
  published before := published (link.published before)
  tracks := by
    intro α facet
    have grown : ∀ {id spec}, system.store.changesetSpecs.find? id = some spec →
        next.store.changesetSpecs.find? id = some spec :=
      fun found => happens.find?_changesetSpecs sound.numbered found
    have names : next.store.changesetSpecs.Names after.currentSpecId (some spec) := by
      rw [current]
      exact link.names.mono grown
    have same : facet.Differs next.store.changesetSpecs after ↔
        facet.Differs system.store.changesetSpecs row := by
      rw [← Facet.differs_grown_iff (ordered.row found) grown]
      constructor
      · exact fun differs => differs.congr current.symm previous.symm
      · exact fun differs => differs.congr current previous
    refine (link.tracks facet).step same ?_ (opened facet) ?_ ?_
    · intro effect told member carried
      obtain ⟨flight, rfl, course, said⟩ := new.told_by soundNext orderedNext stored member
      obtain ⟨now, branch, namesNow, pushesNow, same⟩ := facet.told_eq_value course said carried
      cases names.unique namesNow
      cases link.pushes.symm.trans pushesNow
      exact same
    · intro effect told member carried before
      obtain ⟨flight, rfl, course, said⟩ := new.told_by soundNext orderedNext stored member
      have steady := orderedNext.steady stored held
      exact facet.differs_of_told course steady (published (link.published before)) said carried
    · intro before done differs
      exact completed facet (link.published before) done differs
  flying under here effect member := by
    rcases new.known under here member with recent | ⟨before, underBefore, same, said⟩
    · exact List.mem_append_left _ recent
    · exact List.mem_append_right _ (link.flying underBefore same said)

/-- How a changeset that its campaign holds came to be as it is after an event. -/
inductive Comes (system : System) (event : Event) (id : ChangesetId) (after : Changeset) : Prop
  | assigned {spec : ChangesetSpec} (assigns : system.Assigns event id spec)
      (stored : system.store.changesetSpecs.find? spec.id = some spec)
      (current : after.currentSpecId = some spec.id) (queued : after.queueState = .queued)
  | kept {row : Changeset} (found : system.store.changesets.find? id = some row)
      (held : row.isOwnedAndAttached = true) (current : after.currentSpecId = row.currentSpecId)
      (previous : after.previousSpecId = row.previousSpecId)
      (publication : after.publication = row.publication)
      (completed : after.queueState = .completed → row.queueState = .completed)
  | concluded {row : Changeset} {number : Nat} {policy : RetryPolicy} {flight : Flight}
      {failure : Option ReconcileError} {outcome : Changeset} {closing : Bool}
      (found : system.store.changesets.find? id = some row) (held : row.isOwnedAndAttached = true)
      (under : system.flights number = some flight) (here : flight.claimed.id = id)
      (stopped : flight.attempt.stage = .settled failure)
      (settled : flight.attempt.row.settled? policy failure system.now = some outcome)
      (same : after = row.withOutcome outcome closing)

/-- A changeset that its campaign holds got a spec from an application, keeps the one it had, or was
written back. -/
theorem Change.comes {before later : Option Changeset} {lease lease' : Option LeaseRecord}
    (change : Change system event next id before lease later lease') (sound : system.Sound)
    (ordered : system.Ordered) (found : system.store.changesets.find? id = before)
    (present : later = some after) (held : after.isOwnedAndAttached = true)
    (lasting : ∀ closure, event ≠ .close closure) : Comes system event id after := by
  cases change with
  | still same => exact .kept (found.trans present) held rfl rfl rfl fun done => done
  | claimed happens due mark =>
    cases present
    exact .kept found held rfl rfl rfl fun done => by cases done
  | concluded happens under stopped gone settled here token =>
    obtain ⟨row, rfl, rfl⟩ := Option.map_eq_some_iff.mp present
    exact .concluded found held under here stopped settled rfl
  | canceled happens waiting =>
    cases present
    exact .kept found held rfl rfl rfl fun done => by cases done
  | requeued happens due =>
    cases present
    exact .kept found held rfl rfl rfl fun done => by cases done
  | reset happens expired =>
    obtain ⟨row, rfl, rfl⟩ := Option.map_eq_some_iff.mp present
    simp only [Changeset.released] at held ⊢
    split at held
    · next busy =>
      rw [if_pos busy]
      exact .kept found held rfl rfl rfl fun done => by cases done
    · next idle =>
      rw [if_neg idle]
      exact .kept found held rfl rfl rfl fun done => done
  | rewired generation happens under makes fate =>
    subst present
    cases fate with
    | kept => exact .kept found held rfl rfl rfl fun done => done
    | left unwanted decided =>
      obtain ⟨heldBefore, rfl⟩ := Placement.held_of_ofDropped decided held
      exact .kept found heldBefore rfl rfl rfl fun done => done
    | @followed row spec paired =>
      have stored := sound.numbered.find?_of_paired paired
      obtain ⟨push, pushes⟩ := ordered.pushes stored
      rw [← found] at paired
      have moved := row.following_eq generation.campaign generation.now pushes
      exact .assigned ⟨_, _, _, generation, happens, under, makes, paired⟩ stored
        (by rw [moved]; rfl) (by rw [moved]; rfl)
    | @created spec repo paired located fresh =>
      have stored := sound.numbered.find?_of_paired paired
      obtain ⟨push, pushes⟩ := ordered.pushes stored
      rw [← found] at paired
      obtain ⟨current, queued⟩ := Changeset.ofSpec_of_push generation.campaign generation.now repo
        id pushes
      exact .assigned ⟨_, _, _, generation, happens, under, makes, paired⟩ stored current queued
  | closed happens fate => exact absurd happens (lasting _)

/-- A write-back keeps what is known: the attempt told what it published or completed. -/
theorem Link.concluded (link : Link system id spec push moved row sent) (sound : system.Sound)
    (ordered : system.Ordered) (allows : system.Allows event)
    (found : system.store.changesets.find? id = some row)
    (heldBefore : row.isOwnedAndAttached = true)
    {number : Nat} {policy : RetryPolicy} {flight : Flight} {failure : Option ReconcileError}
    {outcome : Changeset} {closing : Bool} (under : system.flights number = some flight)
    (here : flight.claimed.id = id) (stopped : flight.attempt.stage = .settled failure)
    (settled : flight.attempt.row.settled? policy failure system.now = some outcome)
    (stored : (system.step event).store.changesets.find? id =
      some (row.withOutcome outcome closing))
    (held : (row.withOutcome outcome closing).isOwnedAndAttached = true)
    (new : News system (system.step event) id news) :
    Link (system.step event) id spec push moved (row.withOutcome outcome closing)
      (news ++ sent) := by
  have mine := sound.flight under
  have claimed : flight.claimed = row := by
    have present := ordered.stored under
    rw [here, found] at present
    exact (Option.some.inj present).symm
  have known : outcome.publication = flight.attempt.row.publication ∧
      (outcome.queueState = .completed → failure = none) := by
    obtain ⟨rfl, rfl⟩ | ⟨error, retryAt, rfl, rfl⟩ := Changeset.settled?_eq_some settled
    · exact ⟨rfl, fun _ => rfl⟩
    · exact ⟨rfl, fun done => by cases done⟩
  refine link.step sound ordered (System.transition sound.numbered event) (sound.step event)
    (ordered.step sound allows) found stored held rfl rfl ?_ ?_ ?_ new
  · intro before
    exact known.1.trans (mine.course.published (claimed ▸ before))
  · intro α facet before done
    obtain ⟨effect, member, told⟩ :=
      facet.told_of_opened mine.course (claimed ▸ before) (known.1.symm.trans done)
    exact ⟨effect, link.flying under here member, told⟩
  · intro α facet before done differs
    have busy : row.queueState = .processing := claimed ▸ mine.claimed
    have finished : outcome.queueState = .completed := by
      simpa [Changeset.withOutcome, busy] using done
    cases known.2 finished
    subst claimed
    obtain ⟨effect, member, told⟩ :=
      facet.told_of_differs mine.course stopped (ordered.steady found heldBefore) before differs
    exact .inr ⟨effect, link.flying under here member, told⟩

/-- The last time that a changeset got a spec: since then, it has named the same two specs. -/
structure Assigned (origin : System) (before : List Event) (event : Event) (after : List Event)
    (id : ChangesetId) (spec : ChangesetSpec) (moved : Changeset) : Prop where
  assigns : (origin.run before).Assigns event id spec
  stored : (origin.run (before ++ [event])).store.changesets.find? id = some moved
  current : moved.currentSpecId = some spec.id
  since : ∀ earlier later, after = earlier ++ later → ∃ row,
    (origin.run (before ++ event :: earlier)).store.changesets.find? id = some row ∧
      row.currentSpecId = moved.currentSpecId ∧ row.previousSpecId = moved.previousSpecId

private theorem Assigned.init {before : List Event} {cause : Event}
    (assigns : (origin.run before).Assigns cause id spec)
    (stored : (origin.run (before ++ [cause])).store.changesets.find? id = some moved)
    (current : moved.currentSpecId = some spec.id) :
    Assigned origin before cause [] id spec moved := by
  refine ⟨assigns, stored, current, ?_⟩
  intro earlier later split
  obtain ⟨rfl, -⟩ := List.append_eq_nil_iff.mp split.symm
  exact ⟨moved, stored, rfl, rfl⟩

private theorem Assigned.concat {before after : List Event} {cause : Event}
    (assigned : Assigned origin before cause after id spec moved)
    (found : (origin.run (before ++ cause :: (after ++ [event]))).store.changesets.find? id =
      some row)
    (current : row.currentSpecId = moved.currentSpecId)
    (previous : row.previousSpecId = moved.previousSpecId) :
    Assigned origin before cause (after ++ [event]) id spec moved := by
  refine ⟨assigned.assigns, assigned.stored, assigned.current, ?_⟩
  intro earlier later split
  rcases List.append_eq_append_iff.mp split with ⟨rest, rfl, final⟩ | ⟨rest, rfl, -⟩
  · rcases List.append_eq_singleton_iff.mp final.symm with ⟨rfl, -⟩ | ⟨rfl, -⟩
    · rw [List.append_nil]
      exact assigned.since after [] (by simp)
    · exact ⟨row, found, current, previous⟩
  · exact assigned.since earlier rest rfl

/-- Applications leave attempts alone. -/
theorem flights_proceed (system : System) (number : Nat) (visible : Visibility) :
    (system.step (.proceed number visible)).flights = system.flights := by
  simp only [step]
  split <;> rfl

/-- A changeset got the specs that it names at some time in a run, and what is known of it is known
since then. -/
inductive Traced (origin : System) (events : List Event) (id : ChangesetId) (row : Changeset) : Prop
  | since {before after : List Event} {event : Event} {spec : ChangesetSpec} {push : BranchPush}
      {moved : Changeset} {sent : List Effect} (split : events = before ++ event :: after)
      (assigned : Assigned origin before event after id spec moved)
      (current : row.currentSpecId = moved.currentSpecId)
      (previous : row.previousSpecId = moved.previousSpecId)
      (link : Link (origin.run events) id spec push moved row sent)
      (effects : (origin.run events).effects id = sent ++ (origin.run before).effects id)

private theorem Traced.concat {former : Changeset} (traced : Traced origin events id former)
    (found : (origin.run (events ++ [event])).store.changesets.find? id = some row)
    (current : row.currentSpecId = former.currentSpecId)
    (previous : row.previousSpecId = former.previousSpecId)
    (grown : (origin.run (events ++ [event])).effects id = news ++ (origin.run events).effects id)
    (links : ∀ {spec push moved sent}, Link (origin.run events) id spec push moved former sent →
      Link (origin.run (events ++ [event])) id spec push moved row (news ++ sent)) :
    Traced origin (events ++ [event]) id row := by
  obtain @⟨before, after, cause, spec, push, moved, sent, split, assigned, same, samePrevious, link,
    effects⟩ := traced
  subst split
  have kept := current.trans same
  have keptPrevious := previous.trans samePrevious
  have longer : before ++ cause :: after ++ [event] = before ++ cause :: (after ++ [event]) := by
    simp
  have since := assigned.concat (longer ▸ found) kept keptPrevious
  refine .since longer since kept keptPrevious (links link) ?_
  rw [grown, effects, List.append_assoc]

/-- A changeset that an application has just assigned a spec got it at the end of the run. -/
theorem Traced.assigned (sound : (origin.run events).Sound) (ordered : (origin.run events).Ordered)
    (allows : (origin.run events).Allows event)
    (assigns : (origin.run events).Assigns event id spec)
    (stored : (origin.run events).store.changesetSpecs.find? spec.id = some spec)
    (found : (origin.run (events ++ [event])).store.changesets.find? id = some row)
    (current : row.currentSpecId = some spec.id) (queued : row.queueState = .queued)
    (new : News (origin.run events) (origin.run (events ++ [event])) id news) :
    Traced origin (events ++ [event]) id row := by
  obtain ⟨push, pushes⟩ := ordered.pushes stored
  have alone : ∀ number, (origin.run (events ++ [event])).flights number = none := by
    obtain ⟨number, visible, -, -, rfl, -⟩ := assigns
    rw [run_append, run_cons, run_nil, flights_proceed]
    exact allows.alone rfl
  have silent : news = [] := by
    apply List.eq_nil_iff_forall_not_mem.mpr
    intro effect member
    obtain ⟨number, flight, under, -⟩ := new.told member
    rw [alone] at under
    cases under
  have names : (origin.run (events ++ [event])).store.changesetSpecs.Names row.currentSpecId
      (some spec) := by
    rw [current, run_append, run_cons, run_nil]
    exact .row ((System.transition sound.numbered event).find?_changesetSpecs sound.numbered stored)
  exact .since rfl (.init assigns found current) rfl rfl (.start names pushes queued alone)
    (silent ▸ new.effects)

/-- Every changeset that its campaign holds got its spec at some time. -/
theorem traced_of_held (sound : origin.Sound) (ordered : origin.Ordered)
    (empty : ∀ id, origin.store.changesets.find? id = none) (sequential : origin.Sequential events)
    {row : Changeset} (found : (origin.run events).store.changesets.find? id = some row)
    (held : row.isOwnedAndAttached = true) : Traced origin events id row := by
  induction events using List.reverseRecOn generalizing row with
  | nil =>
    rw [run_nil, empty] at found
    cases found
  | append_singleton events event ih =>
    obtain ⟨earlier, allows, -⟩ := sequential_append.mp sequential
    have here := sound.run events
    have orderedHere := ordered.run sound earlier
    have happens := System.transition here.numbered event
    have last : origin.run (events ++ [event]) = (origin.run events).step event := by
      rw [run_append, run_cons, run_nil]
    obtain ⟨news, new⟩ := happens.news id
    have stored := found
    rw [last] at stored
    have comes := (happens.change here id).comes here orderedHere rfl stored held allows.lasting
    cases comes with
    | assigned assigns known current queued =>
      exact .assigned here orderedHere allows assigns known found current queued (last ▸ new)
    | kept foundFormer heldFormer current previous publication completed =>
      refine (ih earlier foundFormer heldFormer).concat found current previous
        (last ▸ new.effects) fun link => ?_
      rw [last]
      refine link.step here orderedHere happens (here.step event) (orderedHere.step here allows)
        foundFormer stored held current previous publication.trans ?_ ?_ new
      · intro α facet before done
        rw [publication, before] at done
        cases done
      · intro α facet _ done _
        exact .inl (completed done)
    | concluded foundFormer heldFormer under about stopped settled same =>
      subst same
      refine (ih earlier foundFormer heldFormer).concat found rfl rfl (last ▸ new.effects)
        fun link => ?_
      rw [last]
      exact link.concluded here orderedHere allows foundFormer heldFormer under about stopped
        settled stored held new

/-- A changeset that is published and completed shows a facet of its spec exactly if it was
unpublished when it got the spec, the facet differs, or the code host was told the same before. -/
theorem Link.lastTold_iff {α : Type} (facet : Facet α) {former : System}
    (link : Link system id spec push moved row sent)
    (effects : system.effects id = sent ++ former.effects id)
    (published : row.publication = .published) (completed : row.queueState = .completed) :
    system.lastTold facet id = some (facet.value push) ↔
      moved.publication = .unpublished ∨ facet.Differs system.store.changesetSpecs row ∨
        former.lastTold facet id = some (facet.value push) := by
  have tracks := link.tracks facet
  by_cases told : facet.Told sent
  · refine iff_of_true (lastTold_of_told effects told tracks.value) ?_
    cases before : moved.publication with
    | unpublished => exact .inl rfl
    | published => exact .inr (.inl (tracks.differs before told))
  · rw [lastTold_of_not_told effects told]
    constructor
    · exact fun same => .inr (.inr same)
    · rintro (unpublished | differs | same)
      · exact absurd (tracks.opened unpublished published) told
      · cases before : moved.publication with
        | unpublished => exact absurd (tracks.opened before published) told
        | published => exact absurd (tracks.completed before completed differs) told
      · exact same

/-- In every run that starts with the empty store, in which attempts are left alone, specs push
branches, no campaign is closed and no pull request is reported as closed or merged, whatever else
fails: a changeset that its campaign holds and that is published and completed got its spec from an
application. The commit that was pushed for it last is the one of its spec exactly if the changeset
was unpublished when it got the spec, or the previous spec that the application noted has another
commit, or the same commit had been pushed last by then. The text that its pull request was opened
or edited with last is the one of its spec under the same condition on texts. -/
theorem completed_shows_spec_iff (faults : List Fault) (now : Time) (events : List Event)
    (sequential : (start faults now).Sequential events) (id : ChangesetId) (row : Changeset)
    (found : ((start faults now).run events).store.changesets.find? id = some row)
    (held : row.isOwnedAndAttached = true) (published : row.publication = .published)
    (completed : row.queueState = .completed) :
    ∃ before event after spec push moved, events = before ++ event :: after ∧
      Assigned (start faults now) before event after id spec moved ∧
      row.currentSpecId = some spec.id ∧ row.previousSpecId = moved.previousSpecId ∧
      ((start faults now).run events).store.changesetSpecs.find? spec.id = some spec ∧
      spec.branchPush? = some push ∧
      (((start faults now).run events).lastTold .commit id = some push.commit ↔
        moved.publication = .unpublished ∨
          Facet.commit.Differs ((start faults now).run events).store.changesetSpecs row ∨
          ((start faults now).run before).lastTold .commit id = some push.commit) ∧
      (((start faults now).run events).lastTold .text id = some push.text ↔
        moved.publication = .unpublished ∨
          Facet.text.Differs ((start faults now).run events).store.changesetSpecs row ∨
          ((start faults now).run before).lastTold .text id = some push.text) := by
  obtain @⟨before, after, event, spec, push, moved, sent, split, assigned, current, previous, link,
    effects⟩ :=
    traced_of_held (sound_start faults now) (ordered_start faults now) (fun _ => rfl) sequential
      found held
  have named := current.trans assigned.current
  have stored : ((start faults now).run events).store.changesetSpecs.find? spec.id = some spec := by
    have names := link.names
    rw [named] at names
    cases names with
    | row stored => exact stored
  exact ⟨before, event, after, spec, push, moved, split, assigned, named, previous, stored,
    link.pushes, link.lastTold_iff .commit effects published completed,
    link.lastTold_iff .text effects published completed⟩

end System

-- The second generation changes title and commit, and its push fails after the title was edited.
-- The third one goes back to the first title.
namespace Sample

/-- A code host that refuses pushes. -/
def refusal : HostReply := { reply with push := .error (.rejected "no") }

/-- Three generations; the first one is applied and reconciled. -/
def firstGeneration : List Event :=
  [.putRepo repo, .addCampaignSpec (campaignSpec "a"), .addChangesetSpec (spec 1 "a" "a"),
    .addCampaignSpec (campaignSpec "b"), .addChangesetSpec (spec 3 "b" "b"),
    .addCampaignSpec (campaignSpec "c"), .addChangesetSpec (spec 5 "a" "c")] ++
    apply "a" ++ attempt 0 5 ++ [.conclude 0 {}]

/-- The second one edits the title and fails to push. -/
def secondGeneration : List Event :=
  firstGeneration ++ apply "b" ++ attempt 1 5 ++ [.ask 1 {} refusal, .conclude 1 {}]

def thirdGeneration : List Event :=
  secondGeneration ++ apply "c" ++ attempt 2 8 ++ [.conclude 2 {}]

end Sample

open Sample in
/-- After the third generation, the commit is the one of the spec, and the text is not: the
changeset was published, the texts of its two specs agree, and another text was told last. -/
theorem System.completed_shows_spec_iff_third :
    ∃ (row : Changeset) (spec : ChangesetSpec) (moved : Changeset) (former : List Event),
      ((start [] (instant 0)).run thirdGeneration).store.changesets.find? ⟨8⟩ = some row ∧
      row.queueState = .completed ∧ row.currentSpecId = some spec.id ∧
      spec.branchPush? = some (push "a" "c") ∧ moved.publication = .published ∧
      (Facet.commit.Differs ((start [] (instant 0)).run thirdGeneration).store.changesetSpecs row ∨
        ((start [] (instant 0)).run former).lastTold .commit ⟨8⟩ = some (push "a" "c").commit) ∧
      ¬ Facet.text.Differs ((start [] (instant 0)).run thirdGeneration).store.changesetSpecs row ∧
      ((start [] (instant 0)).run former).lastTold .text ⟨8⟩ ≠ some (push "a" "c").text := by
  obtain ⟨row, found, held, published, completed, current⟩ : ∃ row,
      ((start [] (instant 0)).run thirdGeneration).store.changesets.find? ⟨8⟩ = some row ∧
      row.isOwnedAndAttached = true ∧ row.publication = .published ∧ row.queueState = .completed ∧
      row.currentSpecId = some ⟨6⟩ := by
    obtain ⟨row, found, known⟩ := Option.map_eq_some_iff.mp (show
      (((start [] (instant 0)).run thirdGeneration).store.changesets.find? ⟨8⟩).map (fun row =>
        (row.isOwnedAndAttached, row.publication, row.queueState, row.currentSpecId)) =
        some (true, .published, .completed, some ⟨6⟩) by decide +kernel)
    simp only [Prod.mk.injEq] at known
    exact ⟨row, found, known⟩
  have sequential := (sound_start [] (instant 0)).sequential (show
    (start [] (instant 0)).permitsAll thirdGeneration = true by decide +kernel)
  obtain ⟨before, event, after, spec, branch, moved, -, -, named, -, stored, pushes, commits,
    texts⟩ := completed_shows_spec_iff [] (instant 0) thirdGeneration sequential ⟨8⟩ row found held
      published completed
  have same : spec.id = ⟨6⟩ := (Option.some.inj (current.symm.trans named)).symm
  have pushed : ((((start [] (instant 0)).run thirdGeneration).store.changesetSpecs.find? ⟨6⟩).bind
      ChangesetSpec.branchPush?) = some (push "a" "c") := by decide +kernel
  rw [← same, stored, Option.bind_some, pushes] at pushed
  cases pushed
  have commit : ((start [] (instant 0)).run thirdGeneration).lastTold .commit ⟨8⟩ =
      some (push "a" "c").commit := by decide +kernel
  have text : ((start [] (instant 0)).run thirdGeneration).lastTold .text ⟨8⟩ ≠
      some (push "a" "c").text := by decide +kernel
  obtain ⟨notUnpublished, alike, older⟩ := not_or.mp (texts.not.mp text) |>.imp_right not_or.mp
  have wasPublished : moved.publication = .published := by
    cases publication : moved.publication with
    | unpublished => exact absurd publication notUnpublished
    | published => rfl
  exact ⟨row, spec, moved, before, found, completed, named, pushes, wasPublished,
    (commits.mp commit).resolve_left notUnpublished, alike, older⟩

open Sample in
/-- A changeset is completed, and its pull request has another title than its spec asks for. -/
theorem System.completed_shows_other_text :
    (start [] (instant 0)).Sequential thirdGeneration ∧ ∃ row current,
      ((start [] (instant 0)).run thirdGeneration).store.changesets.find? ⟨8⟩ = some row ∧
      row.isOwnedAndAttached = true ∧ row.publication = .published ∧ row.isOpen = true ∧
      row.queueState = .completed ∧ row.currentSpecId = some current ∧
      (((start [] (instant 0)).run thirdGeneration).store.changesetSpecs.find? current).bind
        ChangesetSpec.branchPush? = some (push "a" "c") ∧
      ((start [] (instant 0)).run thirdGeneration).lastTold .text ⟨8⟩ =
        some (push "b" "b").text ∧ (push "b" "b").text ≠ (push "a" "c").text := by
  refine ⟨(sound_start [] (instant 0)).sequential (by decide +kernel), ?_⟩
  obtain ⟨row, found, known⟩ := Option.map_eq_some_iff.mp (show
    (((start [] (instant 0)).run thirdGeneration).store.changesets.find? ⟨8⟩).map (fun row =>
      (row.isOwnedAndAttached, row.publication, row.isOpen, row.queueState, row.currentSpecId)) =
      some (true, .published, true, .completed, some ⟨6⟩) by decide +kernel)
  simp only [Prod.mk.injEq] at known
  obtain ⟨held, published, isOpen, completed, current⟩ := known
  refine ⟨row, ⟨6⟩, found, held, published, isOpen, completed, current, ?_, ?_, ?_⟩
  · decide +kernel
  · decide +kernel
  · decide

end BatchChanges
