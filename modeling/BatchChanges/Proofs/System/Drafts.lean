import BatchChanges.Proofs.Attempt.Draft
import BatchChanges.Proofs.System.Conduct
import BatchChanges.Proofs.System.Pursuit

/-! # Drafts that are to be published

A pull request that was opened as a draft is marked as ready if an application moves its changeset
from a draft straight on to a spec that is to be published. If every application finds all
changesets completed, there is no other way: with another spec in between, the planner takes that
one for what the pull request was made from, and the pull request stays a draft.
-/

namespace BatchChanges

/-- A pull request is a draft if it is opened as one, until it is marked as ready, and whatever else
is asked keeps it in the state on record. -/
def Conduct.obeys : Conduct
  | .create _ draft, _, state => state = if draft then .draft else .opened
  | .undraft _, _, state => state = .opened
  | _, known, state => known = none ∨ known = some state

instance (asked : HostRequest) (known : Option HostState) (state : HostState) :
    Decidable (Conduct.obeys asked known state) :=
  match asked with
  | .create _ _ | .undraft _ => inferInstanceAs (Decidable (state = _))
  | .update _ _ | .load _ | .close _ | .reopen _ =>
    inferInstanceAs (Decidable (known = none ∨ known = some state))

def Effect.grants? : Effect → Option HostState
  | .request (.create _ draft) => some (if draft then .draft else .opened)
  | .request (.undraft _) => some .opened
  | _ => none

/-- The state on record is the one that a pull request got last, or the one from before. -/
theorem Conduct.Leads.state_of_obeys {known state : Option HostState} {told : List Effect}
    (leads : Conduct.obeys.Leads known told state)
    (plain : known ≠ none ∨
      ∀ asked, .request asked ∈ told → (Effect.request asked).grants? ≠ none) :
    state = (told.findSome? Effect.grants?).or known := by
  induction leads with
  | still => rfl
  | pushed before ih =>
    exact ih (plain.imp_right fun granted asked member =>
      granted asked (List.mem_cons_of_mem _ member))
  | @answered told state asked reported before suits ih =>
    have earlier := ih (plain.imp_right fun granted asked member =>
      granted asked (List.mem_cons_of_mem _ member))
    have keeps : (Effect.request asked).grants? = none → (state = none ∨ state = some reported) →
        some reported = ((Effect.request asked :: told).findSome? Effect.grants?).or known := by
      intro silent kept
      rw [List.findSome?_cons, silent, ← earlier]
      rcases kept with unknown | same
      · rcases plain with known | granted
        · rw [unknown, eq_comm, Option.or_eq_none_iff] at earlier
          exact absurd earlier.2 known
        · exact absurd silent (granted asked List.mem_cons_self)
      · exact same.symm
    cases asked with
    | create push draft => exact congrArg some suits
    | undraft externalId => exact congrArg some suits
    | update externalId push => exact keeps rfl suits
    | load externalId => exact keeps rfl suits
    | close externalId => exact keeps rfl suits
    | reopen externalId => exact keeps rfl suits

private theorem Changeset.publication_ofSpec (campaign : CampaignId) (now : Time) (repo : Repo)
    (spec : ChangesetSpec) (id : ChangesetId)
    (owned : (ofSpec campaign now repo spec).ownerId ≠ none) :
    publication { ofSpec campaign now repo spec with id } = .unpublished := by
  simp only [ofSpec] at owned ⊢
  split at owned
  · exact absurd rfl owned
  · rfl

/-- A changeset that is tracked stays as it is in the queue, unless it has failed. -/
theorem Changeset.following_of_tracks {spec : ChangesetSpec} (row : Changeset)
    (campaign : CampaignId) (now : Time) (tracks : spec.branchPush? = none)
    (well : row.queueState ≠ .errored) :
    row.following campaign now spec =
      { row with campaignIds := row.campaignIds.add campaign, updatedAt := now } := by
  simp only [ChangesetSpec.branchPush?] at tracks
  simp only [following]
  split at tracks
  · cases tracks
  · next target => simp [target, well]

namespace System

variable {system next : System} {event : Event} {events : List Event} {id : ChangesetId}
  {row after : Changeset}

/-- An attempt on a pull request leaves it as it is, or marks it as ready as the specs say. -/
theorem Regular.kept_or_ready (regular : system.Regular .obeys) {number : Nat} {flight : Flight}
    (under : system.flights number = some flight)
    (published : flight.claimed.publication = .published)
    (known : flight.claimed.externalState ≠ none) :
    (flight.attempt.row.externalState = flight.claimed.externalState ∧
        ∀ externalId, .request (.undraft externalId) ∉ flight.told) ∨
      flight.attempt.row.externalState = some .opened ∧
        flight.claimed.Promoting system.store.changesetSpecs := by
  have course := (regular.sound.flight under).course
  have state := (regular.led number flight under).state_of_obeys (.inl known)
  cases granted : flight.told.findSome? Effect.grants? with
  | none =>
    rw [granted] at state
    refine .inl ⟨state, fun externalId told => ?_⟩
    cases List.findSome?_eq_none_iff.mp granted _ told
  | some given =>
    rw [granted] at state
    obtain ⟨effect, told, grants⟩ := List.exists_of_findSome?_eq_some granted
    right
    cases effect with
    | push branch => cases grants
    | pause => cases grants
    | request asked =>
      cases asked with
      | create push draft => exact absurd told (course.not_created published)
      | undraft externalId =>
        cases grants
        exact ⟨state, course.promoting_of_told told⟩
      | _ => cases grants

/-- An attempt that has succeeded has marked a draft as ready if the specs say so. -/
theorem Regular.ready_of_promoting (regular : system.Regular .obeys) {number : Nat}
    {flight : Flight} (under : system.flights number = some flight)
    (stopped : flight.attempt.stage = .settled none)
    (promoting : flight.claimed.Promoting system.store.changesetSpecs)
    (published : flight.claimed.publication = .published)
    (draft : flight.claimed.externalState = some .draft)
    (wanted : flight.claimed.closing = false) :
    flight.attempt.row.externalState = some .opened := by
  have known : flight.claimed.externalState ≠ none := by simp [draft]
  obtain ⟨externalId, told⟩ := (regular.sound.flight under).course.told_of_promoting stopped
    promoting published (by simp [draft]) (by simp [draft]) wanted
  rcases regular.kept_or_ready under published known with ⟨-, silent⟩ | ⟨ready, -⟩
  · exact absurd told (silent externalId)
  · exact ready

/-- An attempt that opens a pull request opens it as a draft exactly if its current spec says so. -/
theorem Regular.state_of_opened (regular : system.Regular .obeys) {number : Nat} {flight : Flight}
    (under : system.flights number = some flight)
    (before : flight.claimed.publication = .unpublished)
    (after : flight.attempt.row.publication = .published) :
    flight.attempt.row.externalState =
      some (if system.store.changesetSpecs.intent? flight.claimed.currentSpecId = some .draft
        then .draft else .opened) := by
  obtain ⟨push, draft, told, drafted, only⟩ :=
    (regular.sound.flight under).course.told_of_opened before after
  have state := (regular.led number flight under).state_of_obeys (.inr fun asked said => by
    obtain ⟨other, rfl⟩ := only asked said
    exact Option.some_ne_none _)
  cases granted : flight.told.findSome? Effect.grants? with
  | none => cases List.findSome?_eq_none_iff.mp granted _ told
  | some given =>
    obtain ⟨effect, said, grants⟩ := List.exists_of_findSome?_eq_some granted
    rw [state, granted, Option.some_or]
    cases effect with
    | push branch => cases grants
    | pause => cases grants
    | request asked =>
      obtain ⟨other, rfl⟩ := only asked said
      rw [← grants]
      simp only [Effect.grants?, drafted]

/-- Applications and closures find all changesets completed. -/
def Drained (system : System) (event : Event) : Prop :=
  event.editsCampaign = true →
    ∀ row ∈ system.store.changesets.rows, row.queueState = .completed

instance : Decidable (Drained system event) := inferInstanceAs (Decidable (_ → _))

private theorem Drained.completed (drained : Drained system event)
    (edits : event.editsCampaign = true) (found : system.store.changesets.find? id = some row) :
    row.queueState = .completed :=
  drained edits row (Table.mem_rows_iff.mpr ⟨id, found⟩)

/-- Every changeset under a lease is in processing. -/
def Busy (system : System) : Prop :=
  ∀ id row record, system.store.changesets.find? id = some row →
    system.store.leases.find? id = some record → row.queueState = .processing

private theorem busy_start (faults : List Fault) (now : Time) : (start faults now).Busy :=
  fun id row record found => by cases found

private theorem Busy.step (busy : system.Busy) (sound : system.Sound)
    (drained : Drained system event) : (system.step event).Busy := by
  intro id row record found leased
  have happens := System.transition sound.numbered event
  have change := happens.change sound id
  rw [found, leased] at change
  obtain ⟨held, leasedBefore, -⟩ | ⟨-, -, claimed, same, processing, -⟩ := change.record
  · obtain ⟨before, stored, -⟩ := leased_stays sound happens leasedBefore leased found
    have processing := busy id before held stored leasedBefore
    rw [stored, leasedBefore] at change
    refine change.busy processing rfl fun edits => ?_
    rw [drained.completed edits stored] at processing
    cases processing
  · cases same
    exact processing

/-- An application moves a changeset that is completed on to a branch push, or it names the same
specs as before and is not queued for them. -/
theorem Sound.moves_or_stays (sound : system.Sound)
    (found : system.store.changesets.find? id = some row)
    (stored : (system.step event).store.changesets.find? id = some after)
    (done : row.queueState = .completed) :
    (∃ spec push, system.MovesOn event id row spec after ∧ spec.branchPush? = some push) ∨
      after.currentSpecId = row.currentSpecId ∧ after.previousSpecId = row.previousSpecId ∧
        (after.queueState = .queued → after.closing = true) := by
  have kept : after.currentSpecId = row.currentSpecId ∧
      after.previousSpecId = row.previousSpecId ∧ after.queueState = row.queueState →
      after.currentSpecId = row.currentSpecId ∧ after.previousSpecId = row.previousSpecId ∧
        (after.queueState = .queued → after.closing = true) := by
    rintro ⟨current, previous, place⟩
    refine ⟨current, previous, fun queued => ?_⟩
    rw [place, done] at queued
    cases queued
  have change := (System.transition sound.numbered event).change sound id
  rw [found] at change
  generalize later : (system.step event).store.changesets.find? id = result at change
  generalize system.store.leases.find? id = lease,
    (system.step event).store.leases.find? id = lease' at change
  rw [later] at stored
  cases change with
  | still same =>
    cases stored
    exact .inr (kept ⟨rfl, rfl, rfl⟩)
  | claimed happens due mark =>
    cases stored
    exact .inr ⟨rfl, rfl, fun queued => by cases queued⟩
  | concluded happens under stopped gone settled here token =>
    cases stored
    exact .inr (kept ⟨rfl, rfl, by simp [Changeset.withOutcome, done]⟩)
  | canceled happens waiting => simp [Changeset.isCancelable, done] at waiting
  | requeued happens due => simp [Changeset.isRetryDue, done] at due
  | reset happens expired =>
    cases stored
    refine .inr (kept ?_)
    rw [show row.released = row by simp [Changeset.released, done]]
    exact ⟨rfl, rfl, rfl⟩
  | @rewired number visible applying _ _ _ generation happens under makes fate =>
    subst stored
    cases fate with
    | kept => exact .inr (kept ⟨rfl, rfl, rfl⟩)
    | left unwanted decided =>
      obtain ⟨-, rfl⟩ | ⟨-, rfl⟩ := Placement.ofDropped_eq_staged decided
      · exact .inr ⟨rfl, rfl, fun _ => rfl⟩
      · exact .inr (kept ⟨rfl, rfl, rfl⟩)
    | @followed _ spec paired =>
      cases pushes : spec.branchPush? with
      | some push =>
        exact .inl ⟨spec, push, ⟨found, later, number, visible, applying, generation, happens,
          under, makes, paired, rfl⟩, pushes⟩
      | none =>
        refine .inr (kept ?_)
        rw [row.following_of_tracks generation.campaign generation.now pushes (by simp [done])]
        exact ⟨rfl, rfl, rfl⟩
  | closed happens fate =>
    subst stored
    cases fate with
    | kept => exact .inr (kept ⟨rfl, rfl, rfl⟩)
    | closed attached opened => exact .inr ⟨rfl, rfl, fun _ => rfl⟩

/-- An application moves a changeset from a draft straight on to a branch push that is to be
published. -/
def Promotes (id : ChangesetId) (system : System) (event : Event) : Prop :=
  ∃ row spec push moved, system.MovesOn event id row spec moved ∧
    spec.branchPush? = some push ∧ push.published = .published ∧
    system.store.changesetSpecs.intent? row.currentSpecId = some .draft

private theorem not_promotes (quiet : event.editsCampaign = false) :
    ¬ Promotes id system event := by
  rintro ⟨row, spec, push, moved, ⟨-, -, number, visible, applying, generation, rfl, -⟩, -⟩
  cases quiet

/-- What is known of a pull request that was opened as a draft and not promoted since, or else is to
be ready as soon as its changeset is completed. -/
structure Tells (specs : Table .changesetSpec ChangesetSpec) (drafted : Prop) (row : Changeset) :
    Prop where
  draft (kept : drafted) : row.externalState = some .draft ∧ ¬ row.Promoting specs
  ready (moved : ¬ drafted) : row.externalState = some .opened ∨
    row.externalState = some .draft ∧ row.Promoting specs ∧ row.queueState ≠ .completed ∧
      row.closing = false

namespace Tells

variable {specs larger : Table .changesetSpec ChangesetSpec} {drafted later : Prop}

/-- A changeset that is completed shows whether its pull request was promoted. -/
theorem of_completed (tells : Tells specs drafted row) (done : row.queueState = .completed) :
    row.externalState = some .draft ↔ drafted := by
  constructor
  · intro state
    by_contra moved
    rcases tells.ready moved with opened | ⟨-, -, undone, -⟩
    · rw [state] at opened
      cases opened
    · exact undone done
  · exact fun kept => (tells.draft kept).1

/-- The place in the queue does not matter, unless it is the last one. -/
theorem congr (tells : Tells specs drafted row)
    (state : after.externalState = row.externalState)
    (same : after.Promoting larger ↔ row.Promoting specs)
    (done : after.queueState = .completed → row.queueState = .completed)
    (closing : after.closing = row.closing) : Tells larger drafted after where
  draft kept := by
    rw [state, same]
    exact tells.draft kept
  ready moved := by
    rw [state, same, closing]
    exact (tells.ready moved).imp_right fun ⟨draft, promoting, undone, wanted⟩ =>
      ⟨draft, promoting, fun final => undone (done final), wanted⟩

private theorem iff (tells : Tells specs drafted row) (same : drafted ↔ later) :
    Tells specs later row :=
  ⟨fun kept => tells.draft (same.mpr kept), fun moved => tells.ready (same.not.mpr moved)⟩

private theorem known (tells : Tells specs drafted row) :
    row.externalState = some .draft ∨ row.externalState = some .opened := by
  by_cases kept : drafted
  · exact .inl (tells.draft kept).1
  · exact (tells.ready kept).symm.imp_left (·.1)

end Tells

/-- What holds at all times if code hosts obey and campaigns wait for their changesets. -/
structure Tended (system : System) : Prop extends Regular .obeys system where
  busy : system.Busy

private theorem tended_run (faults : List Fault) (now : Time)
    (along : (start faults now).Along (Behaves .obeys) events)
    (drained : (start faults now).Along Drained events) :
    ((start faults now).run events).Tended where
  toRegular := regular_run faults now along
  busy := drained.keeps (sound_start faults now) (fun sound drained busy => busy.step sound drained)
    (busy_start faults now)

namespace Tended

variable {drafted : Prop}

/-- What is stored of specs stays. -/
theorem intent?_step (tended : system.Tended) (event : Event) {spec : Option ChangesetSpecId}
    (stored : ∀ {number}, spec = some number →
      ∃ known, system.store.changesetSpecs.find? number = some known) :
    (system.step event).store.changesetSpecs.intent? spec =
      system.store.changesetSpecs.intent? spec :=
  Table.intent?_grown stored fun found =>
    (System.transition tended.sound.numbered event).find?_changesetSpecs tended.sound.numbered found

private theorem current_stored (tended : system.Tended)
    (found : system.store.changesets.find? id = some row) {number : ChangesetSpecId}
    (named : row.currentSpecId = some number) :
    ∃ spec, system.store.changesetSpecs.find? number = some spec := by
  obtain ⟨spec, -, stored, -⟩ := (tended.grounded.row found).current named
  exact ⟨spec, stored⟩

/-- Specs that are stored later do not promote a changeset. -/
theorem promoting_step_iff (tended : system.Tended) (event : Event)
    (found : system.store.changesets.find? id = some row)
    (current : after.currentSpecId = row.currentSpecId)
    (previous : after.previousSpecId = row.previousSpecId) :
    after.Promoting (system.step event).store.changesetSpecs ↔
      row.Promoting system.store.changesetSpecs := by
  rw [Changeset.Promoting, Changeset.Promoting, current, previous,
    tended.intent?_step event (tended.grounded.row found).previous,
    tended.intent?_step event (tended.current_stored found)]

/-- An application that moves a completed changeset on promotes it, or the pull request stays as it
is. -/
theorem promoting_of_moves (tended : system.Tended) {spec : ChangesetSpec} {push : BranchPush}
    (moves : system.MovesOn event id row spec after) (pushes : spec.branchPush? = some push)
    (done : row.queueState = .completed) :
    after.Promoting (system.step event).store.changesetSpecs ↔ Promotes id system event := by
  have known := moves.known tended.sound
  obtain ⟨current, previous, -, -, -⟩ := moves.wanted pushes
  have rotated : after.previousSpecId = row.currentSpecId := by simpa [done] using previous
  have intent : system.store.changesetSpecs.intent? (some spec.id) = some push.published := by
    rw [Table.intent?, Option.bind_some, known, Option.bind_some, pushes, Option.map_some]
  rw [Changeset.Promoting, current, rotated, tended.intent?_step event
    (tended.current_stored moves.found), tended.intent?_step event (fun same => by
      cases same
      exact ⟨spec, known⟩), intent, Option.some.injEq]
  constructor
  · rintro ⟨draft, published⟩
    exact ⟨row, spec, push, after, moves, pushes, published, draft⟩
  · rintro ⟨other, chosen, branch, moved, movesToo, pushesToo, published, draft⟩
    cases moves.found.symm.trans movesToo.found
    cases moves.stored.symm.trans movesToo.stored
    have same := (movesToo.wanted pushesToo).1
    rw [current, Option.some.injEq] at same
    have knownToo := movesToo.known tended.sound
    rw [← same, known] at knownToo
    cases knownToo
    cases pushes.symm.trans pushesToo
    exact ⟨draft, published⟩

/-- What campaigns do to a completed changeset: they promote its pull request, or what is known of
it goes on. -/
theorem tells_of_edits (tended : system.Tended) (drained : Drained system event)
    (edits : event.editsCampaign = true)
    (found : system.store.changesets.find? id = some row)
    (stored : (system.step event).store.changesets.find? id = some after)
    (tells : Tells system.store.changesetSpecs drafted row) :
    Tells (system.step event).store.changesetSpecs (drafted ∧ ¬ Promotes id system event) after := by
  have done := drained.completed edits found
  have state : after.externalState = row.externalState := by
    have change := tended.change event id
    rw [found, stored] at change
    exact congrArg Prod.snd (change.standing_of_edits edits)
  have shows := tells.of_completed done
  rcases tended.sound.moves_or_stays found stored done with ⟨spec, push, moves, pushes⟩ |
    ⟨current, previous, waits⟩
  · have promoting := tended.promoting_of_moves moves pushes done
    obtain ⟨-, -, wanted, -, queued⟩ := moves.wanted pushes
    refine ⟨?_, ?_⟩
    · rintro ⟨kept, unmoved⟩
      exact ⟨state.trans (tells.draft kept).1, promoting.not.mpr unmoved⟩
    · intro moved
      rcases tells.known with draft | opened
      · refine .inr ⟨state.trans draft, promoting.mpr ?_, by simp [queued], wanted⟩
        by_contra unmoved
        exact moved ⟨shows.mp draft, unmoved⟩
      · exact .inl (state.trans opened)
  · have unmoved : ¬ Promotes id system event := by
      rintro ⟨other, spec, push, moved, moves, pushes, -⟩
      cases stored.symm.trans moves.stored
      obtain ⟨-, -, wanted, -, queued⟩ := moves.wanted pushes
      rw [waits queued] at wanted
      cases wanted
    have same := tended.promoting_step_iff event found current previous
    refine ⟨?_, ?_⟩
    · rintro ⟨kept, -⟩
      rw [state, same]
      exact tells.draft kept
    · intro moved
      rcases tells.known with draft | opened
      · exact absurd ⟨shows.mp draft, unmoved⟩ moved
      · exact .inl (state.trans opened)

/-- What attempts do about a pull request: it goes on as a draft, or is marked as ready when the
changeset is completed. -/
theorem tells_of_quiet (tended : system.Tended) (quiet : event.editsCampaign = false)
    (found : system.store.changesets.find? id = some row)
    (stored : (system.step event).store.changesets.find? id = some after)
    (published : row.publication = .published)
    (tells : Tells system.store.changesetSpecs drafted row) :
    Tells (system.step event).store.changesetSpecs drafted after := by
  have change := tended.change event id
  rw [found] at change
  obtain ⟨other, present, pursued⟩ := change.pursued rfl fun edits => by
    rw [quiet] at edits
    cases edits
  cases stored.symm.trans present
  cases pursued with
  | kept same =>
    subst same
    exact tells.congr rfl (tended.promoting_step_iff event found rfl rfl) (fun done => done) rfl
  | claimed due same flies =>
    subst same
    exact tells.congr rfl (tended.promoting_step_iff event found rfl rfl)
      (fun done => by cases done) rfl
  | placed idle waits aim standing =>
    refine tells.congr (congrArg Prod.snd standing) (tended.promoting_step_iff event found
      (Changeset.currentSpecId_of_aim aim) (Changeset.previousSpecId_of_aim aim)) ?_
      (Changeset.closing_of_aim aim)
    intro done
    rcases waits with queued | errored
    · rw [queued] at done
      cases done
    · rw [errored] at done
      cases done
  | @concluded number policy flight failure outcome record under here leased token stopped settled
      same =>
    subst same here
    have processing := tended.busy _ row record found leased
    have wishes := (tended.faithful.claim under leased token).2 row found processing
    have sight := tended.guards.claimed under leased token found
    have claimedState : flight.claimed.externalState = row.externalState :=
      (congrArg (·.1.2) sight).symm
    have claimedPublished : flight.claimed.publication = .published :=
      (congrArg (·.1.1) sight).symm.trans published
    have promotes : flight.claimed.Promoting system.store.changesetSpecs ↔
        row.Promoting system.store.changesetSpecs :=
      ⟨(·.congr (congrArg Prod.fst wishes) (congrArg (·.2.1) wishes)),
        (·.congr (congrArg Prod.fst wishes).symm (congrArg (·.2.1) wishes).symm)⟩
    have known : flight.claimed.externalState ≠ none := by
      rw [claimedState]
      rcases tells.known with state | state <;> simp [state]
    have state : (row.withOutcome outcome record.closingAtClaim).externalState =
        flight.attempt.row.externalState := congrArg Prod.snd (Changeset.standing_of_settled settled)
    have same : (row.withOutcome outcome record.closingAtClaim).Promoting
        (system.step event).store.changesetSpecs ↔
          row.Promoting system.store.changesetSpecs :=
      tended.promoting_step_iff event found rfl rfl
    -- A draft that is to be ready stays one only if the attempt has failed.
    rcases tended.kept_or_ready under claimedPublished known with ⟨kept, -⟩ | ⟨ready, promoting⟩
    · refine ⟨?_, ?_⟩
      · intro drafted
        rw [state, kept, claimedState, same]
        exact tells.draft drafted
      · intro moved
        rcases tells.ready moved with opened | ⟨draft, promoting, -, wanted⟩
        · exact .inl (by rw [state, kept, claimedState, opened])
        · obtain ⟨rfl, rfl⟩ | ⟨error, retryAt, rfl, rfl⟩ := Changeset.settled?_eq_some settled
          · left
            rw [state]
            exact tended.ready_of_promoting under stopped (promotes.mpr promoting) claimedPublished
              (claimedState.trans draft) ((congrArg (·.2.2) wishes).symm.trans wanted)
          · refine .inr ⟨?_, same.mpr promoting, ?_, ?_⟩
            · rw [state, kept, claimedState, draft]
            · simp [Changeset.withOutcome, processing, Changeset.errored]
            · simp [Changeset.withOutcome, wanted]
    · refine ⟨fun drafted => absurd (promotes.mp promoting) (tells.draft drafted).2, fun _ => ?_⟩
      exact .inl (state.trans ready)

/-- Every event promotes a pull request, or what is known of it goes on. -/
theorem tells_step (tended : system.Tended) (drained : Drained system event)
    (found : system.store.changesets.find? id = some row)
    (stored : (system.step event).store.changesets.find? id = some after)
    (published : row.publication = .published)
    (tells : Tells system.store.changesetSpecs drafted row) :
    Tells (system.step event).store.changesetSpecs (drafted ∧ ¬ Promotes id system event) after := by
  cases edits : event.editsCampaign with
  | true => exact tended.tells_of_edits drained edits found stored tells
  | false =>
    have goesOn := tended.tells_of_quiet edits found stored published tells
    exact goesOn.iff (iff_self_and.mpr fun _ => not_promotes edits)

/-- A changeset that becomes published has been opened as its spec says. -/
theorem tells_of_opened (tended : system.Tended)
    (found : system.store.changesets.find? id = some row)
    (stored : (system.step event).store.changesets.find? id = some after)
    (before : row.publication = .unpublished) (published : after.publication = .published) :
    Tells (system.step event).store.changesetSpecs
      (system.store.changesetSpecs.intent? row.currentSpecId = some .draft) after := by
  have change := tended.change event id
  have learns : after.standing ≠ row.standing := by
    intro same
    rw [show after.publication = row.publication from congrArg Prod.fst same, before] at published
    cases published
  rw [found] at change
  obtain ⟨other, present, pursued⟩ := change.pursued rfl fun edits => by
    rw [stored] at change
    exact absurd (change.standing_of_edits edits) learns
  cases stored.symm.trans present
  cases pursued with
  | kept same => exact absurd (congrArg _ same) learns
  | claimed due same flies => exact absurd (congrArg _ same) learns
  | placed idle waits aim standing => exact absurd standing learns
  | @concluded number policy flight failure outcome record under here leased token stopped settled
      same =>
    subst same here
    have wishes := (tended.faithful.claim under leased token).2 row found
      (tended.busy _ row record found leased)
    have sight := tended.guards.claimed under leased token found
    have standing : (row.withOutcome outcome record.closingAtClaim).standing =
        flight.attempt.row.standing := by
      rw [Changeset.standing_withOutcome, Changeset.standing_of_settled settled]
    have opened := tended.state_of_opened under ((congrArg (·.1.1) sight).symm.trans before)
      ((congrArg Prod.fst standing).symm.trans published)
    rw [show flight.claimed.currentSpecId = row.currentSpecId from
      (congrArg Prod.fst wishes).symm] at opened
    have state : (row.withOutcome outcome record.closingAtClaim).externalState =
        some (if system.store.changesetSpecs.intent? row.currentSpecId = some .draft
          then .draft else .opened) := (congrArg Prod.snd standing).trans opened
    have same : (row.withOutcome outcome record.closingAtClaim).Promoting
        (system.step event).store.changesetSpecs ↔
          row.Promoting system.store.changesetSpecs :=
      tended.promoting_step_iff event found rfl rfl
    refine ⟨fun drafted => ⟨?_, ?_⟩, fun other => .inl ?_⟩
    · rw [state, if_pos drafted]
    · rw [same]
      rintro ⟨-, ready⟩
      rw [drafted] at ready
      cases ready
    · rw [state, if_neg other]

end Tended

/-- A changeset becomes published at an event of a run. -/
structure Opens (origin : System) (before : List Event) (event : Event) (id : ChangesetId)
    (former : Changeset) : Prop where
  found : (origin.run before).store.changesets.find? id = some former
  unpublished : former.publication = .unpublished
  published : ∃ row, (origin.run (before ++ [event])).store.changesets.find? id = some row ∧
    row.publication = .published

/-- Every published changeset that a campaign created was opened at some time, and is known of
since. -/
theorem tells_since_opened (faults : List Fault) (now : Time)
    (along : (start faults now).Along (Behaves .obeys) events)
    (drained : (start faults now).Along Drained events)
    (found : ((start faults now).run events).store.changesets.find? id = some row)
    (owned : row.ownerId ≠ none) (published : row.publication = .published) :
    ∃ before event after former, events = before ++ event :: after ∧
      Opens (start faults now) before event id former ∧
      Tells ((start faults now).run events).store.changesetSpecs
        (((start faults now).run before).store.changesetSpecs.intent? former.currentSpecId =
            some .draft ∧
          ((start faults now).run (before ++ [event])).Along
            (fun system event => ¬ Promotes id system event) after) row := by
  -- The last event created the changeset, opened its pull request or found it opened before.
  induction events using List.reverseRecOn generalizing row with
  | nil => cases found
  | append_singleton events last ih =>
    obtain ⟨alongBefore, -⟩ := along_append.mp along
    obtain ⟨drainedBefore, drainedLast, -⟩ := along_append.mp drained
    have tended := tended_run faults now alongBefore drainedBefore
    have change := tended.change last id
    have final := found
    rw [run_append, run_cons, run_nil] at found
    rw [found] at change
    rw [run_append, run_cons, run_nil]
    cases stored : ((start faults now).run events).store.changesets.find? id with
    | none =>
      rw [stored] at change
      obtain ⟨_, _, _, generation, spec, repo, -, -, -, -, -, -, -, rfl⟩ := change.created
      rw [Changeset.publication_ofSpec generation.campaign generation.now repo spec id owned]
        at published
      cases published
    | some former =>
      rw [stored] at change
      cases publication : former.publication with
      | unpublished =>
        refine ⟨events, last, [], former, rfl, ⟨stored, publication, row, final, published⟩, ?_⟩
        exact (tended.tells_of_opened stored found publication published).iff
          (and_iff_left trivial).symm
      | published =>
        obtain ⟨before, event, after, opened, rfl, opens, tells⟩ :=
          ih alongBefore drainedBefore stored (change.ownerId ▸ owned) publication
        refine ⟨before, event, after ++ [last], opened, by simp, opens, ?_⟩
        refine (tended.tells_step drainedLast stored found publication tells).iff ?_
        have here : ((start faults now).run (before ++ [event])).run after =
            (start faults now).run (before ++ event :: after) := by
          rw [← run_append, List.append_assoc, List.singleton_append]
        rw [along_append, here, and_assoc]
        simp only [Along, and_true]

/-- In every run that starts with the empty store, whatever failures of the store lie ahead, in
which code hosts obey and campaigns are edited only when all changesets are completed: a changeset
that a campaign created is published and completed. Then it was opened at some time, and its pull
request is a draft exactly if the spec that it had then wanted a draft and no application has since
moved it from a draft straight on to a spec that is to be published. -/
theorem completed_is_draft_iff (faults : List Fault) (now : Time) (events : List Event)
    (along : (start faults now).Along (Behaves .obeys) events)
    (drained : (start faults now).Along Drained events) (id : ChangesetId) (row : Changeset)
    (found : ((start faults now).run events).store.changesets.find? id = some row)
    (owned : row.ownerId ≠ none) (published : row.publication = .published)
    (completed : row.queueState = .completed) :
    ∃ before event after former, events = before ++ event :: after ∧
      Opens (start faults now) before event id former ∧
      (row.externalState = some .draft ↔
        ((start faults now).run before).store.changesetSpecs.intent? former.currentSpecId =
            some .draft ∧
          ((start faults now).run (before ++ [event])).Along
            (fun system event => ¬ Promotes id system event) after) := by
  obtain ⟨before, event, after, former, split, opens, tells⟩ :=
    tells_since_opened faults now along drained found owned published
  exact ⟨before, event, after, former, split, opens, tells.of_completed completed⟩

end System

-- The first generation wants a draft, the second one is not to be published, and the third one is.
namespace Sample

/-- A generation of the changeset, to be published as intended. -/
def intending (generation : Int) (name : String) (intent : PublishIntent) : ChangesetSpec :=
  { spec generation "a" name with
    target := .branchPush { push "a" "a" with published := intent } }

/-- A code host that reports a draft. -/
def draftReply : HostReply :=
  { reply with request := .ok ⟨"101", "tidy", .draft, "", none, instant 0⟩ }

/-- Three generations, each of them applied and reconciled. -/
def drafting : List Event :=
  [.putRepo repo, .addCampaignSpec (campaignSpec "a"), .addChangesetSpec (intending 1 "a" .draft),
    .addCampaignSpec (campaignSpec "b"), .addChangesetSpec (intending 3 "b" .unpublished),
    .addCampaignSpec (campaignSpec "c"), .addChangesetSpec (intending 5 "c" .published)] ++
    apply "a" ++ attempt 0 4 ++ [.ask 0 {} draftReply, .conclude 0 {}] ++
    apply "b" ++ attempt 1 2 ++ [.conclude 1 {}] ++ apply "c" ++ attempt 2 2 ++ [.conclude 2 {}]

end Sample

open Sample in
/-- The code host obeys, and every application finds the changeset completed. -/
theorem System.drafting_tended :
    (start [] (instant 0)).Along (Behaves .obeys) drafting ∧
      (start [] (instant 0)).Along Drained drafting := by
  have suited : (start [] (instant 0)).Along
      (fun system event => system.suits .obeys event = true) drafting := by decide +kernel
  exact ⟨suited.mono (sound_start [] (instant 0)) fun _ => behaves_of_suits, by decide +kernel⟩

open Sample in
/-- After the third generation, the pull request is a draft: it was opened as one and not promoted
since. -/
theorem System.completed_is_draft_iff_drafting :
    ∃ row before event after former,
      ((start [] (instant 0)).run drafting).store.changesets.find? ⟨8⟩ = some row ∧
      row.externalState = some .draft ∧ drafting = before ++ event :: after ∧
      Opens (start [] (instant 0)) before event ⟨8⟩ former ∧
      ((start [] (instant 0)).run before).store.changesetSpecs.intent? former.currentSpecId =
        some .draft ∧
      ((start [] (instant 0)).run (before ++ [event])).Along
        (fun system event => ¬ Promotes ⟨8⟩ system event) after := by
  obtain ⟨obeys, drained⟩ := drafting_tended
  obtain ⟨row, found, owned, published, completed, draft⟩ : ∃ row,
      ((start [] (instant 0)).run drafting).store.changesets.find? ⟨8⟩ = some row ∧
      row.ownerId = some ⟨7⟩ ∧ row.publication = .published ∧ row.queueState = .completed ∧
      row.externalState = some .draft := by
    obtain ⟨row, found, known⟩ := Option.map_eq_some_iff.mp (show
      (((start [] (instant 0)).run drafting).store.changesets.find? ⟨8⟩).map (fun row =>
        (row.ownerId, row.publication, row.queueState, row.externalState)) =
        some (some ⟨7⟩, .published, .completed, some .draft) by decide +kernel)
    simp only [Prod.mk.injEq] at known
    exact ⟨row, found, known⟩
  obtain ⟨before, event, after, former, split, opens, same⟩ := completed_is_draft_iff []
    (instant 0) drafting obeys drained ⟨8⟩ row found (by simp [owned]) published completed
  exact ⟨row, before, event, after, former, found, draft, split, opens, same.mp draft⟩

open Sample in
/-- A changeset is completed and its spec is to be published, and its pull request is a draft. -/
theorem System.published_stays_draft :
    (start [] (instant 0)).Sequential drafting ∧
      (start [] (instant 0)).Along (Behaves .obeys) drafting ∧
      (start [] (instant 0)).Along Drained drafting ∧ ∃ row,
        ((start [] (instant 0)).run drafting).store.changesets.find? ⟨8⟩ = some row ∧
        row.isOwnedAndAttached = true ∧ row.queueState = .completed ∧
        row.publication = .published ∧
        ((start [] (instant 0)).run drafting).store.changesetSpecs.intent? row.currentSpecId =
          some .published ∧
        row.externalState = some .draft := by
  obtain ⟨obeys, drained⟩ := drafting_tended
  refine ⟨(sound_start [] (instant 0)).sequential (by decide +kernel), obeys, drained, ?_⟩
  obtain ⟨row, found, known⟩ := Option.map_eq_some_iff.mp (show
    (((start [] (instant 0)).run drafting).store.changesets.find? ⟨8⟩).map (fun row =>
      (row.isOwnedAndAttached, row.queueState, row.publication, row.currentSpecId,
        row.externalState)) =
      some (true, .completed, .published, some ⟨6⟩, some .draft) by decide +kernel)
  simp only [Prod.mk.injEq] at known
  obtain ⟨held, completed, published, current, draft⟩ := known
  refine ⟨row, found, held, completed, published, ?_, draft⟩
  rw [current]
  decide +kernel

end BatchChanges
