import BatchChanges.Proofs.System.CloseRequest
import BatchChanges.Proofs.System.Convergence
import BatchChanges.Proofs.System.Standing

/-! # Campaigns that are closed with their pull requests

A closure queues the pull requests of its campaign to be closed that are known to be open, and
leaves the other changesets as they are. One that waits to be published is still published after the
closure, and one that waits for its closed pull request is still reopened. No attempt that is
claimed after the closure opens the pull request of any other changeset of the campaign, as long as
nobody edits the campaign: what is to be closed, was merged or has left the campaign stays so, and
what waits for nothing goes on to wait for nothing.
-/

namespace BatchChanges

/-- Whether the code host is asked to open a pull request, for the first time or again. -/
def Question.opens : Question → Bool
  | .request _ (.create _ _) | .request _ (.reopen _) => true
  | _ => false

private theorem Question.asksHost_of_opens {question : Question} (opens : question.opens = true) :
    question.asksHost = true := by
  cases question with
  | request repo asked => rfl
  | _ => cases opens

private theorem Operation.opens_or_reopens {operation : Operation} {push : Option BranchPush}
    {row : Changeset} {effect : Effect} {repo : Repo}
    (acts : operation.effect push row = .ok (some effect))
    (opens : (effect.question repo).opens = true) :
    Plan.opens operation = true ∨ operation = .reopen := by
  cases performs_of_effect acts with
  | publish given => exact .inl rfl
  | publishDraft given => exact .inl rfl
  | reopen opened => exact .inr rfl
  | _ => cases opens

namespace Changeset

variable {campaign : CampaignId} {row after : Changeset}

/-- A changeset whose plans open no pull request, as long as the campaign that created it does not
take it up. -/
inductive Hushed (campaign : CampaignId) (row : Changeset) : Prop
  | closing (closing : row.closing = true)
  | merged (merged : row.isMerged = true)
  | left (published : row.publication = .published) (left : row.isAttachedTo campaign = false)

/-- Whether a plan for the changeset may open its pull request, for the first time or again. -/
def isToOpen (row : Changeset) : Bool :=
  !row.isMerged && !row.closing &&
    (!row.isPublished || row.externalState == some .closed && row.isOwnedAndAttached)

/-- Whether a changeset is to be processed, now or after a delay, or is being processed. -/
def waits (row : Changeset) : Bool :=
  match row.queueState with
  | .queued | .processing => true
  | .errored => row.processAfter.isSome
  | .completed => false

def Calm (campaign : CampaignId) (row : Changeset) : Prop :=
  row.Hushed campaign ∨ row.waits = false

/-- A changeset stays as it is, as far as closing its pull request is concerned. -/
structure Undisturbed (campaign : CampaignId) (row after : Changeset) : Prop where
  place : after.place = row.place
  closing : after.closing = row.closing
  standing : after.standing = row.standing
  attached : after.isAttachedTo campaign = row.isAttachedTo campaign

private theorem waits_of_place (same : after.place = row.place) : after.waits = row.waits := by
  have state : after.queueState = row.queueState := congrArg Prod.fst same
  have retry : after.processAfter = row.processAfter := congrArg (·.2.2.2) same
  simp only [waits, state, retry]

private theorem Hushed.congr (hushed : row.Hushed campaign) (closing : after.closing = row.closing)
    (standing : after.standing = row.standing)
    (attached : after.isAttachedTo campaign = row.isAttachedTo campaign) :
    after.Hushed campaign := by
  cases hushed with
  | closing wished => exact .closing (closing.trans wished)
  | merged merged =>
    refine .merged ?_
    rw [isMerged, show after.externalState = row.externalState from congrArg Prod.snd standing]
    exact merged
  | left published left =>
    exact .left ((congrArg Prod.fst standing).trans published) (attached.trans left)

private theorem Undisturbed.calm (undisturbed : row.Undisturbed campaign after)
    (calm : row.Calm campaign) : after.Calm campaign :=
  calm.imp
    (fun hushed => hushed.congr undisturbed.closing undisturbed.standing undisturbed.attached)
    fun idle => (waits_of_place undisturbed.place).trans idle

private theorem Hushed.not_isToOpen (hushed : row.Hushed campaign)
    (owned : row.ownerId = some campaign) : row.isToOpen = false := by
  cases hushed with
  | closing closing => simp [isToOpen, closing]
  | merged merged => simp [isToOpen, merged]
  | left published left => simp [isToOpen, isPublished, published, isOwnedAndAttached, owned, left]

/-- A plan for a changeset that is not to be opened closes its pull request or changes it, if
anything. -/
theorem opens_nothing {previous current : Option ChangesetSpec} {plan : Plan}
    {operation : Operation} (shut : row.isToOpen = false)
    (planned : Plan.determine previous current row = .ok plan)
    (member : operation ∈ plan.operations) :
    Plan.opens operation = false ∧ operation ≠ .reopen := by
  cases merged : row.isMerged with
  | true =>
    rw [Plan.determine_of_merged previous current merged] at planned
    cases planned
    cases member
  | false =>
    cases closing : row.closing with
    | true =>
      rw [Plan.determine_of_closing previous current closing, merged] at planned
      cases planned
      rw [List.mem_singleton.mp member]
      exact ⟨rfl, by decide⟩
    | false =>
      simp only [isToOpen, merged, closing, Bool.not_false, Bool.true_and, Bool.or_eq_false_iff,
        Bool.not_eq_false', isPublished, beq_iff_eq] at shut
      obtain ⟨published, wanted⟩ := shut
      cases Plan.decides_of_between planned with
      | merged merged => cases member
      | closing closing =>
        rw [List.mem_singleton.mp member]
        exact ⟨rfl, by decide⟩
      | reopening closed held => simp [closed, held] at wanted
      | loading pushless unsynced =>
        rw [List.mem_singleton.mp member]
        exact ⟨rfl, by decide⟩
      | tracking pushless => cases member
      | opening pushes unpublished =>
        rw [published] at unpublished
        cases unpublished
      | changing pushes published differs =>
        refine ⟨Plan.opens_of_mem_changing member, ?_⟩
        rintro rfl
        simp [Plan.changing] at member

end Changeset

namespace Flight.Course

variable {specs : Table .changesetSpec ChangesetSpec} {flight : Flight} {campaign : CampaignId}

/-- An attempt never asks the code host to open a pull request that was not to be opened when it
was claimed. -/
theorem opens_nothing (course : flight.Course specs) (shut : flight.claimed.isToOpen = false)
    {question : Question} {resume : question.Answer → Attempt}
    (asks : flight.attempt.next = .ask question resume) : question.opens = false := by
  rw [Bool.eq_false_iff]
  intro opens
  obtain ⟨previous, current, plan, operation, row, repo, effect, planned, member, acts, rfl⟩ :=
    course.acting_of_asksHost asks (Question.asksHost_of_opens opens)
  obtain ⟨silent, other⟩ := Changeset.opens_nothing shut planned member
  rcases Operation.opens_or_reopens acts opens with opening | reopening
  · rw [silent] at opening
    cases opening
  · exact other reopening

/-- An attempt that only closes its pull request has succeeded, or the wish to close stands. -/
theorem closing_or_succeeded (course : flight.Course specs)
    (closing : flight.claimed.closing = true) :
    flight.attempt.stage = .settled none ∨ flight.attempt.row.closing = true := by
  have short : ∀ {previous current plan},
      Plan.determine previous current flight.claimed = .ok plan → plan.operations.length ≤ 1 := by
    intro previous current plan planned
    rw [Plan.determine_of_closing previous current closing] at planned
    cases planned
    split <;> simp
  obtain succeeded | ⟨same, -⟩ := course.succeeded_or_idle short
  · exact .inl succeeded
  · exact .inr (same ▸ closing)

variable {row outcome : Changeset} {policy : RetryPolicy} {failure : Option ReconcileError}
  {now : Time}

/-- A write-back that finds a changeset in processing, and wished closed, completes it or leaves the
wish. -/
theorem calm_of_processing (course : flight.Course specs)
    (stopped : flight.attempt.stage = .settled failure)
    (settled : flight.attempt.row.settled? policy failure now = some outcome)
    (claimed : flight.claimed.closing = true) (processing : row.queueState = .processing)
    (wished : row.closing = true) (noted : Bool) : (row.withOutcome outcome noted).Calm campaign := by
  rcases course.closing_or_succeeded claimed with succeeded | stands
  · rw [stopped] at succeeded
    cases succeeded
    cases settled
    exact .inr (by simp [Changeset.waits, Changeset.withOutcome, Changeset.completed, processing])
  · have unfulfilled : outcome.closing = true := by
      rw [← stands]
      obtain ⟨-, rfl⟩ | ⟨error, retryAt, -, rfl⟩ := Changeset.settled?_eq_some settled <;> rfl
    exact .inl (.closing (by simp [Changeset.withOutcome, unfulfilled, wished]))

/-- A write-back leaves a calm changeset calm. If it takes the wish to close for fulfilled, then the
changeset was in processing, or has left the campaign. -/
theorem calm_withOutcome (course : flight.Course specs)
    (stopped : flight.attempt.stage = .settled failure)
    (settled : flight.attempt.row.settled? policy failure now = some outcome)
    (standing : row.standing = flight.claimed.standing)
    (wishes : row.queueState = .processing → row.wishes = flight.claimed.wishes) (noted : Bool)
    (busy : noted = true → row.queueState = .processing ∨
      row.publication = .published ∧ row.isAttachedTo campaign = false)
    (calm : row.Calm campaign) : (row.withOutcome outcome noted).Calm campaign := by
  have known : (row.withOutcome outcome noted).standing = flight.attempt.row.standing := by
    rw [Changeset.standing_withOutcome, Changeset.standing_of_settled settled]
  have gone : row.publication = .published → row.isAttachedTo campaign = false →
      (row.withOutcome outcome noted).Calm campaign := by
    intro published left
    have claimed : flight.claimed.publication = .published :=
      (congrArg Prod.fst standing).symm.trans published
    exact .inl (.left ((congrArg Prod.fst known).trans (course.published claimed)) left)
  rcases calm with hushed | idle
  · cases hushed with
    | closing wished =>
      by_cases processing : row.queueState = .processing
      · have claimed : flight.claimed.closing = true :=
          (congrArg (·.2.2) (wishes processing)).symm.trans wished
        exact course.calm_of_processing stopped settled claimed processing wished noted
      · -- It was queued again in the meantime, and stays in the queue.
        cases noted with
        | true =>
          obtain ⟨published, left⟩ := (busy rfl).resolve_left processing
          exact gone published left
        | false => exact .inl (.closing (by simp [Changeset.withOutcome, wished]))
    | merged merged =>
      have state : flight.claimed.externalState = row.externalState :=
        (congrArg Prod.snd standing).symm
      have claimed : flight.claimed.isMerged = true := by
        rw [Changeset.isMerged, state]
        exact merged
      rw [course.row_of_merged claimed, ← standing] at known
      refine .inl (.merged ?_)
      rw [Changeset.isMerged, show (row.withOutcome outcome noted).externalState =
        row.externalState from congrArg Prod.snd known]
      exact merged
    | left published left => exact gone published left
  · have off : row.queueState ≠ .processing := by
      intro processing
      simp [Changeset.waits, processing] at idle
    have place := Changeset.place_withOutcome off outcome noted
    exact .inr ((Changeset.waits_of_place place).trans idle)

end Flight.Course

/-- A changeset that another campaign created may come to be part of a campaign, and nothing more.
-/
theorem Changeset.following_eq_of_foreign {row : Changeset} {campaign owner : CampaignId}
    {spec : ChangesetSpec} (now : Time) (tracks : spec.branchPush? = none)
    (owned : row.ownerId = some owner) (other : campaign ≠ owner) :
    row.following campaign now spec =
      { row with campaignIds := row.campaignIds.add campaign, updatedAt := now } := by
  simp only [ChangesetSpec.branchPush?] at tracks
  split at tracks
  · cases tracks
  · next target =>
    have foreign : (owner != campaign) = true := bne_iff_ne.mpr other.symm
    simp only [following, target, owned, Option.any_some, foreign, Bool.not_true, Bool.false_eq_true,
      and_false, if_false]

variable {campaign : CampaignId} {id : ChangesetId} {row after : Changeset}

/-- Applications of other campaigns do not disturb a changeset. -/
theorem Generation.Fate.undisturbed {generation : Generation} {store : Store}
    (fate : generation.Fate store id (some row) (some after)) (owned : row.ownerId = some campaign)
    (other : generation.campaign ≠ campaign) : row.Undisturbed campaign after := by
  have foreign : row.isOwnedBy generation.campaign = false := by
    simp [Changeset.isOwnedBy, owned, Ne.symm other]
  cases fate with
  | kept => exact ⟨rfl, rfl, rfl, rfl⟩
  | left unwanted decided =>
    simp only [Placement.ofDropped, foreign, Bool.false_and, Bool.false_eq_true, if_false]
      at decided
    cases decided
    refine ⟨rfl, rfl, rfl, ?_⟩
    simp [Changeset.isAttachedTo, IdSet.contains_erase, other]
  | @followed _ spec paired =>
    cases pushes : spec.branchPush? with
    | some push =>
      have about := ((Store.mem_pairings paired).2 row rfl).2
      simp only [Store.isAbout, ChangesetSpec.target_of_branchPush? pushes, foreign,
        Bool.false_and, Bool.and_false] at about
      cases about
    | none =>
      rw [Changeset.following_eq_of_foreign generation.now pushes owned other]
      refine ⟨rfl, rfl, rfl, ?_⟩
      simp [Changeset.isAttachedTo, IdSet.contains_add, other]

private theorem Closure.Fate.undisturbed {closure : Closure} {now : Time}
    (fate : closure.Fate now (some row) (some after)) (owned : row.ownerId = some campaign)
    (other : closure.id ≠ campaign) : row.Undisturbed campaign after := by
  cases fate with
  | kept => exact ⟨rfl, rfl, rfl, rfl⟩
  | closed attached opened =>
    simp only [Changeset.isClosedWith, Changeset.isOwnedBy, owned, Bool.and_eq_true, beq_iff_eq,
      Option.some.injEq] at opened
    exact absurd opened.1.1.symm other

namespace System

variable {system next : System} {event : Event} {events : List Event} {first number : Nat}
  {flight : Flight}

/-- Whether the transaction of an application, or a closure, is about a campaign. -/
def concerns (campaign : CampaignId) (system : System) : Event → Bool
  | .proceed number _ =>
    match system.applications number with
    | some (.rewiring _ _ revised _) => revised.id == campaign
    | _ => false
  | .close closure => closure.id == campaign
  | _ => false

/-- An application that is not about a stored campaign is about another one, also if it creates
it. -/
theorem campaign_ne_of_apart {visible : Visibility} {applying : Applying} {generation : Generation}
    (apart : system.concerns campaign (.proceed number visible) = false)
    (under : system.applications number = some applying)
    (makes : applying.Makes visible generation)
    (fresh : applying.Numbers system.store.lastId generation)
    (known : campaign.value ≤ system.store.lastId) : generation.campaign ≠ campaign := by
  cases applying with
  | rewiring application spec revised now =>
    rintro rfl
    cases unsaved : revised.id.isUnsaved with
    | true => exact absurd (fresh unsaved) (Int.not_lt.mpr known)
    | false =>
      rw [concerns, under] at apart
      simp [makes.1 unsaved] at apart
  | _ => exact makes.elim

/-- What is known of a changeset after its campaign was closed, if it was calm then. Only attempts
that were claimed later count. -/
structure Hushes (system : System) (campaign : CampaignId) (id : ChangesetId) (first : Nat) :
    Prop where
  known : campaign.value ≤ system.store.lastId
  tokens_le : first ≤ system.tokens
  row {row : Changeset} (found : system.store.changesets.find? id = some row)
    (owned : row.ownerId = some campaign) : row.Calm campaign
  flying {number : Nat} {flight : Flight} (under : system.flights number = some flight)
    (here : flight.claimed.id = id) (owned : flight.claimed.ownerId = some campaign)
    (new : first ≤ number) : flight.claimed.Hushed campaign
  busy {record : LeaseRecord} {row : Changeset}
    (leased : system.store.leases.find? id = some record) (wished : record.closingAtClaim = true)
    (found : system.store.changesets.find? id = some row) (owned : row.ownerId = some campaign) :
    row.queueState = .processing ∨ row.isAttachedTo campaign = false

variable {lease lease' : Option LeaseRecord}

private theorem Change.calm
    (change : Change system event next id (some row) lease (some after) lease')
    (apart : system.concerns campaign event = false) (known : campaign.value ≤ system.store.lastId)
    (owned : row.ownerId = some campaign) (calm : row.Calm campaign)
    (concludes : ∀ {number policy flight failure outcome record},
      system.flights number = some flight → flight.claimed.id = id → lease = some record →
      record.lease.token = leaseToken number → flight.attempt.stage = .settled failure →
      flight.attempt.row.settled? policy failure system.now = some outcome →
      (row.withOutcome outcome record.closingAtClaim).Calm campaign) : after.Calm campaign := by
  -- Whoever claims the changeset or puts it back into the queue finds it waiting.
  have hushed : row.waits = true → row.Hushed campaign := by
    intro waits
    refine calm.resolve_right ?_
    simp [waits]
  generalize present : some after = later at change
  cases change with
  | still same =>
    cases present
    exact calm
  | claimed happens due mark flies =>
    cases present
    have waits : row.waits = true := by simp [Changeset.waits, Changeset.queued_of_isDue due]
    exact .inl ((hushed waits).congr rfl rfl rfl)
  | concluded happens under stopped gone settled here token =>
    cases present
    exact concludes under here rfl token stopped settled
  | canceled happens waiting =>
    cases present
    exact .inr rfl
  | requeued happens due =>
    cases present
    obtain ⟨errored, time, retry⟩ := Changeset.errored_of_isRetryDue due
    have waits : row.waits = true := by simp [Changeset.waits, errored, retry]
    exact .inl ((hushed waits).congr rfl rfl rfl)
  | reset happens expired =>
    cases present
    by_cases processing : row.queueState = .processing
    · have waits : row.waits = true := by simp [Changeset.waits, processing]
      refine .inl ((hushed waits).congr ?_ row.standing_released ?_)
      · simp [Changeset.released, processing]
      · simp [Changeset.released, processing, Changeset.isAttachedTo]
    · rw [show row.released = row by simp [Changeset.released, processing]]
      exact calm
  | rewired generation happens under makes fate fresh =>
    subst present happens
    exact (fate.undisturbed owned (campaign_ne_of_apart apart under makes fresh known)).calm calm
  | closed happens fate =>
    subst present happens
    exact (fate.undisturbed owned (by simpa [concerns] using apart)).calm calm

/-- Under its lease, a changeset stays in processing, or stays out of the campaign. -/
theorem Change.stays_busy {held record : LeaseRecord}
    (change : Change system event next id (some row) (some held) (some after) (some record))
    (apart : system.concerns campaign event = false) (known : campaign.value ≤ system.store.lastId)
    (owned : row.ownerId = some campaign)
    (busy : row.queueState = .processing ∨ row.isAttachedTo campaign = false) :
    after.queueState = .processing ∨ after.isAttachedTo campaign = false := by
  have undisturbed : row.Undisturbed campaign after →
      after.queueState = .processing ∨ after.isAttachedTo campaign = false := fun same =>
    busy.imp (congrArg Prod.fst same.place).trans same.attached.trans
  generalize present : some after = later at change
  cases change with
  | still same =>
    cases present
    exact busy
  | canceled happens waiting =>
    cases present
    refine .inr (busy.resolve_left ?_)
    intro processing
    simp [Changeset.isCancelable, processing] at waiting
  | requeued happens due =>
    cases present
    refine .inr (busy.resolve_left ?_)
    intro processing
    simp [Changeset.isRetryDue, processing] at due
  | rewired generation happens under makes fate fresh =>
    subst present happens
    exact undisturbed (fate.undisturbed owned (campaign_ne_of_apart apart under makes fresh known))
  | closed happens fate =>
    subst present happens
    exact undisturbed (fate.undisturbed owned (by simpa [concerns] using apart))

/-- A changeset of the campaign was there before, and stays calm. -/
theorem Hushes.calm (hushes : system.Hushes campaign id first) (sound : system.Sound)
    (faithful : system.Faithful) (informed : system.Informed)
    (apart : system.concerns campaign event = false)
    (found : (system.step event).store.changesets.find? id = some after)
    (owned : after.ownerId = some campaign) : after.Calm campaign := by
  have change := (System.transition sound.numbered event).change sound id
  rw [found] at change
  cases stored : system.store.changesets.find? id with
  | none =>
    rw [stored] at change
    obtain ⟨_, _, _, generation, spec, repo, rfl, under, makes, fresh, -, -, -, rfl⟩ :=
      change.created
    have other := campaign_ne_of_apart apart under makes fresh hushes.known
    simp only [Changeset.ofSpec] at owned
    split at owned
    · cases owned
    · exact absurd (Option.some.inj owned) other
  | some row =>
    rw [stored] at change
    have ownedBefore : row.ownerId = some campaign := change.ownerId.symm.trans owned
    have calm := hushes.row stored ownedBefore
    refine change.calm apart hushes.known ownedBefore calm ?_
    rintro number policy flight failure outcome record under rfl leased token stopped settled
    have standing := (informed.guarded under leased token stored).1
    have wishes := (faithful.claim under leased token).2 row stored
    refine (sound.flight under).course.calm_withOutcome stopped settled standing wishes
      record.closingAtClaim ?_ calm
    intro wished
    have published := informed.marked leased wished stored
    exact (hushes.busy leased wished stored ownedBefore).imp_right fun left => ⟨published, left⟩

private theorem Hushes.flies (hushes : system.Hushes campaign id first) (sound : system.Sound)
    (under : (system.step event).flights number = some flight) (here : flight.claimed.id = id)
    (owned : flight.claimed.ownerId = some campaign) (new : first ≤ number) :
    flight.claimed.Hushed campaign := by
  cases (System.transition sound.numbered event).flies under with
  | stays before => exact hushes.flying before here owned new
  | asked happened before asks moves answered deliveries same =>
    subst same
    have hushed := hushes.flying before here owned new
    exact hushed
  | @claimed worker length row expiresAt happened fresh below found begins stored leased =>
    subst begins here
    have queued := Changeset.queued_of_isDue (Store.candidate?_eq_some found).2.1
    have present := sound.numbered.find?_candidate found
    have hushed : row.Hushed campaign := by
      refine (hushes.row present owned).resolve_right ?_
      simp [Changeset.waits, queued]
    exact hushed.congr rfl rfl rfl

/-- A lease that notes the wish to close keeps its changeset in processing, or out of the
campaign. -/
theorem Hushes.stays_busy (hushes : system.Hushes campaign id first) (sound : system.Sound)
    (apart : system.concerns campaign event = false) {record : LeaseRecord}
    (leased : (system.step event).store.leases.find? id = some record)
    (wished : record.closingAtClaim = true)
    (found : (system.step event).store.changesets.find? id = some after)
    (owned : after.ownerId = some campaign) :
    after.queueState = .processing ∨ after.isAttachedTo campaign = false := by
  have change := (System.transition sound.numbered event).change sound id
  rw [leased, found] at change
  obtain ⟨held, leasedBefore, mark⟩ | ⟨-, -, claimed, same, busy, -⟩ := change.record
  · rw [leasedBefore] at change
    obtain ⟨row, stored, -⟩ := change.leased sound.numbered leasedBefore rfl rfl
    rw [stored] at change
    have ownedBefore : row.ownerId = some campaign := change.ownerId.symm.trans owned
    have wishedBefore : held.closingAtClaim = true := (congrArg Prod.snd mark).symm.trans wished
    have busy := hushes.busy leasedBefore wishedBefore stored ownedBefore
    exact change.stays_busy apart hushes.known ownedBefore busy
  · cases same
    exact .inl busy

/-- Each event that does not concern the campaign keeps what is known. -/
theorem Hushes.step (hushes : system.Hushes campaign id first) (sound : system.Sound)
    (faithful : system.Faithful) (informed : system.Informed)
    (apart : system.concerns campaign event = false) :
    (system.step event).Hushes campaign id first where
  known := Int.le_trans hushes.known (System.transition sound.numbered event).lastId_le
  tokens_le := Nat.le_trans hushes.tokens_le (System.transition sound.numbered event).tokens_le
  row found owned := hushes.calm sound faithful informed apart found owned
  flying under here owned new := hushes.flies sound under here owned new
  busy leased wished found owned := hushes.stays_busy sound apart leased wished found owned

private theorem Hushes.run (hushes : system.Hushes campaign id first) (sound : system.Sound)
    (faithful : system.Faithful) (informed : system.Informed)
    (apart : system.Along (fun system event => system.concerns campaign event = false) events) :
    (system.run events).Hushes campaign id first := by
  induction events generalizing system with
  | nil => exact hushes
  | cons event rest ih =>
    have happens := System.transition sound.numbered event
    exact ih (hushes.step sound faithful informed apart.1) (sound.step event)
      (faithful.transition sound happens) (informed.transition sound happens) apart.2

/-- A closure closes an open campaign with its changesets. -/
structure Closes (system : System) (closure : Closure) : Prop where
  opened : ∃ campaign, system.store.campaigns.find? closure.id = some campaign ∧
    campaign.isClosed = false
  withChangesets : closure.withChangesets = true
  succeeds : ∃ closed backend,
    Access.Ends (closure.run system.now) system.world.backend (.ok closed) backend

def closes (system : System) (closure : Closure) : Bool :=
  (system.store.campaigns.find? closure.id).any (fun campaign => !campaign.isClosed) &&
    closure.withChangesets && (closure.run system.now system.world.backend).1.isOk

private theorem Closes.of_closes {closure : Closure} (closes : system.closes closure = true) :
    system.Closes closure := by
  simp only [System.closes, Bool.and_eq_true, Option.any_eq_true, Bool.not_eq_true'] at closes
  obtain ⟨⟨opened, withChangesets⟩, succeeds⟩ := closes
  exact ⟨opened, withChangesets, Access.ends_ok_of_isOk succeeds⟩

/-- A changeset that a closure leaves alone is calm, if it waits for nothing or is not to be
opened. -/
theorem calm_of_left {closure : Closure} (sighted : row.Sighted)
    (owned : row.ownerId = some closure.id)
    (left : ¬ (row.isAttachedTo closure.id = true ∧ row.isClosedWith closure.id = true))
    (neutral : row.waits = true → row.isToOpen = false) : row.Calm closure.id := by
  cases waits : row.waits with
  | false => exact .inr waits
  | true =>
    refine .inl ?_
    cases merged : row.isMerged with
    | true => exact .merged merged
    | false =>
      cases closing : row.closing with
      | true => exact .closing closing
      | false =>
        have shut := neutral waits
        simp only [Changeset.isToOpen, merged, closing, Bool.not_false, Bool.true_and,
          Bool.or_eq_false_iff, Bool.not_eq_false', Changeset.isPublished, beq_iff_eq] at shut
        obtain ⟨published, wanted⟩ := shut
        -- Were it still part of the campaign, it would be open, and the closure would queue it.
        refine .left published (Bool.eq_false_iff.mpr fun attached => left ⟨attached, ?_⟩)
        have known : row.externalState ≠ none := by
          refine sighted.state published ?_
          simp [owned]
        have held : row.isOwnedAndAttached = true := by
          simp [Changeset.isOwnedAndAttached, owned, attached]
        have opened : row.isOpen = true := by
          simp only [Changeset.isMerged, held, Bool.and_true] at merged wanted
          cases state : row.externalState with
          | none => exact absurd state known
          | some told =>
            cases told with
            | draft => simp [Changeset.isOpen, state]
            | opened => simp [Changeset.isOpen, state]
            | closed => simp [state] at wanted
            | merged => simp [state] at merged
        simp [Changeset.isClosedWith, Changeset.isOwnedBy, Changeset.isPublished, owned, published,
          opened]

/-- Such a closure is a transaction that queues all changesets of the campaign with an open pull
request. -/
theorem Closes.transacted {closure : Closure} (closes : system.Closes closure)
    (sound : system.Sound) :
    (system.store.Transacted (system.step (.close closure)).store fun _ =>
        closure.Fate system.now) ∧
      ∀ id row, system.store.changesets.find? id = some row →
        row.isAttachedTo closure.id = true → row.isClosedWith closure.id = true →
        (system.step (.close closure)).store.changesets.find? id =
          some (row.queuedToClose system.now) := by
  obtain ⟨campaign, stored, still⟩ := closes.opened
  obtain ⟨closed, backend, ends⟩ := closes.succeeds
  have store : (system.step (.close closure)).store = backend.store := by
    simp only [Access.Ends] at ends
    simp only [step, access, System.store, withBackend, ends]
  rw [store]
  refine ⟨Closure.run_store sound.numbered ends, ?_⟩
  intro id row found attached opened
  exact Closure.run_queues sound.numbered ends stored still closes.withChangesets found attached
    opened

/-- After the closure, all is calm about a changeset that does not wait to be opened. -/
theorem Closes.hushes {closure : Closure} (closes : system.Closes closure) (sound : system.Sound)
    (informed : system.Informed)
    (neutral : ∀ row, system.store.changesets.find? id = some row → row.waits = true →
      row.isToOpen = false)
    (unmarked : ∀ record row, system.store.leases.find? id = some record →
      system.store.changesets.find? id = some row → record.closingAtClaim = true →
      row.isAttachedTo closure.id = false) :
    (system.step (.close closure)).Hushes closure.id id system.tokens := by
  obtain ⟨transacted, queues⟩ := closes.transacted sound
  obtain ⟨campaign, stored, -⟩ := closes.opened
  have before : ∀ {after}, (system.step (.close closure)).store.changesets.find? id = some after →
      ∃ row, system.store.changesets.find? id = some row ∧
        closure.Fate system.now (some row) (some after) := by
    intro after found
    have fate := transacted.row id
    rw [found] at fate
    cases present : system.store.changesets.find? id with
    | none =>
      rw [present] at fate
      cases fate
    | some row =>
      rw [present] at fate
      exact ⟨row, rfl, fate⟩
  refine ⟨Int.le_trans (sound.numbered.campaigns stored) transacted.lastId_le, Nat.le_refl _, ?_,
    ?_, ?_⟩
  · intro after found owned
    obtain ⟨row, present, fate⟩ := before found
    by_cases chosen : row.isAttachedTo closure.id = true ∧ row.isClosedWith closure.id = true
    · have queued := queues id row present chosen.1 chosen.2
      rw [found] at queued
      cases queued
      exact .inl (.closing rfl)
    · cases fate with
      | kept => exact calm_of_left (informed.row present) owned chosen (neutral _ present)
      | closed attached opened => exact absurd ⟨attached, opened⟩ chosen
  · intro number flight under here owned new
    have before : system.flights number = some flight := under
    exact absurd (sound.flight before).number_lt (Nat.not_lt.mpr new)
  · intro record after leased wished found owned
    rw [transacted.leases] at leased
    obtain ⟨row, present, fate⟩ := before found
    have left := unmarked record row leased present wished
    cases fate with
    | kept => exact .inr left
    | closed attached opened =>
      rw [left] at attached
      cases attached

/-- In every run that starts with the empty store, whatever failures of the store lie ahead: a
closure closes an open campaign with its changesets, and afterwards no application and no closure is
about the campaign. Then no attempt ever asks the code host to open, or to reopen, the pull request
of a changeset that the campaign created; unless, at the closure, the changeset was to be opened and
waited or was being processed, or the attempt was under way, claimed when it was to be opened; or
the changeset was part of the campaign and under a lease that was granted when it was to be closed
already. -/
theorem closed_campaign_stays_quiet (faults : List Fault) (now : Time) (before after : List Event)
    (closure : Closure) (number : Nat) (flight : Flight)
    (closes : ((start faults now).run before).Closes closure)
    (apart : ((start faults now).run (before ++ [.close closure])).Along
      (fun system event => system.concerns closure.id event = false) after)
    (under : ((start faults now).run (before ++ .close closure :: after)).flights number =
      some flight)
    (owned : flight.claimed.ownerId = some closure.id)
    (flying : ∀ earlier, ((start faults now).run before).flights number = some earlier →
      earlier.claimed.isToOpen = false)
    (neutral : ∀ row,
      ((start faults now).run before).store.changesets.find? flight.claimed.id = some row →
      row.waits = true → row.isToOpen = false)
    (unmarked : ∀ record row,
      ((start faults now).run before).store.leases.find? flight.claimed.id = some record →
      ((start faults now).run before).store.changesets.find? flight.claimed.id = some row →
      record.closingAtClaim = true → row.isAttachedTo closure.id = false) :
    ∀ question resume, flight.attempt.next = .ask question resume → question.opens = false := by
  have soundStart := sound_start faults now
  have sound := soundStart.run before
  have faithful := (faithful_start faults now).run soundStart before
  have informed := (informed_start faults now).run soundStart before
  have closed := System.transition sound.numbered (.close closure)
  rw [run_append, run_cons, run_nil] at apart
  rw [run_append, run_cons] at under
  have course := (((sound.step (.close closure)).run after).flight under).course
  have shut : flight.claimed.isToOpen = false := by
    by_cases old : number < ((start faults now).run before).tokens
    · obtain ⟨earlier, underBefore, same⟩ := sound.under_before (.close closure :: after) old under
      exact same ▸ flying earlier underBefore
    · have hushes := closes.hushes sound informed neutral unmarked
      have final := hushes.run (sound.step _) (faithful.transition sound closed)
        (informed.transition sound closed) apart
      exact (final.flying under rfl owned (Nat.not_lt.mp old)).not_isToOpen owned
  exact fun question resume asks => course.opens_nothing shut asks

/-- A closure closes an open campaign with its changesets, and afterwards, while nothing that
happens is about the campaign, the code host is told something about a changeset that the campaign
created. -/
structure TellsAfter (system : System) (closure : Closure) (after : List Event) (id : ChangesetId)
    (sent : List Effect) : Prop where
  closes : system.Closes closure
  apart : (system.step (.close closure)).Along
    (fun system event => system.concerns closure.id event = false) after
  owned : (system.store.changesets.find? id).bind (·.ownerId) = some closure.id
  effects : ((system.step (.close closure)).run after).effects id = sent ++ system.effects id

end System

namespace Sample

/-- The first generation is reconciled, and the second one is applied. -/
def waitingToChange : List Event := setUp ++ attempt 0 5 ++ [.conclude 0 {}] ++ apply "b"

/-- The first generation is reconciled, but its pull request is closed at once, and the second one
is applied. -/
def waitingToReopen : List Event :=
  setUp ++ attempt 0 4 ++ [.ask 0 {} closedReply, .conclude 0 {}] ++ apply "b"

end Sample

open Sample in
/-- The second generation waits when the campaign is closed. The next attempt closes the pull
request. -/
theorem System.closed_campaign_stays_quiet_waiting :
    (((start [] (instant 0)).run waitingToChange).store.changesets.find? changeset).map
        Changeset.waits = some true ∧
    ∃ flight, ((start [] (instant 0)).run
        (waitingToChange ++ .close closure :: attempt 1 3)).flights 1 = some flight ∧
      flight.claimed.id = changeset ∧
      flight.attempt.stage = .acting repo .close (.request (.close "101")) [] ∧
      ∀ question resume, flight.attempt.next = .ask question resume → question.opens = false := by
  refine ⟨by decide +kernel, ?_⟩
  obtain ⟨flight, under, known⟩ := Option.map_eq_some_iff.mp (show
    (((start [] (instant 0)).run (waitingToChange ++ .close closure :: attempt 1 3)).flights 1).map
      (fun flight => (flight.claimed.id, flight.claimed.ownerId, flight.attempt.stage)) =
      some (changeset, some closure.id, .acting repo .close (.request (.close "101")) []) by
      decide +kernel)
  simp only [Prod.mk.injEq] at known
  obtain ⟨here, owned, stage⟩ := known
  have quiet := closed_campaign_stays_quiet [] (instant 0) waitingToChange (attempt 1 3) closure 1
    flight (.of_closes (by decide +kernel)) (by decide +kernel) under owned
  rw [here] at quiet
  refine ⟨flight, under, here, stage, quiet ?_ ?_ ?_⟩
  · intro earlier before
    have none : ((start [] (instant 0)).run waitingToChange).flights 1 = none :=
      Option.isNone_iff_eq_none.mp (by decide +kernel)
    rw [none] at before
    cases before
  · intro row found _
    obtain ⟨other, present, shut⟩ := Option.map_eq_some_iff.mp (show
      (((start [] (instant 0)).run waitingToChange).store.changesets.find? changeset).map
        Changeset.isToOpen = some false by decide +kernel)
    cases found.symm.trans present
    exact shut
  · intro record row leased
    have free : ((start [] (instant 0)).run waitingToChange).store.leases.find? changeset = none :=
      Option.isNone_iff_eq_none.mp (by decide +kernel)
    rw [free] at leased
    cases leased

open Sample in
/-- A changeset that waits to be published, one that waits to be reopened, and one that is being
published: their pull requests are opened after the campaign was closed with its changesets. -/
theorem System.closed_campaign_opens_requests :
    ((start [] (instant 0)).run setUp).TellsAfter closure (attempt 0 5) changeset
      [.request (.create (push "a" "a") false), .push (push "a" "a")] ∧
    ((start [] (instant 0)).run waitingToReopen).TellsAfter closure (attempt 1 4) changeset
      [.request (.reopen "101")] ∧
    ((start [] (instant 0)).run (setUp ++ attempt 0 4)).TellsAfter closure [.ask 0 {} reply]
      changeset [.request (.create (push "a" "a") false)] := by
  refine ⟨⟨.of_closes ?_, ?_, ?_, ?_⟩, ⟨.of_closes ?_, ?_, ?_, ?_⟩, ⟨.of_closes ?_, ?_, ?_, ?_⟩⟩ <;>
    decide +kernel

end BatchChanges
