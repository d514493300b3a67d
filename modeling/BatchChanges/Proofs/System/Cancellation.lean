import BatchChanges.Proofs.System.Failing
import BatchChanges.Proofs.System.Grounded
import BatchChanges.Proofs.System.Reapplying
import BatchChanges.Proofs.System.Reopening

/-! # Canceled changesets and the next application

Whoever applies another spec cancels what waits of the campaign before the transaction begins, and
if the transaction fails, the changesets stay canceled. Nobody but the campaign takes them up again:
an attempt claims what is queued only, and what is canceled is not tried again. The next
transaction of the campaign that succeeds queues all of them, unless they leave it. But an
application that finds its spec applied already changes nothing, so that canceled changesets stay
canceled.
-/

namespace BatchChanges

namespace ReconcileError

private theorem lt_length_append {length : Nat} {first second : String}
    (long : length < first.length ∨ length < second.length) :
    length < (first ++ second).length := by
  rw [String.length_append]
  omega

/-- No failure of an attempt is told in so few letters as a cancellation. -/
theorem message_ne_canceled (error : ReconcileError) :
    error.message ≠ Changeset.canceledMessage := by
  have long : 8 < error.message.length := by
    cases error with
    | store cause => exact lt_length_append (.inl (by decide))
    | missingCurrentSpec | specNotFound | repoNotFound =>
      exact lt_length_append (.inl (lt_length_append (.inl (by decide))))
    | missingBranchPush | missingExternalId | host =>
      exact lt_length_append (.inl (lt_length_append (.inr (by decide))))
    | leaseLost =>
      exact lt_length_append (.inl (lt_length_append (.inl (lt_length_append (.inl (by decide))))))
    | workerFailed detail => exact lt_length_append (.inl (by decide))
  intro same
  rw [same] at long
  exact absurd long (by decide)

end ReconcileError

namespace Changeset

variable {row other : Changeset} {campaign : CampaignId} {now : Time}

/-- Whether a changeset was taken out of the queue and has not been put back. -/
def isCanceled (row : Changeset) : Bool :=
  row.queueState == .errored && row.failureMessage == some canceledMessage &&
    row.processAfter.isNone

private theorem isCanceled_congr (same : row.place = other.place) :
    row.isCanceled = other.isCanceled := by
  simp only [place, Prod.mk.injEq] at same
  simp only [isCanceled, same]

private theorem isCanceled_of_ne_errored (other : row.queueState ≠ .errored) :
    row.isCanceled = false := by
  simp [isCanceled, other]

private theorem isCanceled_of_fresh (fresh : row.place = freshPlace) : row.isCanceled = false := by
  have queued : row.queueState = .queued := congrArg Prod.fst fresh
  exact isCanceled_of_ne_errored (by simp [queued])

private theorem isCanceled_canceled (row : Changeset) : row.canceled.isCanceled = true := by
  simp [isCanceled, canceled]

private theorem isCanceled_iff : row.isCanceled = true ↔
    row.queueState = .errored ∧ row.failureMessage = some canceledMessage ∧
      row.processAfter = none := by
  simp [isCanceled, and_assoc]

private theorem isCanceled_of_settled {policy : RetryPolicy} {failure : Option ReconcileError}
    (settled : row.settled? policy failure now = some other) : other.isCanceled = false := by
  rw [← Bool.not_eq_true, isCanceled_iff]
  rintro ⟨-, told, -⟩
  obtain ⟨-, rfl⟩ | ⟨error, retryAt, -, rfl⟩ := settled?_eq_some settled
  · cases told
  · exact error.message_ne_canceled (Option.some.inj told)

/-- A write-back leaves a changeset canceled exactly if it was. -/
theorem isCanceled_withOutcome {policy : RetryPolicy} {failure : Option ReconcileError}
    {claimed : Changeset} (settled : claimed.settled? policy failure now = some other)
    (closing : Bool) : (row.withOutcome other closing).isCanceled = row.isCanceled := by
  by_cases busy : row.queueState = .processing
  · have taken : (row.withOutcome other closing).place = other.place := by
      simp [place, withOutcome, busy]
    rw [isCanceled_congr taken, isCanceled_of_settled settled,
      isCanceled_of_ne_errored (by simp [busy])]
  · exact isCanceled_congr (place_withOutcome busy other closing)

private theorem isCanceled_released (row : Changeset) :
    row.released.isCanceled = row.isCanceled := by
  simp only [released]
  split
  · next busy =>
    rw [isCanceled_of_ne_errored (by simp), isCanceled_of_ne_errored (by simp [busy])]
  · rfl

/-- A changeset of the campaign's own that moves on to a spec is not left canceled. -/
theorem isCanceled_following {spec : ChangesetSpec} (owned : row.ownerId = some campaign)
    (now : Time) : (row.following campaign now spec).isCanceled = false := by
  simp only [following]
  split
  · split
    · exact isCanceled_of_fresh rfl
    · next calm =>
      refine isCanceled_of_ne_errored fun errored => calm ⟨errored, ?_⟩
      simp [owned]
  · exact isCanceled_of_fresh rfl

/-- Another campaign that tracks its pull request does not queue it. -/
theorem place_following_of_foreign {spec : ChangesetSpec} (owned : row.ownerId = some campaign)
    {other : CampaignId} (foreign : other ≠ campaign) (tracks : spec.branchPush? = none)
    (now : Time) : (row.following other now spec).place = row.place := by
  simp only [ChangesetSpec.branchPush?] at tracks
  simp only [following]
  split
  · split
    · next queues =>
      simp [owned, foreign.symm] at queues
    · rfl
  · next target =>
    rw [target] at tracks
    cases tracks

end Changeset

namespace Generation

variable {generation : Generation} {store : Store} {id : ChangesetId} {before : Option Changeset}
  {row after : Changeset} {campaign : CampaignId}

/-- The transaction of another campaign leaves a changeset at its place in the queue. -/
theorem Fate.place_of_other (fate : generation.Fate store id (some row) (some after))
    (owned : row.ownerId = some campaign) (other : generation.campaign ≠ campaign) :
    after.place = row.place := by
  cases fate with
  | kept => rfl
  | left unwanted decided =>
    obtain ⟨⟨mine, -⟩, -⟩ | ⟨-, rfl⟩ := Placement.ofDropped_eq_staged decided
    · rw [Changeset.isOwnedBy, owned, beq_iff_eq] at mine
      exact absurd (Option.some.inj mine).symm other
    · rfl
  | @followed _ spec paired =>
    cases pushes : spec.branchPush? with
    | none => exact Changeset.place_following_of_foreign owned other pushes _
    | some push =>
      have about := ((Store.mem_pairings paired).2 row rfl).2
      simp only [Store.isAbout, ChangesetSpec.target_of_branchPush? pushes, Bool.and_eq_true,
        Changeset.isOwnedBy, beq_iff_eq, owned, Option.some.injEq] at about
      exact absurd about.2.1.symm other

/-- After the transaction of its own campaign, a changeset is not left canceled, unless it was
passed over. -/
theorem Holds.not_isCanceled (holds : generation.Holds store id before row)
    (owned : row.ownerId = some generation.campaign) :
    row.isCanceled = false ∨ before = some row ∧ generation.PassedOver store row := by
  cases holds with
  | @followed earlier spec paired =>
    have same := earlier.unedited_following generation.campaign generation.now spec
    exact .inl (Changeset.isCanceled_following
      ((congrArg (·.1.2.2.2.1) same).symm.trans owned) generation.now)
  | @created spec repo paired located fresh =>
    refine .inl (Changeset.isCanceled_of_ne_errored ?_)
    simp only [Changeset.ofSpec]
    split <;> simp
  | passedOver passed => exact .inr ⟨rfl, passed⟩

end Generation

namespace System

variable {system next : System} {event : Event} {events : List Event} {id : ChangesetId}
  {row after : Changeset} {campaign : CampaignId} {lease lease' : Option LeaseRecord}

private theorem Change.canceled_of_isCanceled
    (change : Change system event next id (some row) lease (some after) lease')
    (canceled : after.isCanceled = true) :
    row.isCanceled = true ∨ after = row.canceled ∧ ∃ campaign, row.isCancelable campaign = true ∧
      (event = .cancelQueued campaign ∨ ∃ number visible, event = .proceed number visible) := by
  have placed : after.place = Changeset.freshPlace ∨
      after.place = row.place ∧ after.wishes = row.wishes → row.isCanceled = true := by
    rintro (fresh | ⟨same, -⟩)
    · rw [Changeset.isCanceled_of_fresh fresh] at canceled
      cases canceled
    · rw [← Changeset.isCanceled_congr same, canceled]
  generalize present : some after = later at change
  cases change with
  | still => exact .inl (Option.some.inj present ▸ canceled)
  | claimed happens due =>
    cases present
    cases canceled
  | concluded happens under stopped gone settled =>
    cases present
    rw [Changeset.isCanceled_withOutcome settled] at canceled
    exact .inl canceled
  | canceled happens waiting =>
    cases present
    exact .inr ⟨rfl, _, waiting, happens⟩
  | requeued happens due =>
    cases present
    cases canceled
  | reset happens expired =>
    cases present
    rw [Changeset.isCanceled_released] at canceled
    exact .inl canceled
  | rewired generation happens under makes fate =>
    subst present
    exact .inl (placed fate.place)
  | closed happens fate =>
    subst present
    exact .inl (placed fate.place)

/-- A canceled changeset stays canceled, but for transactions and closures. -/
theorem Change.isCanceled_of_canceled
    (change : Change system event next id (some row) lease (some after) lease')
    (canceled : row.isCanceled = true) :
    after.isCanceled = true ∨
      (∃ number visible applying generation, event = .proceed number visible ∧
        system.applications number = some applying ∧
        Applying.Makes visible generation applying) ∨
      ∃ closure, event = .close closure ∧ closure.Fate system.now (some row) (some after) := by
  obtain ⟨errored, -, idle⟩ := Changeset.isCanceled_iff.mp canceled
  generalize present : some after = later at change
  cases change with
  | still => exact .inl (Option.some.inj present ▸ canceled)
  | claimed happens due =>
    rw [Changeset.queued_of_isDue due] at errored
    cases errored
  | concluded happens under stopped gone settled =>
    cases present
    exact .inl ((Changeset.isCanceled_withOutcome settled _).trans canceled)
  | canceled happens waiting =>
    cases present
    exact .inl (Changeset.isCanceled_canceled row)
  | requeued happens due =>
    obtain ⟨-, time, waits⟩ := Changeset.errored_of_isRetryDue due
    rw [idle] at waits
    cases waits
  | reset happens expired =>
    cases present
    exact .inl ((Changeset.isCanceled_released row).trans canceled)
  | rewired generation happens under makes fate =>
    exact .inr (.inl ⟨_, _, _, generation, happens, under, makes⟩)
  | closed happens fate =>
    subst present
    exact .inr (.inr ⟨_, happens, fate⟩)

/-- A cancellation of a campaign, by itself or by an application, takes a changeset out of the
queue. -/
structure Strikes (system : System) (event : Event) (campaign : CampaignId) (id : ChangesetId) :
    Prop where
  happens : event = .cancelQueued campaign ∨ ∃ number visible application spec record now,
    event = .proceed number visible ∧
      system.applications number = some (.canceling application spec record now) ∧
      record.id = campaign
  struck : ∃ row, system.store.changesets.find? id = some row ∧
    row.isCancelable campaign = true ∧
    (system.step event).store.changesets.find? id = some row.canceled

private theorem ownerId_of_isCancelable {row : Changeset}
    (waits : row.isCancelable campaign = true) : row.ownerId = some campaign := by
  simp only [Changeset.isCancelable, Changeset.isOwnedBy, Bool.and_eq_true, beq_iff_eq] at waits
  exact waits.1.1

/-- What an application does before its transaction cancels what waits of its campaign or leaves
the store alone. -/
theorem store_of_canceling {number : Nat} {application : Application} {spec : CampaignSpec}
    {record : Campaign} {now : Time}
    (under : system.applications number = some (.canceling application spec record now))
    (visible : Visibility) :
    (system.step (.proceed number visible)).store = (system.store.cancelQueued record.id).2 ∨
      (system.step (.proceed number visible)).store = system.store := by
  have ended := Access.ends_self (Application.cancel record) system.world.backend
  simp only [step, under, Applying.proceed]
  exact Application.cancel_store ended

/-- A transaction brings a generation about or leaves the store alone. -/
theorem brings_or_same {number : Nat} {application : Application} {spec : CampaignSpec}
    {record : Campaign} {now : Time}
    (under : system.applications number = some (.rewiring application spec record now))
    (visible : Visibility) :
    (∃ generation, system.Brings (.proceed number visible) generation) ∨
      (system.step (.proceed number visible)).store = system.store := by
  refine (commits_or_same under visible).imp_left ?_
  rintro ⟨applied, commits⟩
  exact ⟨_, number, visible, ⟨application, spec, record, now⟩, applied, rfl, commits, rfl⟩

/-- Whatever becomes canceled was struck by a cancellation of its own campaign. -/
theorem strikes_of_canceled (sound : system.Sound)
    (found : system.store.changesets.find? id = some row)
    (later : (system.step event).store.changesets.find? id = some after)
    (spared : row.isCanceled = false) (canceled : after.isCanceled = true) :
    ∃ campaign, system.Strikes event campaign id ∧ row.ownerId = some campaign := by
  have moved : (system.step event).store ≠ system.store := by
    intro same
    rw [same, found] at later
    cases later
    rw [spared] at canceled
    cases canceled
  have change := (System.transition sound.numbered event).change sound id
  rw [found, later] at change
  rcases change.canceled_of_isCanceled canceled with already | ⟨rfl, campaign, waits, happens⟩
  · rw [spared] at already
    cases already
  rcases happens with rfl | ⟨number, visible, rfl⟩
  · exact ⟨campaign, ⟨.inl rfl, row, found, waits, later⟩, ownerId_of_isCancelable waits⟩
  · cases under : system.applications number with
    | none =>
      refine absurd ?_ moved
      simp only [step, under]
    | some applying =>
      cases applying with
      | reading application => exact absurd (store_of_revision?_eq_none under rfl visible) moved
      | resolving application spec =>
        exact absurd (store_of_revision?_eq_none under rfl visible) moved
      | canceling application spec record now =>
        rcases store_of_canceling under visible with reached | kept
        · have mine : row.isCancelable record.id = true := by
            by_contra spares
            have kept := later
            rw [reached, Store.cancelQueued, Store.find?_updateWhere, found, Option.map_some,
              if_neg spares] at kept
            rw [← Option.some.inj kept, spared] at canceled
            cases canceled
          exact ⟨record.id, ⟨.inr ⟨number, visible, application, spec, record, now, rfl, under,
            rfl⟩, row, found, mine, later⟩, ownerId_of_isCancelable mine⟩
        · exact absurd kept moved
      | rewiring application spec record now =>
        rcases brings_or_same under visible with ⟨generation, brings⟩ | same
        · have fate := (brings.transacted sound).row id
          rw [found, later] at fate
          rcases fate.place with fresh | ⟨same, -⟩
          · rw [Changeset.isCanceled_of_fresh fresh] at canceled
            cases canceled
          · rw [Changeset.isCanceled_congr same, spared] at canceled
            cases canceled
        · exact absurd same moved

/-- An event is no generation of a campaign. -/
def Precludes (campaign : CampaignId) (system : System) (event : Event) : Prop :=
  ∀ generation, system.Brings event generation → generation.campaign ≠ campaign

private theorem Commits.brings {revision : Revision} {applied : Campaign}
    (commits : system.Commits event revision applied) :
    ∃ generation, system.Brings event generation ∧ generation.campaign = applied.id := by
  obtain ⟨number, visible, next, happens, -⟩ := id commits
  exact ⟨_, ⟨number, visible, revision, applied, happens, commits, rfl⟩, rfl⟩

/-- Only a generation opens a campaign. -/
theorem IsClosed.step (closed : system.IsClosed campaign) (sound : system.Sound)
    (agrees : system.store.Agrees) (other : Precludes campaign system event) :
    (system.step event).IsClosed campaign := by
  obtain ⟨record, stored, shut⟩ := closed
  have rewritten := rewrites sound agrees event campaign
  rw [stored] at rewritten
  generalize later : (system.step event).store.campaigns.find? campaign = after at rewritten
  cases rewritten with
  | kept => exact ⟨record, later, shut⟩
  | closed happens here still => exact ⟨_, later, rfl⟩
  | revised commits about here =>
    obtain ⟨generation, brings, mine⟩ := commits.brings
    exact absurd (mine.trans here) (other generation brings)

/-- Until the next generation of its campaign, a canceled changeset stays canceled, or the campaign
is closed. -/
theorem isCanceled_or_isClosed (sound : system.Sound) (agrees : system.store.Agrees)
    (other : Precludes campaign system event)
    (found : system.store.changesets.find? id = some row)
    (later : (system.step event).store.changesets.find? id = some after)
    (owned : row.ownerId = some campaign) (canceled : row.isCanceled = true) :
    after.isCanceled = true ∨ (system.step event).IsClosed campaign := by
  have stays : (system.step event).store = system.store → after.isCanceled = true := by
    intro same
    rw [same, found] at later
    cases later
    exact canceled
  have change := (System.transition sound.numbered event).change sound id
  rw [found, later] at change
  rcases change.isCanceled_of_canceled canceled with
    still | ⟨number, visible, applying, _, rfl, under, makes⟩ | ⟨closure, rfl, fate⟩
  · exact .inl still
  · cases applying with
    | rewiring application spec record now =>
      rcases brings_or_same under visible with ⟨generation, brings⟩ | same
      · have fate := (brings.transacted sound).row id
        rw [found, later] at fate
        have place := fate.place_of_other owned (other generation brings)
        exact .inl ((Changeset.isCanceled_congr place).trans canceled)
      · exact .inl (stays same)
    | _ => exact False.elim makes
  · have ended := Access.ends_self (closure.run system.now) system.world.backend
    cases outcome : (closure.run system.now system.world.backend).1 with
    | error error =>
      rw [outcome] at ended
      exact .inl (stays (Closure.run_error ended))
    | ok closed =>
      rw [outcome] at ended
      cases fate with
      | kept => exact .inl canceled
      | closed attached opened =>
        simp only [Changeset.isClosedWith, Changeset.isOwnedBy, owned, Bool.and_eq_true,
          beq_iff_eq, Option.some.injEq] at opened
        exact .inr (opened.1.1 ▸ isClosed_of_close sound agrees ended)

/-- Whoever applies a spec can see all repositories. -/
def Sees (system : System) (event : Event) : Prop :=
  ∀ generation, system.Brings event generation →
    ∀ id repo, system.store.repos.find? id = some repo →
      generation.visible generation.actor repo = true

/-- A generation leaves none of its own changesets canceled. -/
theorem Brings.not_isCanceled {generation : Generation} {details : String → Prop}
    (brings : system.Brings event generation) (sound : system.Sound)
    (grounded : system.Grounded details) (sees : Sees system event)
    (found : (system.step event).store.changesets.find? id = some row)
    (owned : row.ownerId = some generation.campaign)
    (attached : row.isAttachedTo generation.campaign = true) : row.isCanceled = false := by
  rcases (brings.holds sound found attached).not_isCanceled owned with spared | ⟨same, passed⟩
  · exact spared
  · obtain ⟨repo, located⟩ := (grounded.row same).repo
    have hidden := passed.hidden repo located
    rw [sees generation brings _ repo located] at hidden
    cases hidden

/-- Since the last generation of a campaign in a run, a cancellation of it has struck a
changeset. -/
def Struck (system : System) (events : List Event) (campaign : CampaignId) (id : ChangesetId) :
    Prop :=
  ∃ earlier strike later, events = earlier ++ strike :: later ∧
    (system.run earlier).Strikes strike campaign id ∧
    ((system.run earlier).step strike).Along (Precludes campaign) later

private theorem struck_append_singleton : system.Struck (events ++ [event]) campaign id ↔
    (system.run events).Strikes event campaign id ∨
      system.Struck events campaign id ∧ Precludes campaign (system.run events) event := by
  constructor
  · rintro ⟨earlier, strike, later, split, strikes, last⟩
    rcases List.eq_nil_or_concat later with rfl | ⟨front, final, rfl⟩
    · obtain ⟨rfl, same⟩ := List.append_inj' split rfl
      cases same
      exact .inl strikes
    · rw [List.concat_eq_append] at split last
      obtain ⟨rfl, same⟩ := List.append_inj' (split.trans (by simp :
        earlier ++ strike :: (front ++ [final]) = (earlier ++ strike :: front) ++ [final])) rfl
      cases same
      obtain ⟨precludes, now, -⟩ := along_append.mp last
      rw [run_append, run_cons]
      exact .inr ⟨⟨earlier, strike, front, rfl, strikes, precludes⟩, now⟩
  · rintro (strikes | ⟨⟨earlier, strike, later, rfl, strikes, last⟩, precludes⟩)
    · exact ⟨events, event, [], rfl, strikes, trivial⟩
    · refine ⟨earlier, strike, later ++ [event], by simp, strikes, ?_⟩
      rw [run_append, run_cons] at precludes
      exact along_append.mpr ⟨last, precludes, trivial⟩

private theorem Strikes.precludes (strikes : system.Strikes event campaign id)
    (other : CampaignId) : Precludes other system event := by
  rintro generation ⟨number, visible, revision, applied, rfl, commits, -⟩
  obtain ⟨_, _, next, same, under, -⟩ := commits
  cases same
  rcases strikes.happens with happens | ⟨_, _, _, _, _, _, same, canceling, -⟩
  · cases happens
  · cases same
    rw [under] at canceling
    cases canceling

/-- In a run in which whoever applies a spec can see all repositories, a changeset that a campaign
created and holds is canceled exactly if a cancellation has struck it since the last generation of
the campaign, unless the campaign has been closed since. -/
theorem isCanceled_iff_struck (faults : List Fault) (now : Time) (events : List Event)
    (sees : (start faults now).Along Sees events)
    (found : ((start faults now).run events).store.changesets.find? id = some row)
    (owned : row.ownerId = some campaign) (attached : row.isAttachedTo campaign = true) :
    (row.isCanceled = true → (start faults now).Struck events campaign id) ∧
      ((start faults now).Struck events campaign id →
        row.isCanceled = true ∨ ((start faults now).run events).IsClosed campaign) := by
  induction events using List.reverseRecOn generalizing row with
  | nil => cases found
  | append_singleton before event ih =>
    have sound := (sound_start faults now).run before
    have begun : (start faults now).store.Agrees := Store.agrees_empty
    have agrees := agrees_run begun (sound_start faults now) before
    obtain ⟨seesBefore, seesEvent, -⟩ := along_append.mp sees
    rw [run_append, run_cons, run_nil] at found ⊢
    rw [struck_append_singleton]
    by_cases moves : ∃ generation, ((start faults now).run before).Brings event generation ∧
        generation.campaign = campaign
    · obtain ⟨generation, brings, rfl⟩ := moves
      have spared := brings.not_isCanceled sound (grounded_run faults now before) seesEvent found
        owned attached
      refine ⟨fun canceled => absurd canceled (by simp [spared]), ?_⟩
      rintro (strikes | ⟨-, precludes⟩)
      · exact absurd rfl (strikes.precludes generation.campaign generation brings)
      · exact absurd rfl (precludes generation brings)
    · have other : Precludes campaign ((start faults now).run before) event :=
        fun generation brings here => moves ⟨generation, brings, here⟩
      obtain ⟨earlier, stored, ownedBefore, attachedBefore, -⟩ :=
        stands_of_other sound other found owned attached
      obtain ⟨onlyIf, ifStruck⟩ := ih seesBefore stored ownedBefore attachedBefore
      constructor
      · intro canceled
        cases already : earlier.isCanceled with
        | true => exact .inr ⟨onlyIf already, other⟩
        | false =>
          obtain ⟨mine, strikes, owner⟩ := strikes_of_canceled sound stored found already canceled
          rw [ownedBefore] at owner
          cases owner
          exact .inl strikes
      · rintro (strikes | ⟨struck, -⟩)
        · obtain ⟨_, -, -, reached⟩ := strikes.struck
          rw [found] at reached
          cases reached
          exact .inl (Changeset.isCanceled_canceled _)
        · rcases ifStruck struck with canceled | closed
          · exact isCanceled_or_isClosed sound agrees other stored found ownedBefore canceled
          · exact .inr (closed.step sound agrees other)

/-- In every run that starts with the empty store, whatever failures of the store lie ahead, in
which whoever applies a spec can see all repositories: an application returns a campaign. If its
transaction has succeeded, no changeset that the campaign created and holds is canceled. If it has
found the campaign at its spec already, nothing has changed, and such a changeset is canceled
exactly if, since the last transaction of the campaign that succeeded, a cancellation of it has
struck the changeset. -/
theorem applied_campaign_not_canceled (faults : List Fault) (now : Time) (events : List Event)
    (event : Event) (application : Application) (applied : Campaign)
    (sees : (start faults now).Along Sees (events ++ [event]))
    (returns : ((start faults now).run events).Returns event application applied)
    (id : ChangesetId) (row : Changeset)
    (found : ((start faults now).run (events ++ [event])).store.changesets.find? id = some row)
    (owned : row.isOwnedBy applied.id = true) (attached : row.isAttachedTo applied.id = true) :
    (∀ revision, ((start faults now).run events).Commits event revision applied →
      row.isCanceled = false) ∧
    ((∀ revision, ¬ ((start faults now).run events).Commits event revision applied) →
      ((start faults now).run (events ++ [event])).store =
        ((start faults now).run events).store ∧
      (row.isCanceled = true ↔ (start faults now).Struck events applied.id id)) := by
  have sound := (sound_start faults now).run events
  have begun : (start faults now).store.Agrees := Store.agrees_empty
  have agrees := agrees_run begun (sound_start faults now) events
  have owner : row.ownerId = some applied.id := beq_iff_eq.mp owned
  obtain ⟨seesBefore, seesEvent, -⟩ := along_append.mp sees
  rw [run_append, run_cons, run_nil] at found ⊢
  constructor
  · intro revision commits
    obtain ⟨generation, brings, mine⟩ := commits.brings
    rw [← mine] at owner attached
    exact brings.not_isCanceled sound (grounded_run faults now events) seesEvent found owner
      attached
  · intro idle
    cases returns with
    | moved commits => exact absurd commits (idle _)
    | @found number visible _ spec _ next happens under done already =>
      subst happens
      have kept := store_of_revision?_eq_none under rfl visible
      obtain ⟨known, accepted⟩ := Application.readCampaign_ok done
      have stored := (Store.campaignByName?_eq_some agrees known).1
      have still := Application.isClosed_of_refusal? accepted
      rw [kept] at found
      obtain ⟨onlyIf, ifStruck⟩ := isCanceled_iff_struck faults now events seesBefore found owner
        attached
      refine ⟨kept, onlyIf, fun struck => ?_⟩
      rcases ifStruck struck with canceled | ⟨record, present, shut⟩
      · exact canceled
      · rw [show ((start faults now).run events).store.campaigns.find? applied.id = some applied
          from stored] at present
        cases present
        exact absurd shut (Bool.eq_false_iff.mp still)

end System

namespace Sample

/-- The second generation is applied after the first one, but its transaction is not committed. -/
def stranded : List Event := setUp ++ apply "b"

/-- An event is no call of an application, or whoever makes it can see all repositories. -/
def Seeing : Event → Prop
  | .proceed _ seen => seen = visible
  | _ => True

private theorem sees_of_seeing {system : System} {event : Event} (seeing : Seeing event) :
    System.Sees system event := by
  rintro generation ⟨number, seen, revision, applied, rfl, -, rfl⟩ id repo -
  rw [show seen = visible from seeing]
  rfl

private theorem seeing_stranded : ∀ event ∈ stranded, Seeing event := by
  simp [stranded, setUp, apply, Seeing]

end Sample

open Sample in
/-- The second generation is applied once more, and this time it is committed: the changeset is
queued again. -/
theorem System.applied_campaign_not_canceled_stranded :
    ∃ application applied before row,
      ((start fullDisk (instant 0)).run stranded).store.changesets.find? changeset = some before ∧
      before.isCanceled = true ∧
      ((start fullDisk (instant 0)).run (stranded ++ (apply "b").take 4)).Returns
        (.proceed 0 visible) application applied ∧
      ((start fullDisk (instant 0)).run
        (stranded ++ (apply "b").take 4 ++ [.proceed 0 visible])).store.changesets.find? changeset =
          some row ∧
      row.isOwnedBy applied.id = true ∧ row.isAttachedTo applied.id = true ∧
      row.isCanceled = false := by
  obtain ⟨before, stored, canceled⟩ := Option.map_eq_some_iff.mp (show
    (((start fullDisk (instant 0)).run stranded).store.changesets.find? changeset).map
      (·.isCanceled) = some true by decide +kernel)
  obtain ⟨⟨application, applied⟩, told, here⟩ := Option.map_eq_some_iff.mp (show
    (returned ((start fullDisk (instant 0)).run (stranded ++ (apply "b").take 4)) 0).map
      (·.2.id) = some ⟨5⟩ by decide +kernel)
  obtain ⟨revision, commits, rfl⟩ := of_returned told
  obtain ⟨row, found, known⟩ := Option.map_eq_some_iff.mp (show
    (((start fullDisk (instant 0)).run (stranded ++ (apply "b").take 4 ++
      [.proceed 0 visible])).store.changesets.find? changeset).map
        (fun row => (row.isOwnedBy ⟨5⟩, row.isAttachedTo ⟨5⟩)) = some (true, true) by
    decide +kernel)
  simp only [Prod.mk.injEq] at known
  obtain ⟨owned, attached⟩ := known
  have seeing : ∀ event ∈ stranded ++ (apply "b").take 4 ++ [.proceed 0 visible],
      Seeing event := by simp [stranded, setUp, apply, Seeing]
  have spared := (applied_campaign_not_canceled fullDisk (instant 0)
    (stranded ++ (apply "b").take 4) (.proceed 0 visible) revision.application applied
    (along_of_mem fun event member system => sees_of_seeing (seeing event member))
    (.moved commits) changeset row found (here ▸ owned) (here ▸ attached)).1 revision commits
  exact ⟨revision.application, applied, before, row, stored, canceled, .moved commits, found,
    here ▸ owned, here ▸ attached, spared⟩

open Sample in
/-- The first generation is applied once more instead: it succeeds, in one piece or call by call,
and the changeset stays canceled. -/
theorem System.canceled_changeset_stranded :
    (start fullDisk (instant 0)).Along Sees stranded ∧
    ∃ applied backend row, Access.Ends ((applying "a").run visible
        ((start fullDisk (instant 0)).run stranded).now)
        ((start fullDisk (instant 0)).run stranded).world.backend (.ok applied) backend ∧
      (∃ calls, (((start fullDisk (instant 0)).run stranded).run (.apply 0 (applying "a") ::
        List.replicate calls (.proceed 0 visible))).Returns (.proceed 0 visible) (applying "a")
          applied) ∧
      backend.store.changesets.find? changeset = some row ∧
      row.isOwnedBy applied.id = true ∧ row.isAttachedTo applied.id = true ∧
      row.queueState = .errored ∧ row.failureMessage = some "canceled" ∧
      row.processAfter = none := by
  have meets : leads ((start fullDisk (instant 0)).run stranded) (applying "a") changeset
      (fun applied _ row => row.isOwnedBy applied.id && row.isAttachedTo applied.id &&
        row.isCanceled) = true := by decide +kernel
  obtain ⟨applied, backend, row, ran, found, known⟩ := of_leads meets
  simp only [Bool.and_eq_true, Changeset.isCanceled_iff] at known
  obtain ⟨⟨owned, attached⟩, canceled⟩ := known
  exact ⟨along_of_mem fun event member system => sees_of_seeing (seeing_stranded event member),
    applied, backend, row, ran, returns_of_run ran 0, found, owned, attached, canceled⟩

end BatchChanges
