import BatchChanges.Proofs.Store.Freshness
import BatchChanges.Proofs.System.Failures

/-! # What closing a campaign does

A closure ends in one of two ways. It fails because there is no such campaign, because the actor may
not close it or because a failure ahead strikes, and then the store is as it was. Or it succeeds; if
the campaign was open, it is told and stored with the time of its closing, on demand its open pull
requests are queued to be closed, and there is no other difference. A campaign that is closed stays
closed as it is, whoever closes it again.
-/

namespace BatchChanges

/-- An actor may act for himself, and a site admin for everybody. -/
theorem Actor.mayActFor_iff {actor : Actor} {owner : UserId} :
    actor.mayActFor owner = true ↔ actor.siteAdmin = true ∨ actor.userId = owner := by
  simp [mayActFor]

/-- The pull requests that are closed with a campaign are those that it opened and that are open. -/
theorem Changeset.isClosedWith_iff {row : Changeset} {campaign : CampaignId} :
    row.isClosedWith campaign = true ↔ row.ownerId = some campaign ∧
      row.publication = .published ∧
      (row.externalState = some .opened ∨ row.externalState = some .draft) := by
  simp [isClosedWith, isOwnedBy, isPublished, isOpen, and_assoc]

namespace Closure

variable {closure : Closure} {campaign : Campaign} {now : Time} {backend next : Backend}
  {changesets : List Changeset} {details : String → Prop}

/-- Queueing changesets that have numbers writes over rows and does nothing else. -/
theorem queue_frame (numbers : ∀ row ∈ changesets, row.id ≠ .unsaved)
    (done : Access.Ends (queue now changesets) backend (.ok ()) next) :
    next.store = { backend.store with changesets := next.store.changesets } := by
  induction changesets generalizing backend with
  | nil =>
    obtain ⟨-, rfl⟩ := Access.ends_pure_ok.mp done
    rfl
  | cons changeset rest ih =>
    obtain ⟨number, numbers⟩ := List.forall_mem_cons.mp numbers
    simp only [queue, Access.ends_bind_ok] at done
    obtain ⟨stored, middle, upserted, others⟩ := done
    rw [ih numbers others]
    obtain ⟨unsaved, -⟩ | ⟨-, -, same⟩ := Store.upsertChangeset_eq_ok (Access.call_ok upserted)
    · exact absurd unsaved number
    · rw [same]

/-- Queueing changesets that are stored fails only because of a failure ahead. -/
theorem queue_error {error : StoreError} (tells : backend.Tells details)
    (stored : ∀ row ∈ changesets, backend.store.changesets.contains row.id = true)
    (failed : Access.Ends (queue now changesets) backend (.error error) next) :
    ∃ detail, details detail ∧ error = .backend detail := by
  induction changesets generalizing backend with
  | nil => cases failed
  | cons changeset rest ih =>
    obtain ⟨present, stored⟩ := List.forall_mem_cons.mp stored
    rw [queue, Access.ends_bind] at failed
    rcases failed with ⟨row, middle, upserted, others⟩ | ⟨_, ⟨⟩, refused⟩
    · -- A row that is written stays in the table, and so do all others.
      refine ih (Access.spends_call _ _ upserted tells) (fun other member => ?_) others
      have kept := stored other member
      have written := Store.upsertChangeset_eq_ok (Access.call_ok upserted)
      obtain ⟨-, -, same⟩ | ⟨-, -, same⟩ := written <;> simp [same, Table.contains_insert, kept]
    · obtain ⟨detail, strikes, same⟩ | missing := Access.call_struck refused
      · exact ⟨detail, (Fault.tells_meet _ tells).2 detail strikes, same⟩
      · simp only [Store.upsertChangeset] at missing
        split_ifs at missing with unsaved known
        exact absurd present known

/-- Inside of the transaction the campaign is written, and on demand its changesets are queued; the
rest of the store stays as it is. -/
theorem close_store {closed : Campaign} (numbered : backend.store.Numbered)
    (done : Access.Ends (closure.close campaign now) backend (.ok closed) next) :
    next.store = { backend.store with
      campaigns := backend.store.campaigns.insert campaign.id closed
      changesets := backend.store.changesets.map fun row =>
        if closure.withChangesets && (row.isAttachedTo closure.id && row.isClosedWith closure.id)
        then row.queuedToClose now else row } := by
  obtain ⟨rfl, written, middle, updated, same, rest⟩ := close_eq_ok done
  have begun := same.trans (Access.updateCampaign_ok updated).2
  obtain ⟨closes, queued⟩ | ⟨without, rfl⟩ := rest
  · have numberedMiddle := same ▸ Access.numbered_of_updateCampaign updated numbered
    have rows : next.store.changesets = backend.store.changesets.map fun row =>
        if row.isAttachedTo closure.id && row.isClosedWith closure.id then row.queuedToClose now
        else row := by
      refine Table.ext_find? fun id => ?_
      rw [queue_attached_ok numberedMiddle queued, begun, Table.find?_map]
    have frame := queue_frame (fun row member => ?_) queued
    · rw [frame, rows, begun]
      simp only [closes, Bool.true_and]
    · simp only [List.mem_filter, Store.changesetsOf] at member
      exact numberedMiddle.ne_unsaved (numberedMiddle.find?_of_mem member.1.1)
  · have rows : (backend.store.changesets.map fun row => row) = backend.store.changesets :=
      Table.ext_find? fun id => by rw [Table.find?_map, Option.map_id']
    simp only [begun, without, Bool.false_and, Bool.false_eq_true, if_false, rows]

/-- What happens inside of the transaction fails only because of a failure ahead. -/
theorem close_error {error : StoreError} (numbered : backend.store.Numbered)
    (tells : backend.Tells details)
    (known : backend.store.campaigns.contains campaign.id = true)
    (failed : Access.Ends (closure.close campaign now) backend (.error error) next) :
    ∃ detail, details detail ∧ error = .backend detail := by
  rw [close, Access.ends_bind] at failed
  rcases failed with ⟨⟨⟩, middle, updated, rest⟩ | ⟨_, ⟨⟩, refused⟩
  · have numberedMiddle := Access.numbered_of_updateCampaign updated numbered
    have told := Access.spends_call _ _ updated tells
    split at rest
    · rw [Access.ends_bind] at rest
      rcases rest with ⟨changesets, listed, read, rest⟩ | ⟨_, ⟨⟩, refused⟩
      · obtain ⟨rfl, same⟩ := Access.call_read_ok read
        rw [Access.ends_bind] at rest
        rcases rest with ⟨⟨⟩, last, -, ⟨⟩⟩ | ⟨_, ⟨⟩, refused⟩
        refine queue_error (Access.spends_call _ _ read told) (fun row member => ?_) refused
        simp only [List.mem_filter, Store.changesetsOf] at member
        exact same ▸ Table.contains_iff.mpr ⟨row, numberedMiddle.find?_of_mem member.1.1⟩
      · obtain ⟨detail, same, ahead⟩ := Access.call_refused told refused
        exact ⟨detail, ahead, same⟩
    · cases rest
  · obtain ⟨detail, strikes, same⟩ | missing := Access.call_struck refused
    · exact ⟨detail, (Fault.tells_meet _ tells).2 detail strikes, same⟩
    · simp only [Store.replaceCampaign, known, if_true] at missing
      cases missing

/-- Reading the campaign fails if there is none, if the actor may not close it, or if a failure
ahead strikes. -/
theorem readCampaign_eq_error {error : CampaignError}
    (failed : Access.Ends closure.readCampaign backend (.error error) next) :
    backend.store.campaigns.find? closure.id = none ∧ error = .campaignNotFound closure.id ∨
      (∃ campaign, backend.store.campaigns.find? closure.id = some campaign ∧
        closure.actor.mayActFor campaign.initialApplierId = false ∧
        error = .unauthorized closure.actor.userId) ∨
      ∃ detail, (Fault.meet .readCampaign backend.faults).1 = some detail ∧
        error = .store (.backend detail) := by
  rw [readCampaign, Access.ends_bind] at failed
  rcases failed with ⟨found, middle, read, rest⟩ | ⟨_, ⟨⟩, failed⟩
  · obtain ⟨known, -⟩ := Access.call_read_ok (Access.ends_wrapping_ok.mp read)
    split at rest
    · obtain ⟨⟨⟩, -⟩ := Access.ends_throw.mp rest
      exact .inl ⟨known, rfl⟩
    · next campaign =>
      split at rest
      · cases rest
      · next denied =>
        obtain ⟨⟨⟩, -⟩ := Access.ends_throw.mp rest
        exact .inr (.inl ⟨campaign, known, Bool.eq_false_iff.mpr denied, rfl⟩)
  · obtain ⟨detail, strikes, rfl⟩ := Access.wrapped_read_struck failed
    exact .inr (.inr ⟨detail, strikes, rfl⟩)

/-- Once the campaign is known to be open, a closure fails only because of a failure ahead, inside
of the transaction or at its commit. -/
theorem attempt_error {before : Store} {error : CampaignError}
    (numbered : backend.store.Numbered) (tells : backend.Tells details)
    (known : backend.store.campaigns.contains campaign.id = true)
    (failed : Access.Ends (do
      match ← Access.attempt (closure.close campaign now) with
      | .ok closed =>
        Access.wrapping .store (Access.commit before)
        return closed
      | .error cause =>
        Access.restore before
        throw (.store cause)) backend (.error error) next) :
    ∃ detail, details detail ∧ error = .store (.backend detail) := by
  rw [Access.ends_bind] at failed
  rcases failed with ⟨tried, second, attempted, ended⟩ | ⟨_, -, failed⟩
  · obtain ⟨outcome, ⟨⟩, closes⟩ := Access.ends_attempt.mp attempted
    cases tried with
    | ok closed =>
      rw [Access.ends_bind] at ended
      rcases ended with ⟨⟨⟩, third, committed, ⟨⟩⟩ | ⟨_, ⟨⟩, failed⟩
      obtain ⟨cause, rfl, struck⟩ := Access.ends_wrapping_error.mp failed
      obtain ⟨detail, strikes, rfl⟩ := Access.commit_struck struck
      have told := spends_close _ _ _ closes tells
      exact ⟨detail, (Fault.tells_meet _ told).2 detail strikes, rfl⟩
    | error cause =>
      rw [Access.ends_bind] at ended
      rcases ended with ⟨⟨⟩, third, restored, thrown⟩ | ⟨_, ⟨⟩, failed⟩
      · obtain ⟨⟨⟩, rfl⟩ := Access.ends_throw.mp thrown
        obtain ⟨detail, ahead, rfl⟩ := close_error numbered tells known closes
        exact ⟨detail, ahead, rfl⟩
      · cases failed
  · obtain ⟨_, ⟨⟩, -⟩ := Access.ends_attempt.mp failed

/-- A closure fails for the campaign that it finds, or because of a failure ahead. -/
theorem run_eq_error {error : CampaignError} (distinct : backend.store.Distinct)
    (tells : backend.Tells details)
    (failed : Access.Ends (closure.run now) backend (.error error) next) :
    backend.store.campaigns.find? closure.id = none ∧ error = .campaignNotFound closure.id ∨
      (∃ campaign, backend.store.campaigns.find? closure.id = some campaign ∧
        closure.actor.mayActFor campaign.initialApplierId = false ∧
        error = .unauthorized closure.actor.userId) ∨
      ∃ detail, details detail ∧ error = .store (.backend detail) := by
  rw [run, Access.ends_bind] at failed
  rcases failed with ⟨before, first, begun, rest⟩ | ⟨_, ⟨⟩, failed⟩
  · replace begun := Access.ends_wrapping_ok.mp begun
    obtain ⟨-, same⟩ := Access.begin_ok begun
    have told := Access.spends_call _ _ begun tells
    rw [Access.ends_bind] at rest
    rcases rest with ⟨campaign, second, read, rest⟩ | ⟨_, ⟨⟩, failed⟩
    · obtain ⟨found, -⟩ := readCampaign_eq_ok read
      have kept := (readCampaign_store read).trans same
      have known : second.store.campaigns.contains campaign.id = true := by
        refine Table.contains_iff.mpr ⟨campaign, ?_⟩
        rw [same] at found
        rwa [kept, distinct.campaigns_id found]
      have numbered : second.store.Numbered := kept ▸ distinct.toNumbered
      split at rest
      · cases rest
      · exact .inr (.inr (attempt_error numbered (spends_readCampaign _ read told) known rest))
    · rw [← same]
      refine (readCampaign_eq_error failed).imp_right (.imp_right ?_)
      rintro ⟨detail, strikes, rfl⟩
      exact ⟨detail, (Fault.tells_meet _ told).2 detail strikes, rfl⟩
  · obtain ⟨cause, rfl, struck⟩ := Access.ends_wrapping_error.mp failed
    obtain ⟨detail, rfl, ahead⟩ := Access.call_refused tells struck
    exact .inr (.inr ⟨detail, ahead, rfl⟩)

/-- A campaign that is open is closed, and its transaction is all that happens to the store. -/
theorem run_of_open {closed : Campaign} (distinct : backend.store.Distinct)
    (found : backend.store.campaigns.find? closure.id = some campaign)
    (still : campaign.isClosed = false)
    (ended : Access.Ends (closure.run now) backend (.ok closed) next) :
    closed = { campaign with closedAt := some now, updatedAt := now } ∧
      next.store = { backend.store with
        campaigns := backend.store.campaigns.insert closure.id closed
        changesets := backend.store.changesets.map fun row =>
          if closure.withChangesets && (row.isAttachedTo closure.id && row.isClosedWith closure.id)
          then row.queuedToClose now else row } := by
  obtain ⟨stored, known, -, ⟨already, -⟩ | ⟨-, first, last, begun, kept, closes⟩⟩ := run_eq_ok ended
  · obtain rfl := Option.some.inj (found.symm.trans known)
    rw [still] at already
    cases already
  · obtain rfl := Option.some.inj (found.symm.trans known)
    refine ⟨(close_eq_ok closes).1, ?_⟩
    rw [kept, close_store (begun ▸ distinct.toNumbered) closes, begun, distinct.campaigns_id found]

/-- A campaign that is closed already is told as it is, or a failure ahead strikes when its
transaction begins or reads it; the store stays as it is. -/
theorem run_of_closed {result : Except CampaignError Campaign}
    (found : backend.store.campaigns.find? closure.id = some campaign)
    (already : campaign.isClosed = true)
    (allowed : closure.actor.mayActFor campaign.initialApplierId = true)
    (ended : Access.Ends (closure.run now) backend result next) :
    next.store = backend.store ∧ (result = .ok campaign ∨
      ∃ call ∈ [StoreCall.begin, .readCampaign], ∃ detail,
        (Fault.meet call backend.faults).1 = some detail ∧
        result = .error (.store (.backend detail))) := by
  rw [run, Access.ends_bind] at ended
  rcases ended with ⟨before, first, begun, rest⟩ | ⟨_, rfl, failed⟩
  · replace begun := Access.ends_wrapping_ok.mp begun
    obtain ⟨-, same⟩ := Access.begin_ok begun
    rw [← same] at found
    rw [Access.ends_bind] at rest
    rcases rest with ⟨stored, second, read, rest⟩ | ⟨_, rfl, refused⟩
    · obtain ⟨known, -⟩ := readCampaign_eq_ok read
      obtain rfl := Option.some.inj (found.symm.trans known)
      rw [if_pos already] at rest
      cases rest
      exact ⟨(readCampaign_store read).trans same, .inl rfl⟩
    · refine ⟨(readCampaign_store refused).trans same, ?_⟩
      obtain ⟨missing, -⟩ | ⟨stored, known, denied, -⟩ | ⟨detail, strikes, rfl⟩ :=
        readCampaign_eq_error refused
      · rw [found] at missing
        cases missing
      · rw [found] at known
        cases known
        rw [allowed] at denied
        cases denied
      · rw [Access.faults_of_call begun, Fault.meet_meet (by decide)] at strikes
        exact .inr ⟨.readCampaign, by simp, detail, strikes, rfl⟩
  · obtain ⟨_, rfl, struck⟩ := Access.ends_wrapping_error.mp failed
    obtain ⟨detail, strikes, rfl⟩ := Access.call_read_struck struck
    exact ⟨Access.call_read_store struck, .inr ⟨.begin, by simp, detail, strikes, rfl⟩⟩

end Closure

open Closure in
/-- In every store that comes about, for every closure, time and failures ahead. A closure that
fails leaves the store as it was, and it fails only if there is no such campaign, if the actor is
neither its first applier nor a site admin, or because of a failure ahead. A closure that succeeds
tells the campaign as it is stored then. If the campaign was open, it is as before but for the times
of its closing and update; on demand, exactly the changesets that it created and holds and that have
an open pull request are to be closed and queued with a clean record of failures; nothing else in
the store is different. Whoever may close the campaign is told the same from then on, as long as it
is stored so, and changes nothing; only a transaction that cannot begin or cannot read the campaign
fails. -/
theorem closes_exactly_once {closure : Closure} {now : Time} {backend next : Backend}
    {result : Except CampaignError Campaign} (arises : (∅ : Store).Leads backend.store)
    (ended : Access.Ends (closure.run now) backend result next) :
    (∀ error, result = .error error → next.store = backend.store ∧
      (backend.store.campaigns.find? closure.id = none ∧ error = .campaignNotFound closure.id ∨
        (∃ campaign, backend.store.campaigns.find? closure.id = some campaign ∧
          closure.actor.siteAdmin = false ∧ closure.actor.userId ≠ campaign.initialApplierId ∧
          error = .unauthorized closure.actor.userId) ∨
        ∃ call detail, Fault.Ahead backend.faults call detail ∧
          error = .store (.backend detail))) ∧
    ∀ closed, result = .ok closed →
      next.store.campaigns.find? closure.id = some closed ∧ closed.isClosed = true ∧
      ∃ campaign, backend.store.campaigns.find? closure.id = some campaign ∧
        (closure.actor.siteAdmin = true ∨ closure.actor.userId = campaign.initialApplierId) ∧
        (campaign.isClosed = true → closed = campaign ∧ next.store = backend.store) ∧
        (campaign.isClosed = false →
          closed = { campaign with closedAt := some now, updatedAt := now } ∧
          next.store = { backend.store with
            campaigns := backend.store.campaigns.insert closure.id closed
            changesets := backend.store.changesets.map fun row =>
              if closure.withChangesets = true ∧ row.campaignIds.contains closure.id = true ∧
                  row.ownerId = some closure.id ∧ row.publication = .published ∧
                  (row.externalState = some .opened ∨ row.externalState = some .draft)
              then { row with
                closing := true, queueState := .queued, failureMessage := none, failures := 0,
                processAfter := none, updatedAt := now }
              else row }) ∧
        ∀ (again : Closure) (later : Time) (standing after : Backend) outcome,
          again.id = closure.id →
          (again.actor.siteAdmin = true ∨ again.actor.userId = campaign.initialApplierId) →
          standing.store.campaigns.find? closure.id = some closed →
          Access.Ends (again.run later) standing outcome after →
          after.store = standing.store ∧ (outcome = .ok closed ∨
            ∃ call ∈ [StoreCall.begin, .readCampaign], ∃ detail,
              (Fault.meet call standing.faults).1 = some detail ∧
              outcome = .error (.store (.backend detail))) := by
  obtain ⟨distinct, -⟩ := Store.distinct_empty.leads arises
  constructor
  · rintro error rfl
    have tells : backend.Tells fun detail => ∃ call, Fault.Ahead backend.faults call detail :=
      fun fault member => ⟨fault.call, fault, member, rfl, rfl⟩
    refine ⟨run_error ended, ?_⟩
    obtain missing | ⟨campaign, found, denied, same⟩ | ⟨detail, ⟨call, ahead⟩, same⟩ :=
      run_eq_error distinct tells ended
    · exact .inl missing
    · rw [← Bool.not_eq_true, Actor.mayActFor_iff, not_or, Bool.not_eq_true] at denied
      exact .inr (.inl ⟨campaign, found, denied.1, denied.2, same⟩)
    · exact .inr (.inr ⟨call, detail, ahead, same⟩)
  · rintro closed rfl
    obtain ⟨campaign, found, allowed, before⟩ := run_eq_ok ended
    have stays : campaign.isClosed = true → closed = campaign ∧ next.store = backend.store := by
      intro already
      obtain ⟨-, same⟩ | ⟨still, -⟩ := before
      · exact same
      · rw [already] at still
        cases still
    have closes (still : campaign.isClosed = false) := run_of_open distinct found still ended
    have stored : next.store.campaigns.find? closure.id = some closed ∧ closed.isClosed = true ∧
        closed.initialApplierId = campaign.initialApplierId := by
      cases open? : campaign.isClosed with
      | true =>
        obtain ⟨rfl, same⟩ := stays open?
        exact ⟨same ▸ found, open?, rfl⟩
      | false =>
        obtain ⟨rfl, same⟩ := closes open?
        exact ⟨by simp [same], rfl, rfl⟩
    refine ⟨stored.1, stored.2.1, campaign, found, Actor.mayActFor_iff.mp allowed, stays,
      fun still => ?_, fun again later standing after outcome here may known ended => ?_⟩
    · obtain ⟨told, same⟩ := closes still
      refine ⟨told, same.trans ?_⟩
      simp only [Bool.and_eq_true, Changeset.isClosedWith_iff]
      rfl
    · exact run_of_closed (here ▸ known) stored.2.1
        (Actor.mayActFor_iff.mpr (stored.2.2 ▸ may)) ended

namespace Concluded

def campaign : Campaign where
  id := .unsaved
  name := "bump"
  description := ""
  space := .user ⟨7⟩
  campaignSpecId := ⟨9⟩
  changesetIds := IdSet.ofList [⟨2⟩, ⟨3⟩]
  initialApplierId := ⟨7⟩
  lastApplierId := ⟨7⟩
  lastAppliedAt := .epoch
  closedAt := none
  createdAt := .epoch
  updatedAt := .epoch

def row (owner : Option CampaignId) : Changeset where
  id := .unsaved
  repoId := ⟨1⟩
  codeHost := .github
  externalId := some "101"
  externalState := some .opened
  publication := .published
  ownerId := owner
  campaignIds := IdSet.ofList [⟨1⟩]
  failures := 1
  createdAt := .epoch
  updatedAt := .epoch

/-- The campaign is created with a changeset of its own and one that it tracks. The first one is
claimed. -/
def claimed : List Store.Happening :=
  [.called (.commit [.createCampaign campaign, .upsertChangeset (row (some ⟨1⟩)),
    .upsertChangeset (row none)]), .called (.claim "w" "token" .epoch (.ofSeconds 60))]

def backend : Backend := { store := claimed.foldl Store.Happening.after ∅ }

/-- A site admin closes the campaign with its changesets. -/
def closure : Closure := ⟨⟨1⟩, ⟨⟨8⟩, true⟩, true⟩

def instant : Time := (Time.epoch.add? (.ofSeconds 30)).getD .epoch

/-- The campaign as it is told. -/
def closed : Campaign :=
  { campaign with id := ⟨1⟩, closedAt := some instant, updatedAt := instant }

end Concluded

open Concluded in
/-- Of the two changesets only the one that is the campaign's own is queued, under its lease, which
stays. Closing the campaign again does nothing, for its applier and without its changesets, too. -/
theorem closes_exactly_once_leased : (∅ : Store).Leads backend.store ∧
    ∃ next, Access.Ends (closure.run instant) backend (.ok closed) next ∧
      next.store = { backend.store with
        campaigns := backend.store.campaigns.insert ⟨1⟩ closed
        changesets := next.store.changesets } ∧
      next.store.leases.ids = [⟨2⟩] ∧
      (next.store.changesets.rows.map fun row =>
          (row.id, row.closing, row.queueState, row.failures)) =
        [(⟨2⟩, true, .queued, 0), (⟨3⟩, false, .queued, 1)] ∧
      ∃ last, Access.Ends (Closure.run ⟨⟨1⟩, ⟨⟨7⟩, false⟩, false⟩ .epoch) next (.ok closed) last ∧
        last.store = next.store := by
  have arises : (∅ : Store).Leads backend.store := ⟨claimed, [], rfl⟩
  let next : Backend := (closure.run instant backend).2
  have ended : Access.Ends (closure.run instant) backend (.ok closed) next := by rfl
  obtain ⟨known, -, stored, found, -, -, closes, again⟩ :=
    (closes_exactly_once arises ended).2 closed rfl
  obtain ⟨same, applier⟩ : stored.isClosed = false ∧ stored.initialApplierId = ⟨7⟩ := by
    have here : backend.store.campaigns.find? ⟨1⟩ = some { campaign with id := ⟨1⟩ } := by rfl
    obtain rfl := Option.some.inj (here.symm.trans found)
    exact ⟨rfl, rfl⟩
  have exact := (closes same).2
  let last : Backend := (Closure.run ⟨⟨1⟩, ⟨⟨7⟩, false⟩, false⟩ .epoch next).2
  have closesAgain : Access.Ends (Closure.run ⟨⟨1⟩, ⟨⟨7⟩, false⟩, false⟩ .epoch) next (.ok closed)
      last := by rfl
  refine ⟨arises, next, ended, ?_, by decide +kernel, by decide +kernel, last, closesAgain, ?_⟩
  · rw [exact]
    rfl
  · exact (again ⟨⟨1⟩, ⟨⟨7⟩, false⟩, false⟩ .epoch next last _ rfl (.inr applier.symm) known
      closesAgain).1

end BatchChanges
