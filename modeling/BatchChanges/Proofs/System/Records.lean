import BatchChanges.Proofs.Campaign.Record
import BatchChanges.Proofs.System.Membership

/-! # Records of campaigns

Seen from one campaign, an event leaves its record alone, closes it, or is the transaction of an
application. Between its reading of the campaign and its transaction, an application holds a
revision: the record that it is going to write, drawn up from the record that it has read. Nobody
else knows of the revision, and it does not follow what becomes of the stored record.
-/

namespace BatchChanges

namespace Closure

variable {closure : Closure} {now : Time} {backend next : Backend}

/-- A closure closes a stored campaign that is open, or writes none. -/
theorem campaigns_of_run {result : Except CampaignError Campaign}
    (numbered : backend.store.Numbered) (agrees : backend.store.Agrees)
    (done : Access.Ends (closure.run now) backend result next) :
    next.store.campaigns = backend.store.campaigns ∨
      ∃ campaign, backend.store.campaigns.find? closure.id = some campaign ∧
        campaign.isClosed = false ∧
        next.store.campaigns = backend.store.campaigns.insert closure.id
          { campaign with closedAt := some now, updatedAt := now } := by
  cases result with
  | error error => exact .inl (by rw [run_error done])
  | ok closed =>
    obtain ⟨campaign, found, ⟨-, same⟩ | ⟨still, first, last, begun, kept, closes⟩⟩ := run_ok done
    · exact .inl (by rw [same])
    · obtain ⟨-, campaigns⟩ := campaigns_of_close (begun ▸ numbered) closes
      obtain ⟨rfl, -⟩ := close_eq_ok closes
      refine .inr ⟨campaign, found, still, ?_⟩
      rw [kept, campaigns, begun, (agrees.lists found).1]

/-- After a closure that succeeds, its campaign is closed. -/
theorem isClosed_of_run {closed : Campaign} (numbered : backend.store.Numbered)
    (agrees : backend.store.Agrees)
    (done : Access.Ends (closure.run now) backend (.ok closed) next) :
    ∃ campaign, next.store.campaigns.find? closure.id = some campaign ∧
      campaign.isClosed = true := by
  obtain ⟨campaign, found, ⟨already, same⟩ | ⟨-, first, last, begun, kept, closes⟩⟩ := run_ok done
  · exact ⟨campaign, by rw [same, found], already⟩
  · obtain ⟨-, campaigns⟩ := campaigns_of_close (begun ▸ numbered) closes
    obtain ⟨rfl, -⟩ := close_eq_ok closes
    refine ⟨{ campaign with closedAt := some now, updatedAt := now }, ?_, rfl⟩
    rw [kept, campaigns, (agrees.lists found).1, Table.find?_insert, if_pos rfl]

end Closure

/-- An application has read a campaign and is going to write another record in its stead. -/
structure Revision where
  application : Application
  spec : CampaignSpec
  campaign : Campaign
  now : Time

/-- The revision that an application under way holds. -/
def Applying.revision? : Applying → Option Revision
  | canceling application spec campaign now => some ⟨application, spec, campaign, now⟩
  | rewiring application spec campaign now => some ⟨application, spec, campaign, now⟩
  | _ => none

/-- A revision was drawn up from a record that the application accepted. -/
def Revision.Draws (revision : Revision) (existing : Option Campaign) : Prop :=
  revision.application.refusal? existing = none ∧
    revision.campaign = revision.application.revised revision.spec existing revision.now

namespace System

variable {system next : System} {event : Event} {number : Nat} {applying : Applying}
  {revision : Revision} {applied : Campaign} {id : CampaignId}

/-- An application under way holds a revision. -/
def Prepares (system : System) (revision : Revision) : Prop :=
  ∃ number applying, system.applications number = some applying ∧
    applying.revision? = some revision

/-- The transaction of an application writes its revision. -/
def Commits (system : System) (event : Event) (revision : Revision) (applied : Campaign) : Prop :=
  ∃ number visible next, event = .proceed number visible ∧
    system.applications number = some
      (.rewiring revision.application revision.spec revision.campaign revision.now) ∧
    Access.Ends (revision.application.transact visible revision.spec revision.campaign revision.now)
      system.world.backend (.ok applied) next

theorem Commits.prepares (commits : system.Commits event revision applied) :
    system.Prepares revision := by
  obtain ⟨number, visible, backend, -, under, -⟩ := commits
  exact ⟨number, _, under, rfl⟩

/-- The transaction is all that happens to the store. -/
theorem Commits.transacts (commits : system.Commits event revision applied) :
    ∃ number visible next, event = .proceed number visible ∧
      Access.Ends
        (revision.application.transact visible revision.spec revision.campaign revision.now)
        system.world.backend (.ok applied) next ∧
      (system.step event).store = next.store := by
  obtain ⟨number, visible, next, rfl, under, done⟩ := commits
  refine ⟨number, visible, next, rfl, done, ?_⟩
  simp only [Access.Ends] at done
  simp only [step, under, Applying.proceed, done]
  rfl

/-- The last call of an application writes its revision, or it leaves the store alone. -/
theorem commits_or_same {application : Application} {spec : CampaignSpec} {campaign : Campaign}
    {now : Time}
    (under : system.applications number = some (.rewiring application spec campaign now))
    (visible : Visibility) :
    (∃ applied,
      system.Commits (.proceed number visible) ⟨application, spec, campaign, now⟩ applied) ∨
    (system.step (.proceed number visible)).store = system.store := by
  have ended := Access.ends_self (application.transact visible spec campaign now)
    system.world.backend
  cases outcome : (application.transact visible spec campaign now system.world.backend).1 with
  | ok applied =>
    rw [outcome] at ended
    exact .inl ⟨applied, number, visible, _, rfl, under, ended⟩
  | error error =>
    rw [outcome] at ended
    simp only [step, under, Applying.proceed]
    exact .inr (Application.transact_error ended)

/-- What is written is the revision; only the list of changesets is drawn up anew, and a new
campaign gets its number. -/
theorem Commits.record (commits : system.Commits event revision applied) (sound : system.Sound) :
    applied = { revision.campaign with id := applied.id, changesetIds := applied.changesetIds } := by
  obtain ⟨number, visible, backend, -, -, done⟩ := commits
  exact (Application.record_of_transact sound.numbered done).1

/-- Nothing else is written. -/
theorem Commits.find? (commits : system.Commits event revision applied) (sound : system.Sound)
    (id : CampaignId) : (system.step event).store.campaigns.find? id =
      if applied.id = id then some applied else system.store.campaigns.find? id := by
  obtain ⟨_, _, next, -, done, reached⟩ := commits.transacts
  rw [reached]
  exact (Application.contains_of_transact sound.numbered done).1 id

/-- Where an application under way comes from: it was there before, it begins, or it has made a
call. -/
inductive Applies (system : System) (event : Event) (number : Nat) : Applying → Prop
  | stays {applying : Applying} (under : system.applications number = some applying) :
      Applies system event number applying
  | begun {application : Application} (happens : event = .apply number application) :
      Applies system event number (.reading application)
  | read {application : Application} {spec : CampaignSpec} {visible : Visibility} {next : Backend}
      (happens : event = .proceed number visible)
      (under : system.applications number = some (.reading application))
      (done : Access.Ends application.readSpec system.world.backend (.ok spec) next) :
      Applies system event number (.resolving application spec)
  | resolved {application : Application} {spec : CampaignSpec} {existing : Option Campaign}
      {visible : Visibility} {next : Backend} (happens : event = .proceed number visible)
      (under : system.applications number = some (.resolving application spec))
      (done : Access.Ends (application.readCampaign spec) system.world.backend (.ok existing) next)
      (moves : existing.filter (·.campaignSpecId == spec.id) = none) :
      Applies system event number
        (.canceling application spec (application.revised spec existing system.now) system.now)
  | canceled {application : Application} {spec : CampaignSpec} {campaign : Campaign} {now : Time}
      {visible : Visibility} (happens : event = .proceed number visible)
      (under : system.applications number = some (.canceling application spec campaign now)) :
      Applies system event number (.rewiring application spec campaign now)

private theorem applies_of_proceed {visible : Visibility}
    (under : system.applications number = some applying) {rest : Applying}
    (goes : (applying.proceed visible system.now system.world.backend).1 = some rest) :
    Applies system (.proceed number visible) number rest := by
  cases applying with
  | reading application =>
    simp only [Applying.proceed] at goes
    split at goes
    · next spec backend read =>
      cases goes
      exact .read rfl under read
    · cases goes
  | resolving application spec =>
    simp only [Applying.proceed] at goes
    split at goes
    · next existing backend read =>
      split at goes
      · cases goes
      · next moves =>
        cases goes
        exact .resolved rfl under read moves
    · cases goes
  | canceling application spec campaign now =>
    cases goes
    exact .canceled rfl under
  | rewiring application spec campaign now => cases goes

private theorem applications_ask (number : Nat) (flight : Flight) (settings : Settings)
    (reply : HostReply) :
    (system.ask number flight settings reply).applications = system.applications := by
  simp only [ask]
  split
  · rfl
  · split <;> rfl

/-- Every application under way comes from somewhere. -/
theorem applies (under : (system.step event).applications number = some applying) :
    Applies system event number applying := by
  have left : (system.step event).applications = system.applications →
      Applies system event number applying := fun same => .stays (same ▸ under)
  cases event with
  | apply other application =>
    simp only [step, Function.update_apply] at under
    split at under
    · next same =>
      cases under
      exact .begun (same ▸ rfl)
    · exact .stays under
  | proceed other visible =>
    simp only [step] at under
    split at under
    · next before here =>
      simp only [Function.update_apply] at under
      split at under
      · next same =>
        subst same
        exact applies_of_proceed here under
      · exact .stays under
    · exact .stays under
  | claim worker length =>
    refine left ?_
    simp only [step, claim]
    split <;> rfl
  | ask other settings reply =>
    refine left ?_
    simp only [step]
    split
    · exact applications_ask other _ settings reply
    · rfl
  | conclude other policy =>
    refine left ?_
    simp only [step]
    split
    · simp only [conclude]
      split <;> rfl
    · rfl
  | _ => exact left rfl

/-- A revision was held before, or it is drawn up from the campaign that is stored. -/
theorem Prepares.before (prepares : (system.step event).Prepares revision) :
    system.Prepares revision ∨
      revision.Draws (system.store.campaignByName? revision.spec.space revision.spec.name) := by
  obtain ⟨number, applying, under, holds⟩ := prepares
  cases applies under with
  | stays before => exact .inl ⟨number, applying, before, holds⟩
  | begun => cases holds
  | read => cases holds
  | resolved happens before done moves =>
    cases holds
    obtain ⟨found, accepted⟩ := Application.readCampaign_ok done
    refine .inr ?_
    rw [show system.store.campaignByName? _ _ = _ from found]
    exact ⟨accepted, rfl⟩
  | canceled happens before => exact .inl ⟨number, _, before, holds⟩

/-- Every revision was drawn up from some record. -/
theorem draws_run (events : List Event)
    (drawn : ∀ revision, system.Prepares revision → ∃ existing, revision.Draws existing)
    (prepares : (system.run events).Prepares revision) : ∃ existing, revision.Draws existing := by
  induction events generalizing system with
  | nil => exact drawn revision prepares
  | cons event rest ih =>
    refine ih ?_ prepares
    intro revision prepares
    rcases prepares.before with before | draws
    · exact drawn revision before
    · exact ⟨_, draws⟩

theorem draws_start (faults : List Fault) (now : Time) (events : List Event)
    (prepares : ((start faults now).run events).Prepares revision) :
    ∃ existing, revision.Draws existing :=
  draws_run events (fun _ ⟨_, _, under, _⟩ => by cases under) prepares

/-- What becomes of the record of one campaign. -/
inductive Rewrites (system : System) (event : Event) (id : CampaignId) :
    Option Campaign → Option Campaign → Prop
  | kept (record : Option Campaign) : Rewrites system event id record record
  | closed {closure : Closure} {record : Campaign} (happens : event = .close closure)
      (here : closure.id = id) (still : record.isClosed = false) :
      Rewrites system event id (some record)
        (some { record with closedAt := some system.now, updatedAt := system.now })
  | revised {revision : Revision} {applied record : Campaign}
      (commits : system.Commits event revision applied) (about : revision.campaign.id = id)
      (here : applied.id = id) : Rewrites system event id (some record) (some applied)
  | created {revision : Revision} {applied : Campaign}
      (commits : system.Commits event revision applied)
      (unsaved : revision.campaign.id.isUnsaved = true) (fresh : system.store.lastId < id.value)
      (here : applied.id = id) : Rewrites system event id none (some applied)

/-- Every event is one of these changes to each record. -/
theorem rewrites (sound : system.Sound) (agrees : system.store.Agrees) (event : Event)
    (id : CampaignId) :
    Rewrites system event id (system.store.campaigns.find? id)
      ((system.step event).store.campaigns.find? id) := by
  by_cases transacts : system.Transacts event
  · cases event with
    | proceed number visible =>
      obtain ⟨application, spec, campaign, now, under⟩ := transacts
      rcases commits_or_same under visible with ⟨applied, commits⟩ | same
      · rw [commits.find? sound]
        split
        · next here =>
          obtain ⟨_, _, _, -, done, -⟩ := commits.transacts
          rcases (Application.record_of_transact sound.numbered done).2 with
            ⟨⟨before, found⟩, same⟩ | ⟨unsaved, fresh⟩
          · have stored : system.store.campaigns.find? id = some before :=
              (same.symm.trans here) ▸ found
            rw [stored]
            exact .revised commits (same.symm.trans here) here
          · have none : system.store.campaigns.find? id = none := by
              cases present : system.store.campaigns.find? id with
              | none => rfl
              | some before =>
                exact absurd (sound.numbered.campaigns present) (Int.not_le.mpr (here ▸ fresh))
            rw [none]
            exact .created commits unsaved (here ▸ fresh) here
        · exact .kept _
      · rw [same]
        exact .kept _
    | close closure =>
      have ended := Access.ends_self (closure.run system.now) system.world.backend
      rcases closure.campaigns_of_run sound.numbered agrees ended with
        same | ⟨campaign, found, still, same⟩
      · rw [show (system.step (.close closure)).store.campaigns = _ from same]
        exact .kept _
      · rw [show (system.step (.close closure)).store.campaigns = _ from same, Table.find?_insert]
        split
        · next here =>
          subst here
          rw [show system.store.campaigns.find? closure.id = some campaign from found]
          exact .closed rfl rfl still
        · exact .kept _
    | _ => cases transacts
  · rw [(System.transition sound.numbered event).campaigns transacts]
    exact .kept _

/-- Campaigns keep having positive numbers. -/
theorem campaign_pos_run (sound : system.Sound) (agrees : system.store.Agrees)
    (positive : ∀ {id campaign}, system.store.campaigns.find? id = some campaign → 0 < id.value)
    (events : List Event) {campaign : Campaign}
    (found : (system.run events).store.campaigns.find? id = some campaign) : 0 < id.value := by
  induction events generalizing system with
  | nil => exact positive found
  | cons event rest ih =>
    refine ih (sound.step event) (agrees_step agrees sound event) ?_ found
    intro id campaign found
    have rewritten := rewrites sound agrees event id
    rw [found] at rewritten
    generalize before : system.store.campaigns.find? id = record at rewritten
    cases rewritten with
    | kept => exact positive before
    | closed happens here still => exact positive before
    | revised commits about here => exact positive before
    | created commits unsaved fresh here =>
      exact Int.lt_of_le_of_lt sound.numbered.lastId_nonneg fresh

/-- The number of a stored campaign is not the one that stands for none. -/
theorem isUnsaved_of_stored (faults : List Fault) (now : Time) (events : List Event)
    {campaign : Campaign}
    (found : ((start faults now).run events).store.campaigns.find? id = some campaign) :
    id.isUnsaved = false := by
  have agrees : (start faults now).store.Agrees := Store.agrees_empty
  have positive := campaign_pos_run (sound_start faults now) agrees nofun events found
  rw [← Bool.not_eq_true, Id.isUnsaved_iff]
  rintro rfl
  exact absurd positive (Int.lt_irrefl 0)

end System

end BatchChanges
