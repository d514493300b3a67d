import BatchChanges.Proofs.Campaign.Refusal
import BatchChanges.Proofs.System.Following

/-! # Which campaign is which

No two campaigns have the same namespace and name. The store sees to that when it creates a
campaign, and only then: an application writes the whole record that it has drawn up over the stored
one. But it has drawn its record up from one of the same name, from which it takes over what tells
campaigns apart. Of the applications that have found no campaign of a name, the first one whose
transaction succeeds creates the campaign, and the others fail.
-/

namespace BatchChanges

/-- What tells a campaign apart, and who applied it first and when. -/
def Campaign.identity (campaign : Campaign) : CampaignId × Namespace × String × UserId × Time :=
  (campaign.id, campaign.space, campaign.name, campaign.initialApplierId, campaign.createdAt)

namespace Store

variable {store : Store} {space : Namespace} {name : String} {campaign : Campaign}

/-- A campaign that is found by its name is stored under its number. -/
theorem campaignByName?_eq_some (agrees : store.Agrees)
    (found : store.campaignByName? space name = some campaign) :
    store.campaigns.find? campaign.id = some campaign ∧ campaign.space = space ∧
      campaign.name = name := by
  have named := List.find?_some found
  simp only [Bool.and_eq_true, beq_iff_eq] at named
  obtain ⟨id, stored⟩ := Table.mem_rows_iff.mp (List.mem_of_find?_eq_some found)
  exact ⟨(agrees.lists stored).1.symm ▸ stored, named⟩

end Store

/-- A revision is of the same identity as the campaign that it was drawn up from. -/
theorem Revision.Draws.identity {revision : Revision} {record : Campaign}
    (draws : revision.Draws (some record)) (space : record.space = revision.spec.space)
    (name : record.name = revision.spec.name) :
    revision.campaign.identity = record.identity := by
  rw [draws.2]
  simp only [Campaign.identity, Application.revised, space, name]
  rfl

namespace System

variable {system : System} {event : Event} {events : List Event} {revision : Revision}
  {applied record after : Campaign} {id : CampaignId}

/-- No two campaigns have the same namespace and name. -/
def NamesApart (system : System) : Prop :=
  ∀ {id other : CampaignId} {first second : Campaign},
    system.store.campaigns.find? id = some first →
    system.store.campaigns.find? other = some second →
    first.space = second.space → first.name = second.name → id = other

/-- Campaigns have names and positive numbers of their own, and who is going to write one over
another has the identity right. -/
structure Identified (system : System) : Prop where
  named : system.NamesApart
  known {revision : Revision} (prepares : system.Prepares revision)
    (saved : revision.campaign.id.isUnsaved = false) :
    ∃ record, system.store.campaigns.find? revision.campaign.id = some record ∧
      record.identity = revision.campaign.identity
  positive {id : CampaignId} {record : Campaign}
    (found : system.store.campaigns.find? id = some record) : 0 < id.value

/-- The number of a stored campaign is not the one that stands for none. -/
theorem Identified.saved (identified : system.Identified)
    (found : system.store.campaigns.find? id = some record) : id.isUnsaved = false := by
  rw [← Bool.not_eq_true, Id.isUnsaved_iff]
  rintro rfl
  exact absurd (identified.positive found) (Int.lt_irrefl 0)

theorem identified_start (faults : List Fault) (now : Time) : (start faults now).Identified where
  named found := by cases found
  known prepares := by
    obtain ⟨_, _, under, -⟩ := prepares
    cases under
  positive found := by cases found

/-- The store refuses to create a campaign of a name that is taken. -/
theorem Identified.isDuplicate {campaign : Campaign} (identified : system.Identified)
    (agrees : system.store.Agrees) (found : system.store.campaigns.find? id = some record)
    (unsaved : campaign.id.isUnsaved = true) (space : record.space = campaign.space)
    (name : record.name = campaign.name) :
    system.world.backend.store.isDuplicate campaign = true := by
  refine Store.isDuplicate_iff.mpr ⟨id, record, found, space, name, ?_⟩
  intro same
  have saved := identified.saved found
  rw [← (agrees.lists found).1, same, unsaved] at saved
  cases saved

/-- A campaign that is created gets a number that was never given away. -/
theorem Commits.fresh (commits : system.Commits event revision applied) (sound : system.Sound)
    (unsaved : revision.campaign.id.isUnsaved = true) :
    system.store.lastId < applied.id.value := by
  obtain ⟨number, visible, next, -, -, done⟩ := commits
  exact (Application.transact_ok sound.numbered done).2.1 unsaved

/-- Nobody has created a campaign of a name that was taken. -/
theorem Commits.unnamed (commits : system.Commits event revision applied)
    (identified : system.Identified) (sound : system.Sound) (agrees : system.store.Agrees)
    (unsaved : revision.campaign.id.isUnsaved = true)
    (found : system.store.campaigns.find? id = some record) :
    ¬ (record.space = applied.space ∧ record.name = applied.name) := by
  rintro ⟨space, name⟩
  have same := commits.record sound
  obtain ⟨number, visible, next, -, -, done⟩ := commits
  have duplicate := identified.isDuplicate agrees found unsaved
    (space.trans (congrArg (·.space) same)) (name.trans (congrArg (·.name) same))
  obtain ⟨cause, refused⟩ := Application.transact_of_duplicate unsaved duplicate done
  cases refused

/-- Whoever wants to create a campaign of a name that is taken fails and leaves the store alone. -/
theorem Identified.refuses {number : Nat} {visible : Visibility} {application : Application}
    {spec : CampaignSpec} {campaign : Campaign} {now : Time} (identified : system.Identified)
    (agrees : system.store.Agrees) (found : system.store.campaigns.find? id = some record)
    (under : system.applications number = some (.rewiring application spec campaign now))
    (unsaved : campaign.id.isUnsaved = true) (space : record.space = campaign.space)
    (name : record.name = campaign.name) :
    (∃ cause next, Access.Ends (application.transact visible spec campaign now)
      system.world.backend (.error (.store cause)) next) ∧
    (system.step (.proceed number visible)).store = system.store := by
  have duplicate := identified.isDuplicate agrees found unsaved space name
  have ended := Access.ends_self (application.transact visible spec campaign now)
    system.world.backend
  obtain ⟨cause, refused⟩ := Application.transact_of_duplicate unsaved duplicate ended
  rw [refused] at ended
  refine ⟨⟨cause, _, ended⟩, ?_⟩
  simp only [step, under, Applying.proceed]
  exact Application.transact_error ended

private theorem Rewrites.identity (rewritten : Rewrites system event id (some record) (some after))
    (identified : system.Identified) (sound : system.Sound)
    (stored : system.store.campaigns.find? id = some record) :
    after.identity = record.identity := by
  cases rewritten with
  | kept => rfl
  | closed happens here still => rfl
  | revised commits about here =>
    obtain ⟨before, found, same⟩ :=
      identified.known commits.prepares (about ▸ identified.saved stored)
    rw [about, stored] at found
    cases found
    rw [same, commits.record sound, Campaign.identity, Campaign.identity, about, here]

/-- No campaign is lost, and none becomes another. -/
theorem Identified.keeps (identified : system.Identified) (sound : system.Sound)
    (agrees : system.store.Agrees) (event : Event)
    (stored : system.store.campaigns.find? id = some record) :
    ∃ after, (system.step event).store.campaigns.find? id = some after ∧
      after.identity = record.identity := by
  have rewritten := rewrites sound agrees event id
  rw [stored] at rewritten
  cases later : (system.step event).store.campaigns.find? id with
  | none =>
    rw [later] at rewritten
    cases rewritten
  | some after =>
    rw [later] at rewritten
    exact ⟨after, rfl, rewritten.identity identified sound stored⟩

private theorem Identified.kept_or_created (identified : system.Identified) (sound : system.Sound)
    (agrees : system.store.Agrees)
    (found : (system.step event).store.campaigns.find? id = some after) :
    (∃ record, system.store.campaigns.find? id = some record ∧
      after.identity = record.identity) ∨
    ∃ revision, system.Commits event revision after ∧
      revision.campaign.id.isUnsaved = true ∧ after.id = id := by
  have rewritten := rewrites sound agrees event id
  rw [found] at rewritten
  cases stored : system.store.campaigns.find? id with
  | some record =>
    rw [stored] at rewritten
    exact .inl ⟨record, rfl, rewritten.identity identified sound stored⟩
  | none =>
    rw [stored] at rewritten
    cases rewritten with
    | created commits unsaved fresh here => exact .inr ⟨_, commits, unsaved, here⟩

private theorem Commits.unique {other : Revision} {also : Campaign}
    (commits : system.Commits event revision applied) (too : system.Commits event other also) :
    applied = also := by
  obtain ⟨number, visible, next, rfl, under, done⟩ := commits
  obtain ⟨_, _, next', same, under', done'⟩ := too
  cases same
  rw [under] at under'
  cases revision
  cases other
  cases under'
  exact Except.ok.inj (congrArg Prod.fst (done.symm.trans done'))

private theorem NamesApart.step (identified : system.Identified) (sound : system.Sound)
    (agrees : system.store.Agrees) (event : Event) : (system.step event).NamesApart := by
  intro id other first second found also space name
  have named : ∀ {later before : Campaign}, later.identity = before.identity →
      later.space = before.space ∧ later.name = before.name := by
    intro later before same
    exact ⟨congrArg (·.2.1) same, congrArg (·.2.2.1) same⟩
  rcases identified.kept_or_created sound agrees found with
    ⟨before, stored, same⟩ | ⟨revision, commits, unsaved, here⟩
  · rcases identified.kept_or_created sound agrees also with
      ⟨beforeToo, storedToo, sameToo⟩ | ⟨revision, commits, unsaved, here⟩
    · refine identified.named stored storedToo ?_ ?_
      · rw [← (named same).1, ← (named sameToo).1, space]
      · rw [← (named same).2, ← (named sameToo).2, name]
    · refine absurd ⟨?_, ?_⟩ (commits.unnamed identified sound agrees unsaved stored)
      · rw [← (named same).1, space]
      · rw [← (named same).2, name]
  · rcases identified.kept_or_created sound agrees also with
      ⟨before, stored, same⟩ | ⟨_, commitsToo, -, hereToo⟩
    · refine absurd ⟨?_, ?_⟩ (commits.unnamed identified sound agrees unsaved stored)
      · rw [← (named same).1, space]
      · rw [← (named same).2, name]
    · rw [← here, ← hereToo, commits.unique commitsToo]

theorem Identified.step (identified : system.Identified) (sound : system.Sound)
    (agrees : system.store.Agrees) (event : Event) : (system.step event).Identified where
  named := NamesApart.step identified sound agrees event
  known {revision} prepares saved := by
    have stays : (∃ record, system.store.campaigns.find? revision.campaign.id = some record ∧
        record.identity = revision.campaign.identity) →
        ∃ record, (system.step event).store.campaigns.find? revision.campaign.id = some record ∧
          record.identity = revision.campaign.identity := by
      rintro ⟨record, stored, same⟩
      obtain ⟨after, found, still⟩ := identified.keeps sound agrees event stored
      exact ⟨after, found, still.trans same⟩
    rcases prepares.before with before | draws
    · exact stays (identified.known before saved)
    · cases known : system.store.campaignByName? revision.spec.space revision.spec.name with
      | none =>
        rw [known] at draws
        rw [draws.2] at saved
        cases saved
      | some record =>
        obtain ⟨stored, space, name⟩ := Store.campaignByName?_eq_some agrees known
        rw [known] at draws
        have same := draws.identity space name
        refine stays ⟨record, ?_, same.symm⟩
        rw [show revision.campaign.id = record.id from congrArg Prod.fst same]
        exact stored
  positive found := campaign_pos_run sound agrees identified.positive [event] found

theorem Identified.run (identified : system.Identified) (sound : system.Sound)
    (agrees : system.store.Agrees) (events : List Event) : (system.run events).Identified := by
  induction events generalizing system with
  | nil => exact identified
  | cons event rest ih =>
    exact ih (identified.step sound agrees event) (sound.step event)
      (agrees_step agrees sound event)

theorem Identified.keeps_run (identified : system.Identified) (sound : system.Sound)
    (agrees : system.store.Agrees) (events : List Event)
    (stored : system.store.campaigns.find? id = some record) :
    ∃ after, (system.run events).store.campaigns.find? id = some after ∧
      after.identity = record.identity := by
  induction events generalizing system record with
  | nil => exact ⟨record, stored, rfl⟩
  | cons event rest ih =>
    obtain ⟨middle, found, same⟩ := identified.keeps sound agrees event stored
    obtain ⟨after, later, still⟩ := ih (identified.step sound agrees event) (sound.step event)
      (agrees_step agrees sound event) found
    exact ⟨after, later, still.trans same⟩

/-- In every run that starts with the empty store, whatever failures of the store lie ahead: no two
campaigns have the same namespace and name, and a campaign stays stored and keeps its number, its
namespace and name, and who applied it first and when it was created. The transaction of an
application that has found no campaign creates one if it succeeds: the number is new, and there was
none of that namespace and name. From then on, the transaction of every other application that has
found none of that name fails with a failure of the store, and leaves the whole store as it was. -/
theorem one_campaign_per_name (faults : List Fault) (now : Time) (events : List Event) :
    ((start faults now).run events).NamesApart ∧
    (∀ later id record,
      ((start faults now).run events).store.campaigns.find? id = some record →
      record.id = id ∧ ∃ after,
        ((start faults now).run (events ++ later)).store.campaigns.find? id = some after ∧
        after.identity = record.identity) ∧
    ∀ event revision applied, ((start faults now).run events).Commits event revision applied →
      revision.campaign.id.isUnsaved = true →
      ((start faults now).run events).store.lastId < applied.id.value ∧
      (∀ id record, ((start faults now).run events).store.campaigns.find? id = some record →
        ¬ (record.space = applied.space ∧ record.name = applied.name)) ∧
      ((start faults now).run (events ++ [event])).store.campaigns.find? applied.id =
        some applied ∧
      ∀ later number visible application spec campaign moment,
        ((start faults now).run (events ++ event :: later)).applications number =
          some (.rewiring application spec campaign moment) →
        campaign.id.isUnsaved = true →
        campaign.space = applied.space → campaign.name = applied.name →
        (∃ cause backend, Access.Ends (application.transact visible spec campaign moment)
          ((start faults now).run (events ++ event :: later)).world.backend
          (.error (.store cause)) backend) ∧
        ((start faults now).run (events ++ event :: later ++ [.proceed number visible])).store =
          ((start faults now).run (events ++ event :: later)).store := by
  have begun : (start faults now).store.Agrees := Store.agrees_empty
  have sound := (sound_start faults now).run events
  have agrees := agrees_run begun (sound_start faults now) events
  have identified := (identified_start faults now).run (sound_start faults now) begun events
  simp only [run_append, run_cons, run_nil]
  refine ⟨identified.named, ?_, ?_⟩
  · intro later id record stored
    exact ⟨(agrees.lists stored).1, identified.keeps_run sound agrees later stored⟩
  · intro event revision applied commits unsaved
    have created : (((start faults now).run events).step event).store.campaigns.find? applied.id =
        some applied := by rw [commits.find? sound, if_pos rfl]
    refine ⟨commits.fresh sound unsaved, ?_, created, ?_⟩
    · intro id record stored
      exact commits.unnamed identified sound agrees unsaved stored
    · intro later number visible application spec campaign moment under unsavedToo space name
      have identifiedNow := identified.step sound agrees event
      have soundNow := sound.step event
      have agreesNow := agrees_step agrees sound event
      obtain ⟨after, found, same⟩ := identifiedNow.keeps_run soundNow agreesNow later created
      refine (identifiedNow.run soundNow agreesNow later).refuses
        (agrees_run agreesNow soundNow later) found under unsavedToo ?_ ?_
      · rw [space]
        exact congrArg (·.2.1) same
      · rw [name]
        exact congrArg (·.2.2.1) same

end System

namespace Sample

/-- Two generations of a campaign, both about to be applied for the first time: neither application
has found a campaign. -/
def racing : List Event :=
  [.putRepo repo, .addCampaignSpec (campaignSpec "a"), .addChangesetSpec (spec 1 "a" "a"),
    .addCampaignSpec (campaignSpec "b"), .addChangesetSpec (spec 3 "b" "b"),
    .apply 0 (applying "a"), .apply 1 (applying "b")] ++
    (List.replicate 3 [.proceed 0 visible, .proceed 1 visible]).flatten

/-- What an application wants to create, and what comes of its transaction. -/
def creates (system : System) (number : Nat) : Option (Campaign × Except CampaignError Campaign) :=
  match system.applications number with
  | some (.rewiring application spec campaign now) =>
    if campaign.id.isUnsaved then
      some (campaign, (application.transact visible spec campaign now system.world.backend).1)
    else none
  | _ => none

theorem of_creates {system : System} {number : Nat} {campaign : Campaign}
    {result : Except CampaignError Campaign}
    (created : creates system number = some (campaign, result)) :
    ∃ application spec now backend,
      system.applications number = some (.rewiring application spec campaign now) ∧
      campaign.id.isUnsaved = true ∧
      Access.Ends (application.transact visible spec campaign now) system.world.backend result
        backend := by
  simp only [creates] at created
  split at created
  · next application spec stored now under =>
    split_ifs at created with unsaved
    cases created
    exact ⟨application, spec, now, _, under, unsaved, Access.ends_self ..⟩
  · cases created

end Sample

open Sample in
/-- The first one to commit creates the campaign. The other one, which has found none either, fails
and leaves the store alone. -/
theorem System.one_campaign_per_name_racing :
    ∃ revision applied application spec campaign now cause backend,
      ((start [] (instant 0)).run racing).Commits (.proceed 0 visible) revision applied ∧
      revision.campaign.id.isUnsaved = true ∧
      ((start [] (instant 0)).run (racing ++ [.proceed 0 visible])).applications 1 =
        some (.rewiring application spec campaign now) ∧
      Access.Ends (application.transact visible spec campaign now)
        ((start [] (instant 0)).run (racing ++ [.proceed 0 visible])).world.backend
        (.error (.store cause)) backend ∧
      ((start [] (instant 0)).run (racing ++ [.proceed 0 visible, .proceed 1 visible])).store =
        ((start [] (instant 0)).run (racing ++ [.proceed 0 visible])).store := by
  obtain ⟨⟨first, result⟩, created, here⟩ := Option.map_eq_some_iff.mp (show
    (creates ((start [] (instant 0)).run racing) 0).map (fun (_, result) =>
      result.toOption.map fun applied => (applied.space, applied.name)) =
        some (some (.user ⟨1⟩, "tidy")) by decide +kernel)
  obtain ⟨⟨second, _⟩, prepared, there⟩ := Option.map_eq_some_iff.mp (show
    (creates ((start [] (instant 0)).run (racing ++ [.proceed 0 visible])) 1).map
      (fun (campaign, _) => (campaign.space, campaign.name)) = some (.user ⟨1⟩, "tidy") by
    decide +kernel)
  obtain ⟨applied, succeeded, named⟩ := Option.map_eq_some_iff.mp here
  cases result with
  | error error => cases succeeded
  | ok _ =>
    cases succeeded
    obtain ⟨application, spec, now, backend, under, unsaved, done⟩ := of_creates created
    obtain ⟨other, specToo, nowToo, -, waits, unsavedToo, -⟩ := of_creates prepared
    have commits : ((start [] (instant 0)).run racing).Commits (.proceed 0 visible)
        ⟨application, spec, first, now⟩ applied := ⟨0, visible, backend, rfl, under, done⟩
    simp only [Prod.mk.injEq] at named there
    obtain ⟨-, -, -, refuses⟩ :=
      (one_campaign_per_name [] (instant 0) racing).2.2 _ _ applied commits unsaved
    obtain ⟨⟨cause, after, failed⟩, same⟩ := refuses [] 1 visible other specToo second nowToo waits
      unsavedToo (there.1.trans named.1.symm) (there.2.trans named.2.symm)
    exact ⟨_, applied, other, specToo, second, nowToo, cause, after, commits, unsaved, waits,
      failed, same⟩

end BatchChanges
