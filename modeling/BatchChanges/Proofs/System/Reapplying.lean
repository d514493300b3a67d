import BatchChanges.Proofs.System.Identity
import BatchChanges.Proofs.System.Specs
import BatchChanges.Proofs.System.Unseen

/-! # Applying the same spec again

An application returns what is stored as its campaign. From then on the record stays as it is until
an application writes it or a closure closes it, whatever attempts, housekeeping and applications of
other campaigns do. So whoever applies the same spec again finds the campaign at its spec already:
the spec is found because rand ids are distinct, and the campaign because names are.
-/

namespace BatchChanges

namespace Application

variable {application : Application} {visible : Visibility} {spec : CampaignSpec}
  {existing : Option Campaign} {campaign : Campaign} {now : Time} {backend : Backend}

private theorem ends_readSpec (passes : (Fault.meet .findCampaignSpec backend.faults).1 = none)
    (found : backend.store.campaignSpecByRandId? application.randId = some spec)
    (allowed : application.actor.mayActFor spec.userId = true) :
    Access.Ends application.readSpec backend (.ok spec)
      ⟨backend.store, (Fault.meet .findCampaignSpec backend.faults).2⟩ := by
  have read : Access.Ends (Access.findCampaignSpec application.randId) backend (.ok (some spec))
      ⟨backend.store, (Fault.meet .findCampaignSpec backend.faults).2⟩ :=
    Access.ends_call passes (by rw [found])
  rw [readSpec, Access.ends_bind_ok]
  refine ⟨some spec, _, Access.ends_wrapping_ok.mpr read, ?_⟩
  simp only [allowed, if_true]
  exact Access.ends_pure_ok.mpr ⟨rfl, rfl⟩

private theorem ends_readCampaign (passes : (Fault.meet .findCampaign backend.faults).1 = none)
    (found : backend.store.campaignByName? spec.space spec.name = existing)
    (accepted : application.refusal? existing = none) :
    Access.Ends (application.readCampaign spec) backend (.ok existing)
      ⟨backend.store, (Fault.meet .findCampaign backend.faults).2⟩ := by
  have read : Access.Ends (Access.findCampaign spec.space spec.name) backend (.ok existing)
      ⟨backend.store, (Fault.meet .findCampaign backend.faults).2⟩ :=
    Access.ends_call passes (by rw [found])
  rw [readCampaign, Access.ends_bind_ok]
  refine ⟨existing, _, Access.ends_wrapping_ok.mpr read, ?_⟩
  simp only [accepted]
  exact Access.ends_pure_ok.mpr ⟨rfl, rfl⟩

/-- Whoever finds the campaign at the spec already returns it and changes nothing. -/
theorem ends_run_of_already (specPasses : (Fault.meet .findCampaignSpec backend.faults).1 = none)
    (campaignPasses : (Fault.meet .findCampaign backend.faults).1 = none)
    (known : backend.store.campaignSpecByRandId? application.randId = some spec)
    (allowed : application.actor.mayActFor spec.userId = true)
    (found : backend.store.campaignByName? spec.space spec.name = some campaign)
    (accepted : application.refusal? (some campaign) = none)
    (already : campaign.campaignSpecId = spec.id) (visible : Visibility) (now : Time) :
    ∃ next, Access.Ends (application.run visible now) backend (.ok campaign) next ∧
      next.store = backend.store := by
  have readSpec := ends_readSpec specPasses known allowed
  have passes : (Fault.meet .findCampaign (Fault.meet .findCampaignSpec backend.faults).2).1 =
      none := by rw [Fault.meet_meet (by decide), campaignPasses]
  refine ⟨⟨backend.store, (Fault.meet .findCampaign
    (Fault.meet .findCampaignSpec backend.faults).2).2⟩, ?_, rfl⟩
  rw [run, Access.ends_bind_ok]
  refine ⟨spec, _, readSpec, ?_⟩
  rw [Access.ends_bind_ok]
  refine ⟨some campaign, _, ends_readCampaign passes found accepted, ?_⟩
  have same : (some campaign).filter (·.campaignSpecId == spec.id) = some campaign := by
    simp [already]
  rw [same]
  exact Access.ends_pure_ok.mpr ⟨rfl, rfl⟩

/-- Who asks for no other campaign, nor for none, is not refused an open one. -/
theorem refusal?_eq_none (fresh : application.mustBeNew = false)
    (expects : application.expected = none ∨ application.expected = some campaign.id)
    (still : campaign.isClosed = false) : application.refusal? (some campaign) = none := by
  have accepts : refusal?.closed? (some campaign) = none := by simp [refusal?.closed?, still]
  rcases expects with any | same
  · simp [refusal?, fresh, any, accepts]
  · simp [refusal?, fresh, same, accepts]

end Application

namespace System

variable {system : System} {event : Event} {events : List Event} {application : Application}
  {applied campaign : Campaign} {revision : Revision}

/-- The last call of an application is made, and a campaign is returned: the transaction succeeds,
or the campaign is found at the spec already. -/
inductive Returns (system : System) (event : Event) : Application → Campaign → Prop
  | moved {revision : Revision} {applied : Campaign}
      (commits : system.Commits event revision applied) :
      Returns system event revision.application applied
  | found {number : Nat} {visible : Visibility} {application : Application} {spec : CampaignSpec}
      {applied : Campaign} {next : Backend} (happens : event = .proceed number visible)
      (under : system.applications number = some (.resolving application spec))
      (done : Access.Ends (application.readCampaign spec) system.world.backend (.ok (some applied))
        next)
      (already : applied.campaignSpecId = spec.id) : Returns system event application applied

/-- A campaign is stored and open, and it is at the spec of a rand id, which is about it. -/
structure Follows (system : System) (randId : String) (campaign : Campaign) : Prop where
  stored : system.store.campaigns.find? campaign.id = some campaign
  opened : campaign.isClosed = false
  spec : ∃ spec, system.store.campaignSpecs.find? campaign.campaignSpecId = some spec ∧
    spec.randId = randId ∧ campaign.space = spec.space ∧ campaign.name = spec.name

/-- As long as an application has no revision, its calls leave the store alone. -/
theorem store_of_revision?_eq_none {number : Nat} {applying : Applying}
    (under : system.applications number = some applying) (reads : applying.revision? = none)
    (visible : Visibility) : (system.step (.proceed number visible)).store = system.store := by
  simp only [step, under]
  cases applying with
  | reading application =>
    have kept := Application.readSpec_store
      (Access.ends_self application.readSpec system.world.backend)
    simp only [Applying.proceed]
    split
    · next read =>
      rw [read] at kept
      exact kept
    · next read =>
      rw [read] at kept
      exact kept
  | resolving application spec =>
    have kept := Application.readCampaign_store
      (Access.ends_self (application.readCampaign spec) system.world.backend)
    simp only [Applying.proceed]
    split
    · next read =>
      rw [read] at kept
      split <;> exact kept
    · next read =>
      rw [read] at kept
      exact kept
  | canceling application spec campaign now => cases reads
  | rewiring application spec campaign now => cases reads

private theorem Returns.follows (returns : system.Returns event application applied)
    (sound : system.Sound) (agrees : system.store.Agrees) (catalogued : system.Catalogued)
    (drawn : ∀ revision, system.Prepares revision → ∃ existing, revision.Draws existing) :
    (system.step event).Follows application.randId applied := by
  cases returns with
  | @moved revision _ commits =>
    obtain ⟨existing, accepted, same⟩ := drawn revision commits.prepares
    have record := commits.record sound
    obtain ⟨number, visible, next, -, under, -⟩ := id commits
    obtain ⟨known, named⟩ := catalogued.known under rfl
    refine ⟨by rw [commits.find? sound, if_pos rfl], ?_, revision.spec, ?_, named, ?_, ?_⟩
    · have still : (revision.application.revised revision.spec existing revision.now).isClosed =
          false := Application.isClosed_revised accepted
      rw [record, same]
      exact still
    · have follows : applied.campaignSpecId = revision.spec.id := by
        rw [record, same]
        rfl
      rw [follows]
      exact catalogued.keeps sound event known
    · rw [record, same]
      rfl
    · rw [record, same]
      rfl
  | @found number visible _ spec _ next happens under done already =>
    subst happens
    obtain ⟨known, named⟩ := catalogued.known under rfl
    obtain ⟨found, accepted⟩ := Application.readCampaign_ok done
    obtain ⟨stored, space, name⟩ := Store.campaignByName?_eq_some agrees found
    have kept := store_of_revision?_eq_none under rfl visible
    refine ⟨by rw [kept]; exact stored, Application.isClosed_of_refusal? accepted, spec, ?_, named,
      space, name⟩
    rw [already]
    exact catalogued.keeps sound _ known

/-- An event is no closure of a campaign, and no application that writes it. -/
def Disregards (campaign : CampaignId) (system : System) (event : Event) : Prop :=
  (∀ revision applied, system.Commits event revision applied → applied.id ≠ campaign) ∧
    ∀ closure, event = .close closure → closure.id ≠ campaign

/-- Other events leave it like this. -/
theorem Follows.step {randId : String} (follows : system.Follows randId campaign)
    (sound : system.Sound) (agrees : system.store.Agrees) (catalogued : system.Catalogued)
    (disregards : Disregards campaign.id system event) :
    (system.step event).Follows randId campaign := by
  obtain ⟨spec, known, about⟩ := follows.spec
  refine ⟨?_, follows.opened, spec, catalogued.keeps sound event known, about⟩
  have rewritten := rewrites sound agrees event campaign.id
  rw [follows.stored] at rewritten
  generalize (system.step event).store.campaigns.find? campaign.id = after at rewritten
  cases rewritten with
  | kept => rfl
  | closed happens here still => exact absurd here (disregards.2 _ happens)
  | revised commits about here => exact absurd here (disregards.1 _ _ commits)

private theorem Follows.run {randId : String} (follows : system.Follows randId campaign)
    (sound : system.Sound) (agrees : system.store.Agrees) (catalogued : system.Catalogued)
    (elsewhere : system.Along (Disregards campaign.id) events) :
    (system.run events).Follows randId campaign := by
  induction events generalizing system with
  | nil => exact follows
  | cons event rest ih =>
    exact ih (follows.step sound agrees catalogued elsewhere.1) (sound.step event)
      (agrees_step agrees sound event) (catalogued.step sound event) elsewhere.2

private theorem campaignByName?_of_find? {id : CampaignId} (named : system.NamesApart)
    (found : system.store.campaigns.find? id = some campaign) :
    system.store.campaignByName? campaign.space campaign.name = some campaign := by
  refine Store.find?_of_only (Table.mem_rows_iff.mpr ⟨id, found⟩) (by simp) ?_
  intro other member same
  simp only [Bool.and_eq_true, beq_iff_eq] at same
  obtain ⟨also, stored⟩ := Table.mem_rows_iff.mp member
  have here := named stored found same.1 same.2
  rw [here, found] at stored
  exact (Option.some.inj stored).symm

private theorem Follows.applied_again (follows : system.Follows application.randId campaign)
    (named : system.NamesApart) (catalogued : system.Catalogued)
    (apart : (system.store.campaignSpecs.rows.map (·.randId)).Nodup)
    (fresh : application.mustBeNew = false)
    (expects : application.expected = none ∨ application.expected = some campaign.id)
    (allowed : ∀ spec, system.store.campaignSpecByRandId? application.randId = some spec →
      application.actor.mayActFor spec.userId = true)
    (specPasses : (Fault.meet .findCampaignSpec system.world.backend.faults).1 = none)
    (campaignPasses : (Fault.meet .findCampaign system.world.backend.faults).1 = none)
    (visible : Visibility) (now : Time) :
    ∃ backend, Access.Ends (application.run visible now) system.world.backend (.ok campaign)
      backend ∧ backend.store = system.store := by
  obtain ⟨spec, stored, randId, space, name⟩ := follows.spec
  have known := Store.campaignSpecByRandId?_of_find? apart stored
  rw [randId] at known
  have found := campaignByName?_of_find? named follows.stored
  rw [space, name] at found
  exact Application.ends_run_of_already specPasses campaignPasses known (allowed spec known) found
    (Application.refusal?_eq_none fresh expects follows.opened)
    (catalogued.numbered stored).1.symm visible now

private theorem step_proceed {number : Nat} {applying : Applying} {rest : Option Applying}
    {backend : Backend} (visible : Visibility)
    (under : system.applications number = some applying)
    (proceeds : applying.proceed visible system.now system.world.backend = (rest, backend)) :
    (system.step (.proceed number visible)).applications number = rest ∧
      (system.step (.proceed number visible)).world.backend = backend ∧
      (system.step (.proceed number visible)).now = system.now := by
  simp only [step, under, proceeds]
  exact ⟨Function.update_self .., rfl, rfl⟩

/-- An application that nobody interrupts returns what it returns as one activity. -/
theorem returns_of_run {visible : Visibility} {backend : Backend}
    (done : Access.Ends (application.run visible system.now) system.world.backend (.ok applied)
      backend) (number : Nat) :
    ∃ calls, (system.run (.apply number application ::
      List.replicate calls (.proceed number visible))).Returns (.proceed number visible)
        application applied := by
  rw [Application.run, Access.ends_bind_ok] at done
  obtain ⟨spec, first, readSpec, done⟩ := done
  rw [Access.ends_bind_ok] at done
  obtain ⟨existing, second, read, done⟩ := done
  have begun : (system.step (.apply number application)).applications number =
      some (.reading application) := Function.update_self ..
  obtain ⟨resolving, reachedFirst, nowFirst⟩ := step_proceed visible begun
    (show _ = (some (Applying.resolving application spec), first) by
      simp only [Applying.proceed]
      rw [show application.readSpec (system.step (.apply number application)).world.backend = _
        from readSpec])
  rw [← reachedFirst] at read
  split at done
  · next campaign already =>
    obtain ⟨rfl, rfl⟩ := Access.ends_pure_ok.mp done
    obtain ⟨rfl, same⟩ := Option.filter_eq_some_iff.mp already
    exact ⟨1, .found rfl resolving read (beq_iff_eq.mp same)⟩
  · next moves =>
    rw [Access.ends_bind_ok] at done
    obtain ⟨⟨⟩, third, canceled, transacts⟩ := done
    obtain ⟨canceling, reachedSecond, nowSecond⟩ := step_proceed visible resolving
      (show _ = (some (Applying.canceling application spec
          (application.revised spec existing system.now) system.now), second) by
        simp only [Access.Ends] at read
        simp only [Applying.proceed, read, moves, nowFirst]
        rfl)
    obtain ⟨rewiring, reachedThird, -⟩ := step_proceed visible canceling
      (show _ = (some (Applying.rewiring application spec
          (application.revised spec existing system.now) system.now), third) by
        simp only [Access.Ends] at canceled
        simp only [Applying.proceed, reachedSecond, canceled])
    rw [← reachedThird] at transacts
    have commits : (system.run (.apply number application ::
        List.replicate 3 (.proceed number visible))).Commits (.proceed number visible)
        ⟨application, spec, _, system.now⟩ applied :=
      ⟨number, visible, backend, rfl, rewiring, transacts⟩
    exact ⟨3, .moved commits⟩

private theorem disregards_of_editsCampaign {id : CampaignId}
    (quiet : event.editsCampaign = false) : Disregards id system event := by
  refine ⟨?_, ?_⟩
  · rintro revision applied ⟨number, visible, next, rfl, -⟩
    cases quiet
  · rintro closure rfl
    cases quiet

/-- In every run that starts with the empty store, whatever failures of the store lie ahead: an
application returns a campaign. Then this is what is stored. After any further events, none of which
is an application that writes the campaign, or a closure of it, whoever applies the same rand id
again, not asking for a new campaign or for another one, gets exactly this campaign, and the whole
store stays as it is, provided that the actor is allowed to, that stored campaign specs have rand
ids of their own, and that no failure strikes the two reading calls. -/
theorem applying_again_changes_nothing (faults : List Fault) (now : Time)
    (before after : List Event) (event : Event) (application : Application) (applied : Campaign)
    (returns : ((start faults now).run before).Returns event application applied)
    (elsewhere : ((start faults now).run (before ++ [event])).Along (Disregards applied.id) after) :
    ((start faults now).run (before ++ [event])).store.campaigns.find? applied.id =
      some applied ∧
    ∀ (again : Application) visible moment, again.randId = application.randId →
      again.mustBeNew = false → (again.expected = none ∨ again.expected = some applied.id) →
      (∀ spec, ((start faults now).run (before ++ event :: after)).store.campaignSpecByRandId?
        again.randId = some spec → again.actor.mayActFor spec.userId = true) →
      (((start faults now).run (before ++ event :: after)).store.campaignSpecs.rows.map
        (·.randId)).Nodup →
      (∀ call ∈ [StoreCall.findCampaignSpec, StoreCall.findCampaign], (Fault.meet call
        ((start faults now).run (before ++ event :: after)).world.backend.faults).1 = none) →
      ∃ backend, Access.Ends (again.run visible moment)
          ((start faults now).run (before ++ event :: after)).world.backend (.ok applied) backend ∧
        backend.store = ((start faults now).run (before ++ event :: after)).store := by
  have begun : (start faults now).store.Agrees := Store.agrees_empty
  have sound := (sound_start faults now).run before
  have agrees := agrees_run begun (sound_start faults now) before
  have catalogued := (catalogued_start faults now).run (sound_start faults now) before
  have identified := (identified_start faults now).run (sound_start faults now) begun before
  have follows := returns.follows sound agrees catalogued
    (fun _ prepares => draws_start faults now before prepares)
  simp only [run_append, run_cons, run_nil] at elsewhere ⊢
  refine ⟨follows.stored, ?_⟩
  intro again visible moment same fresh expects allowed apart passes
  have soundThen := sound.step event
  have agreesThen := agrees_step agrees sound event
  have cataloguedThen := catalogued.step sound event
  have still := follows.run soundThen agreesThen cataloguedThen elsewhere
  rw [← same] at still
  exact still.applied_again
    ((identified.step sound agrees event).run soundThen agreesThen after).named
    (cataloguedThen.run soundThen after) apart fresh expects allowed (passes _ (by simp))
    (passes _ (by simp)) visible moment

end System

namespace Sample

/-- The first generation of a campaign is about to be applied. -/
def applyingFirst : List Event := setUp.take 9

/-- An attempt brings the changeset up to date, time goes on, and all that waits is canceled. -/
def meanwhile : List Event :=
  attempt 0 5 ++ [.conclude 0 {}, .setClock (instant 60), .resetExpired, .requeueDue 3,
    .cancelQueued ⟨5⟩]

/-- Who makes a last call and gets a campaign. -/
def returned (system : System) (number : Nat) : Option (Application × Campaign) :=
  match system.applications number with
  | some (.rewiring application spec campaign now) =>
    match application.transact visible spec campaign now system.world.backend with
    | (.ok applied, _) => some (application, applied)
    | (.error _, _) => none
  | _ => none

theorem of_returned {system : System} {number : Nat} {application : Application}
    {applied : Campaign} (returns : returned system number = some (application, applied)) :
    ∃ revision, system.Commits (.proceed number visible) revision applied ∧
      revision.application = application := by
  simp only [returned] at returns
  split at returns
  · next _ spec campaign now under =>
    split at returns
    · next _ backend done =>
      cases returns
      exact ⟨⟨application, spec, campaign, now⟩, ⟨number, visible, backend, rfl, under, done⟩, rfl⟩
    · cases returns
  · cases returns

end Sample

open Sample in
/-- Somebody else who is allowed to applies the first generation a second time, after a minute, and
by then for a campaign that is known. Call by call it is the same. -/
theorem System.applying_again_changes_nothing_meanwhile :
    ∃ application applied backend,
      ((start [] (instant 0)).run applyingFirst).Returns (.proceed 0 visible) application applied ∧
      Access.Ends (Application.run
          { randId := application.randId, actor := ⟨⟨2⟩, true⟩, expected := some applied.id }
          visible (instant 60))
        ((start [] (instant 0)).run
          (applyingFirst ++ .proceed 0 visible :: meanwhile)).world.backend
        (.ok applied) backend ∧
      backend.store =
        ((start [] (instant 0)).run (applyingFirst ++ .proceed 0 visible :: meanwhile)).store ∧
      (((start [] (instant 0)).run (applyingFirst ++ .proceed 0 visible :: meanwhile)).run
        (.apply 1 ⟨application.randId, ⟨⟨2⟩, true⟩, some applied.id, false⟩ ::
          List.replicate 4 (.proceed 1 visible))).store =
        ((start [] (instant 0)).run (applyingFirst ++ .proceed 0 visible :: meanwhile)).store := by
  obtain ⟨⟨application, applied⟩, told⟩ : ∃ told,
      returned ((start [] (instant 0)).run applyingFirst) 0 = some told :=
    Option.isSome_iff_exists.mp (by decide +kernel)
  obtain ⟨revision, commits, rfl⟩ := of_returned told
  have quiet : ∀ event ∈ meanwhile, event.editsCampaign = false := by decide
  obtain ⟨-, again⟩ := applying_again_changes_nothing [] (instant 0) applyingFirst meanwhile
    (.proceed 0 visible) revision.application applied (.moved commits)
    (along_of_mem fun event member system => disregards_of_editsCampaign (quiet event member))
  obtain ⟨backend, ended, same⟩ := again
    ⟨revision.application.randId, ⟨⟨2⟩, true⟩, some applied.id, false⟩
    visible (instant 60) rfl rfl (.inr rfl) (fun spec _ => rfl) (by decide +kernel)
    (by decide +kernel)
  have minute : ((start [] (instant 0)).run
      (applyingFirst ++ .proceed 0 visible :: meanwhile)).now = instant 60 := by decide +kernel
  refine ⟨revision.application, applied, backend, .moved commits, ended, same, ?_⟩
  simp only [Access.Ends] at ended
  rw [run_apply, minute, ended, same]

end BatchChanges
