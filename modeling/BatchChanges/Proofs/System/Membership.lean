import BatchChanges.Proofs.Campaign.Members
import BatchChanges.Proofs.System.Edits
import BatchChanges.Proofs.System.Opening

/-! # Both sides of the membership

A campaign lists its changesets, and a changeset names its campaigns. The transaction of an
application writes the list of one campaign anew and takes no changeset out of another one; all
other events leave both sides alone. So the two sides agree at all times, whatever is under way and
whichever calls of the store fail.
-/

namespace BatchChanges

/-- What a changeset knows of campaigns: those that it is part of, and the one that created it. -/
def Changeset.memberships (row : Changeset) : IdSet .campaign × Option CampaignId :=
  (row.campaignIds, row.ownerId)

def Changeset.Mentions (row : Changeset) (campaign : CampaignId) : Prop :=
  row.isAttachedTo campaign = true ∨ row.ownerId = some campaign

/-- What a campaign knows of its changesets. -/
def Campaign.listing (campaign : Campaign) : CampaignId × IdSet .changeset :=
  (campaign.id, campaign.changesetIds)

namespace Store

/-- Each campaign lists the changesets that name it, and whoever is mentioned is stored. -/
structure Agrees (store : Store) : Prop where
  lists {id : CampaignId} {campaign : Campaign}
    (found : store.campaigns.find? id = some campaign) :
    campaign.id = id ∧ ∀ changeset, campaign.changesetIds.contains changeset =
      store.holds id changeset
  known {id : ChangesetId} {row : Changeset} {campaign : CampaignId}
    (found : store.changesets.find? id = some row) (mentions : row.Mentions campaign) :
    ∃ stored, store.campaigns.find? campaign = some stored

theorem agrees_empty : (∅ : Store).Agrees where
  lists found := by cases found
  known found := by cases found

/-- Neither side of the membership changes from one store to the next. -/
structure SameMembers (store next : Store) : Prop where
  campaigns (id : CampaignId) : (next.campaigns.find? id).map (·.listing) =
    (store.campaigns.find? id).map (·.listing)
  changesets (id : ChangesetId) : (next.changesets.find? id).map (·.memberships) =
    (store.changesets.find? id).map (·.memberships)

variable {store next : Store}

private theorem Agrees.congr (agrees : store.Agrees) (same : store.SameMembers next) :
    next.Agrees := by
  have rows : ∀ {id row}, next.changesets.find? id = some row →
      ∃ before, store.changesets.find? id = some before ∧ before.memberships = row.memberships := by
    intro id row found
    have memberships := same.changesets id
    rw [found] at memberships
    exact Option.map_eq_some_iff.mp memberships.symm
  have campaigns : ∀ {id campaign}, store.campaigns.find? id = some campaign →
      ∃ after, next.campaigns.find? id = some after ∧ after.listing = campaign.listing := by
    intro id campaign found
    have listing := same.campaigns id
    rw [found] at listing
    exact Option.map_eq_some_iff.mp listing
  have holds : ∀ id changeset, next.holds id changeset = store.holds id changeset := by
    intro id changeset
    have attached := congrArg (Option.any fun known => known.1.contains id)
      (same.changesets changeset)
    rwa [Option.any_map, Option.any_map] at attached
  constructor
  · intro id campaign found
    have listing := same.campaigns id
    rw [found] at listing
    obtain ⟨before, stored, same⟩ := Option.map_eq_some_iff.mp listing.symm
    obtain ⟨named, lists⟩ := agrees.lists stored
    simp only [Campaign.listing, Prod.mk.injEq] at same
    refine ⟨same.1.symm.trans named, fun changeset => ?_⟩
    rw [← same.2, lists, holds]
  · intro id row campaign found mentions
    obtain ⟨before, stored, same⟩ := rows found
    simp only [Changeset.memberships, Prod.mk.injEq] at same
    have mentioned : before.Mentions campaign := by
      rw [Changeset.Mentions, Changeset.isAttachedTo, same.1, same.2]
      exact mentions
    obtain ⟨known, present⟩ := agrees.known stored mentioned
    obtain ⟨after, kept, -⟩ := campaigns present
    exact ⟨after, kept⟩

end Store

namespace Generation.Fate

variable {generation : Generation} {store : Store} {id : ChangesetId}
  {before after : Option Changeset} {row : Changeset} {campaign : CampaignId}

/-- An application changes no membership in other campaigns. -/
theorem any_isAttachedTo (fate : generation.Fate store id before after)
    (other : generation.campaign ≠ campaign) :
    after.any (·.isAttachedTo campaign) = before.any (·.isAttachedTo campaign) := by
  cases fate with
  | kept => rfl
  | left unwanted decided =>
    simp [Changeset.isAttachedTo, Placement.campaignIds_of_ofDropped decided,
      IdSet.contains_erase, other]
  | @deleted row unwanted decided =>
    have fate : generation.Fate store id (some row) none := .deleted unwanted decided
    have apart : row.isAttachedTo campaign = false :=
      Bool.eq_false_iff.mpr fun attached => other (fate.rejects.alone campaign attached).symm
    rw [Option.any_none, Option.any_some, apart]
  | followed paired =>
    simp [Changeset.isAttachedTo, Changeset.campaignIds_following, IdSet.contains_add, other]
  | @created spec repo paired located fresh =>
    have apart : (IdSet.ofList [generation.campaign]).contains campaign = false :=
      Bool.eq_false_iff.mpr fun listed =>
        other (List.mem_singleton.mp (IdSet.contains_ofList.mp listed)).symm
    rw [Option.any_none, Option.any_some, Changeset.isAttachedTo, Changeset.campaignIds_ofSpec,
      apart]

private theorem mentions (fate : generation.Fate store id before (some row))
    (mentions : row.Mentions campaign) :
    campaign = generation.campaign ∨ ∃ earlier, before = some earlier ∧
      earlier.Mentions campaign := by
  generalize present : some row = after at fate
  cases fate with
  | kept =>
    subst present
    exact .inr ⟨row, rfl, mentions⟩
  | @left earlier placed unwanted decided =>
    cases present
    refine .inr ⟨earlier, rfl, mentions.imp ?_ ?_⟩
    · intro attached
      rw [Changeset.isAttachedTo, Placement.campaignIds_of_ofDropped decided,
        IdSet.contains_erase, Bool.and_eq_true] at attached
      exact attached.2
    · intro owned
      have same : row.ownerId = earlier.ownerId :=
        congrArg (·.1.2.2.2.1) (Placement.unedited_of_ofDropped decided)
      exact same.symm.trans owned
  | deleted => cases present
  | @followed earlier spec paired =>
    cases present
    rcases mentions with attached | owned
    · rw [Changeset.isAttachedTo, Changeset.campaignIds_following, IdSet.contains_add,
        Bool.or_eq_true, decide_eq_true_iff] at attached
      rcases attached with rfl | attached
      · exact .inl rfl
      · exact .inr ⟨earlier, rfl, .inl attached⟩
    · have same : (earlier.following generation.campaign generation.now spec).ownerId =
          earlier.ownerId := congrArg (·.1.2.2.2.1) (earlier.unedited_following _ _ _)
      exact .inr ⟨earlier, rfl, .inr (same.symm.trans owned)⟩
  | @created spec repo paired located fresh =>
    cases present
    refine .inl ?_
    rcases mentions with attached | owned
    · rw [Changeset.isAttachedTo, Changeset.campaignIds_ofSpec, IdSet.contains_ofList,
        List.mem_singleton] at attached
      exact attached
    · exact Changeset.ownerId_ofSpec owned

end Generation.Fate

/-- The transaction of an application makes both sides of its campaign agree, and changes no other
campaign. -/
theorem Application.agrees_of_transact {application : Application} {visible : Visibility}
    {spec : CampaignSpec} {campaign : Campaign} {now : Time} {backend next : Backend}
    {result : Except CampaignError Campaign} (numbered : backend.store.Numbered)
    (agrees : backend.store.Agrees)
    (done : Access.Ends (application.transact visible spec campaign now) backend result next) :
    next.store.Agrees := by
  cases result with
  | error error =>
    rw [transact_error done]
    exact agrees
  | ok applied =>
    obtain ⟨-, -, transacted⟩ := transact_ok numbered done
    obtain ⟨campaigns, lists⟩ := contains_of_transact numbered done
    constructor
    · intro id stored found
      rw [campaigns] at found
      split at found
      · next same =>
        cases found
        subst same
        exact ⟨rfl, lists⟩
      · next other =>
        obtain ⟨named, listed⟩ := agrees.lists found
        refine ⟨named, fun changeset => (listed changeset).trans ?_⟩
        exact ((transacted.row changeset).any_isAttachedTo other).symm
    · intro id row mentioned found mentions
      have fate := transacted.row id
      rw [found] at fate
      rw [campaigns]
      split
      · exact ⟨applied, rfl⟩
      · next other =>
        obtain same | ⟨earlier, stored, mentioned⟩ := fate.mentions mentions
        · exact absurd same.symm other
        · exact agrees.known stored mentioned

private theorem Closure.Fate.memberships {closure : Closure} {now : Time}
    {before after : Option Changeset} (fate : closure.Fate now before after) :
    after.map (·.memberships) = before.map (·.memberships) := by
  cases fate <;> rfl

/-- The campaign that is closed is written over with the list that it has. -/
theorem Closure.campaigns_of_close {closure : Closure} {campaign closed : Campaign} {now : Time}
    {backend next : Backend} (numbered : backend.store.Numbered)
    (done : Access.Ends (closure.close campaign now) backend (.ok closed) next) :
    closed.listing = campaign.listing ∧
      next.store.campaigns = backend.store.campaigns.insert campaign.id closed := by
  obtain ⟨rfl, written, middle, updated, same, rest⟩ := close_eq_ok done
  refine ⟨rfl, ?_⟩
  have begun := same.trans (Access.updateCampaign_ok updated).2
  obtain ⟨-, queued⟩ | ⟨-, rfl⟩ := rest
  · have numberedMiddle := same ▸ Access.numbered_of_updateCampaign updated numbered
    rw [(queue_ok numberedMiddle queued).1.campaigns, begun]
  · rw [begun]

private theorem Closure.agrees_of_run {closure : Closure} {now : Time} {backend next : Backend}
    {result : Except CampaignError Campaign} (numbered : backend.store.Numbered)
    (agrees : backend.store.Agrees)
    (done : Access.Ends (closure.run now) backend result next) : next.store.Agrees := by
  cases result with
  | error error =>
    rw [run_error done]
    exact agrees
  | ok closed =>
    refine agrees.congr ⟨?_, fun id => ((run_store numbered done).row id).memberships⟩
    intro id
    obtain ⟨campaign, found, ⟨-, same⟩ | ⟨-, first, last, begun, kept, closes⟩⟩ := run_ok done
    · rw [same]
    · obtain ⟨listing, campaigns⟩ := campaigns_of_close (begun ▸ numbered) closes
      rw [kept, campaigns, begun, (agrees.lists found).1, Table.find?_insert]
      split
      · next here =>
        rw [← here, found, Option.map_some, Option.map_some, listing]
      · rfl

namespace System

variable {system next : System} {event : Event} {id : ChangesetId} {before after : Option Changeset}
  {lease lease' : Option LeaseRecord}

def Transacts (system : System) : Event → Prop
  | .proceed number _ => ∃ application spec campaign now,
      system.applications number = some (.rewiring application spec campaign now)
  | .close _ => True
  | _ => False

theorem transacts_of_makes {number : Nat} {visible : Visibility} {applying : Applying}
    {generation : Generation} (under : system.applications number = some applying)
    (makes : applying.Makes visible generation) : system.Transacts (.proceed number visible) := by
  cases applying with
  | rewiring application spec campaign now => exact ⟨application, spec, campaign, now, under⟩
  | _ => cases makes

/-- No other event changes what a changeset knows of campaigns. -/
theorem Change.memberships (change : Change system event next id before lease after lease')
    (other : ¬ system.Transacts event) :
    after.map (·.memberships) = before.map (·.memberships) := by
  cases change with
  | concluded => cases before <;> rfl
  | reset happens expired =>
    cases before with
    | none => rfl
    | some row =>
      simp only [Option.map_some, Changeset.released]
      split <;> rfl
  | rewired generation happens under makes fate fresh =>
    subst happens
    exact absurd (transacts_of_makes under makes) other
  | closed happens fate => exact fate.memberships
  | _ => rfl

/-- No other event changes a campaign. -/
theorem Transition.campaigns (happens : Transition system event next)
    (other : ¬ system.Transacts event) : next.store.campaigns = system.store.campaigns := by
  cases happens with
  | quiet store tokens flights deliveries => rw [store]
  | claimed found store tokens flights deliveries => rw [store]
  | asked under asks answered tokens flights deliveries =>
    obtain store | ⟨lease, record, expiresAt, -, -, -, store⟩ := store_of_answered answered
    · rw [store]
    · rw [store]
  | concluded under stopped settled store tokens flights deliveries =>
    rw [store, Store.campaigns_finish]
  | canceled campaign happens store tokens flights deliveries =>
    rw [store]
    rfl
  | requeued store tokens flights deliveries =>
    rw [store]
    rfl
  | reset store tokens flights deliveries =>
    rw [store]
    rfl
  | rewired generation under makes transacted tokens flights deliveries fresh =>
    exact absurd (transacts_of_makes under makes) other
  | closed transacted tokens flights deliveries => exact absurd trivial other
  | _ => rfl

/-- Every event keeps the two sides in agreement. -/
theorem agrees_step (agrees : system.store.Agrees) (sound : system.Sound) (event : Event) :
    (system.step event).store.Agrees := by
  by_cases transacts : system.Transacts event
  · cases event with
    | proceed number visible =>
      obtain ⟨application, spec, campaign, now, under⟩ := transacts
      simp only [step, under]
      exact Application.agrees_of_transact sound.numbered agrees (Access.ends_self _ _)
    | close closure => exact closure.agrees_of_run sound.numbered agrees (Access.ends_self _ _)
    | _ => cases transacts
  · have happens := System.transition sound.numbered event
    refine agrees.congr ⟨fun id => ?_, fun id => (happens.change sound id).memberships transacts⟩
    rw [happens.campaigns transacts]

theorem agrees_run (agrees : system.store.Agrees) (sound : system.Sound) (events : List Event) :
    (system.run events).store.Agrees :=
  sound.keeps (fun system => system.store.Agrees) agrees events fun sound event agrees =>
    agrees_step agrees sound event

/-- In every run that starts with the empty store, and whichever of its calls fail, the two sides of
the membership agree: each campaign lists exactly the changesets that name it, and the campaigns
that a changeset names, its own one among them, are stored. -/
theorem both_sides_agree (faults : List Fault) (now : Time) (events : List Event) :
    (∀ id campaign, ((start faults now).run events).store.campaigns.find? id = some campaign →
      campaign.id = id ∧ ∀ changeset, campaign.changesetIds.contains changeset = true ↔
        ∃ row, ((start faults now).run events).store.changesets.find? changeset = some row ∧
          row.campaignIds.contains campaign.id = true) ∧
    ∀ id row, ((start faults now).run events).store.changesets.find? id = some row →
      row.id = id ∧ ∀ campaign, row.campaignIds.contains campaign = true ∨
          row.ownerId = some campaign →
        ∃ stored, ((start faults now).run events).store.campaigns.find? campaign = some stored := by
  have sound := sound_start faults now
  have begun : (start faults now).store.Agrees := Store.agrees_empty
  have agrees := agrees_run begun sound events
  constructor
  · intro id campaign found
    obtain ⟨named, lists⟩ := agrees.lists found
    refine ⟨named, fun changeset => ?_⟩
    rw [lists changeset, named]
    exact Store.holds_iff
  · intro id row found
    exact ⟨((sound.run events).numbered.changesets found).1, fun _ names => agrees.known found names⟩

end System

namespace Sample

/-- Another campaign tracks the pull request of the first one, which then wants nothing any more. -/
def shared : List Event :=
  completing ++ [.conclude 0 {},
    .addCampaignSpec { campaignSpec "c" with name := "watch" },
    .addChangesetSpec { spec 7 "c" "c" with target := .trackExisting "101" }] ++ apply "c" ++
    [.addCampaignSpec (campaignSpec "d")] ++ apply "d"

/-- The store fails at the changeset that the last transaction writes. -/
def struck : List Fault := [⟨.upsertChangeset, 2, "disk full"⟩]

end Sample

open Sample in
/-- A changeset that has left the campaign that created it is listed by the other one only; when the
transaction fails, it is still listed by the first one. -/
theorem System.both_sides_agree_shared :
    (∃ first second row,
      ((start [] (instant 0)).run shared).store.campaigns.find? ⟨5⟩ = some first ∧
      ((start [] (instant 0)).run shared).store.campaigns.find? ⟨9⟩ = some second ∧
      ((start [] (instant 0)).run shared).store.changesets.find? changeset = some row ∧
      row.ownerId = some first.id ∧ first.changesetIds.contains changeset = false ∧
      second.changesetIds.contains changeset = true) ∧
    ∃ first row, ((start struck (instant 0)).run shared).store.campaigns.find? ⟨5⟩ = some first ∧
      ((start struck (instant 0)).run shared).store.changesets.find? changeset = some row ∧
      row.ownerId = some first.id ∧ first.changesetIds.contains changeset = true := by
  constructor
  · obtain ⟨lists, known⟩ := both_sides_agree [] (instant 0) shared
    obtain ⟨row, found, same⟩ := Option.map_eq_some_iff.mp (show
      (((start [] (instant 0)).run shared).store.changesets.find? changeset).map
        (fun row => (row.ownerId, row.campaignIds.contains ⟨5⟩, row.campaignIds.contains ⟨9⟩)) =
          some (some ⟨5⟩, false, true) by decide +kernel)
    simp only [Prod.mk.injEq] at same
    obtain ⟨owned, left, joined⟩ := same
    obtain ⟨first, stored⟩ := (known _ row found).2 ⟨5⟩ (.inr owned)
    obtain ⟨second, present⟩ := (known _ row found).2 ⟨9⟩ (.inl joined)
    obtain ⟨named, listed⟩ := lists _ first stored
    refine ⟨first, second, row, stored, present, found, named ▸ owned, ?_, ?_⟩
    · rw [← Bool.not_eq_true, listed changeset]
      rintro ⟨other, same, member⟩
      rw [found] at same
      cases same
      rw [named, left] at member
      cases member
    · obtain ⟨name, lists⟩ := lists _ second present
      exact (lists changeset).mpr ⟨row, found, name ▸ joined⟩
  · obtain ⟨lists, known⟩ := both_sides_agree struck (instant 0) shared
    obtain ⟨row, found, same⟩ := Option.map_eq_some_iff.mp (show
      (((start struck (instant 0)).run shared).store.changesets.find? changeset).map
        (fun row => (row.ownerId, row.campaignIds.contains ⟨5⟩)) = some (some ⟨5⟩, true)
      by decide +kernel)
    simp only [Prod.mk.injEq] at same
    obtain ⟨owned, joined⟩ := same
    obtain ⟨first, stored⟩ := (known _ row found).2 ⟨5⟩ (.inr owned)
    obtain ⟨named, listed⟩ := lists _ first stored
    exact ⟨first, row, stored, found, named ▸ owned,
      (listed changeset).mpr ⟨row, found, named ▸ joined⟩⟩

end BatchChanges
