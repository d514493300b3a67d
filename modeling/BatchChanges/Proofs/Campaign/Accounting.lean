import BatchChanges.Campaign.Close
import BatchChanges.Proofs.Campaign.Members
import Mathlib.Data.List.Perm.Basic

/-! # What a rewiring accounts for

A rewiring fails exactly if a spec is about a repository that the actor cannot see, and tells the
first such repository. Otherwise every mapping with a changeset or a spec ends in one of three
places, in the order of the mappings: the changeset is left alone, its number is listed for
deletion, or one row is listed to be written. So no changeset is lost and none is listed twice, the
campaign holds what is left alone and what is to be written as far as that is part of it, and
another order of the mappings means another order of the lists only.
-/

namespace BatchChanges

namespace Table

variable {kind : Kind} {α : Type}

private theorem isEmpty_iff {table : Table kind α} :
    table.isEmpty = true ↔ ∀ id, table.contains id = false := by
  rw [isEmpty, List.isEmpty_iff]
  constructor
  · intro none id
    simp [contains, find?, none, lookup]
  · intro none
    rw [List.eq_nil_iff_forall_not_mem]
    rintro ⟨id, row⟩ member
    have present : table.contains id = true :=
      contains_iff.mpr ⟨row, find?_eq_some_iff.mpr member⟩
    rw [none id] at present
    cases present

end Table

namespace Changeset

/-- A changeset of which nothing is left outside of the campaign: the campaign created it, its pull
request was never opened, and no other campaign holds it. -/
structure IsDisposable (row : Changeset) (campaign : CampaignId) : Prop where
  owned : row.ownerId = some campaign
  unpublished : row.publication = .unpublished
  alone (other : CampaignId) (attached : row.isAttachedTo other = true) : other = campaign

/-- A changeset after it has left a campaign. What the campaign has opened is queued to be
closed. -/
def departed (row : Changeset) (campaign : CampaignId) (now : Time) : Changeset :=
  let left := { row with campaignIds := row.campaignIds.erase campaign }
  if row.isClosedWith campaign then left.queuedToClose now else { left with updatedAt := now }

private theorem id_departed (row : Changeset) (campaign : CampaignId) (now : Time) :
    (row.departed campaign now).id = row.id := by
  simp only [departed]
  split <;> rfl

variable {row : Changeset} {campaign : CampaignId}

private theorem isDisposable_iff : row.IsDisposable campaign ↔
    (row.isOwnedBy campaign && !row.isPublished &&
      (row.campaignIds.erase campaign).isEmpty) = true := by
  have alone : (row.campaignIds.erase campaign).isEmpty = true ↔
      ∀ other, row.isAttachedTo other = true → other = campaign := by
    rw [Table.isEmpty_iff]
    refine forall_congr' fun other => ?_
    rw [IdSet.contains_erase, isAttachedTo]
    cases row.campaignIds.contains other with
    | false => simp
    | true => simpa using eq_comm
  have unpublished : row.isPublished = false ↔ row.publication = .unpublished := by
    rw [isPublished]
    cases row.publication <;> decide
  rw [Bool.and_eq_true, Bool.and_eq_true, Bool.not_eq_true', alone, unpublished, isOwnedBy,
    beq_iff_eq]
  exact ⟨fun ⟨owned, unpublished, alone⟩ => ⟨⟨owned, unpublished⟩, alone⟩,
    fun ⟨⟨owned, unpublished⟩, alone⟩ => ⟨owned, unpublished, alone⟩⟩

end Changeset

namespace Placement

variable {campaign : CampaignId} {row : Changeset}

private theorem ofDropped_of_isDisposable (disposable : row.IsDisposable campaign) (now : Time) :
    ofDropped campaign now row = .deleted row.id :=
  if_pos (Changeset.isDisposable_iff.mp disposable)

private theorem ofDropped_of_not_isDisposable (kept : ¬ row.IsDisposable campaign) (now : Time) :
    ofDropped campaign now row = .staged (row.departed campaign now) := by
  rw [Changeset.isDisposable_iff] at kept
  simp only [ofDropped]
  rw [if_neg kept, Changeset.departed, Changeset.isClosedWith]
  split <;> rfl

end Placement

namespace Mapping

/-- Whether a spec is about a repository that the actor cannot see. -/
def isBarred (mapping : Mapping) : Bool := mapping.spec.isSome && mapping.repo.isNone

/-- The number of the changeset that exists. -/
def changesetId? (mapping : Mapping) : Option ChangesetId := mapping.changeset.map (·.id)

/-- The row that is to be written for a mapping: its changeset leaves the campaign, or is moved on
to the spec, or the spec brings about a new one. -/
inductive Stages (campaign : CampaignId) (now : Time) : Mapping → Changeset → Prop
  | departs {repoId : RepoId} {repo : Repo} {row : Changeset}
      (kept : ¬ row.IsDisposable campaign) :
      Stages campaign now ⟨repoId, some repo, some row, none⟩ (row.departed campaign now)
  | comes {repoId : RepoId} {repo : Repo} {spec : ChangesetSpec} :
      Stages campaign now ⟨repoId, some repo, none, some spec⟩ (.ofSpec campaign now repo spec)
  | moves {repoId : RepoId} {repo : Repo} {row : Changeset} {spec : ChangesetSpec} :
      Stages campaign now ⟨repoId, some repo, some row, some spec⟩
        (row.following campaign now spec)

/-- Where the mappings of a campaign end, one after the other: changesets that are left alone,
numbers of changesets to be deleted, and rows to be written. -/
inductive Accounts (campaign : CampaignId) (now : Time) :
    List Mapping → List Changeset → List ChangesetId → List Changeset → Prop
  | done : Accounts campaign now [] [] [] []
  | nothing {repoId : RepoId} {repo : Option Repo} {rest : List Mapping} {alone : List Changeset}
      {deleted : List ChangesetId} {staged : List Changeset}
      (others : Accounts campaign now rest alone deleted staged) :
      Accounts campaign now (⟨repoId, repo, none, none⟩ :: rest) alone deleted staged
  | leftAlone {repoId : RepoId} {row : Changeset} {rest : List Mapping} {alone : List Changeset}
      {deleted : List ChangesetId} {staged : List Changeset}
      (others : Accounts campaign now rest alone deleted staged) :
      Accounts campaign now (⟨repoId, none, some row, none⟩ :: rest) (row :: alone) deleted staged
  | deleted {repoId : RepoId} {repo : Repo} {row : Changeset} {rest : List Mapping}
      {alone : List Changeset} {deleted : List ChangesetId} {staged : List Changeset}
      (disposable : row.IsDisposable campaign)
      (others : Accounts campaign now rest alone deleted staged) :
      Accounts campaign now (⟨repoId, some repo, some row, none⟩ :: rest) alone
        (row.id :: deleted) staged
  | staged {mapping : Mapping} {placed : Changeset} {rest : List Mapping} {alone : List Changeset}
      {deleted : List ChangesetId} {staged : List Changeset}
      (stages : mapping.Stages campaign now placed)
      (others : Accounts campaign now rest alone deleted staged) :
      Accounts campaign now (mapping :: rest) alone deleted (placed :: staged)

variable {campaign : CampaignId} {now : Time}

/-- The number of a row that is to be written is the one of the changeset, if there is one. -/
theorem Stages.id_eq {mapping : Mapping} {placed : Changeset}
    (stages : mapping.Stages campaign now placed) :
    placed.id = mapping.changesetId?.getD .unsaved := by
  cases stages with
  | departs kept => exact Changeset.id_departed _ _ _
  | comes => exact Changeset.id_ofSpec _ _ _ _
  | moves => exact Changeset.id_following _ _ _ _

/-- Every changeset is in one place: the numbers in all places are the numbers of the mappings. -/
theorem Accounts.perm_ids {mappings : List Mapping} {alone staged : List Changeset}
    {deleted : List ChangesetId} (accounts : Accounts campaign now mappings alone deleted staged)
    (saved : .unsaved ∉ mappings.filterMap changesetId?) :
    (alone.map (·.id) ++ (deleted ++ (staged.map (·.id)).filter (· ≠ .unsaved))).Perm
      (mappings.filterMap changesetId?) := by
  induction accounts with
  | done => exact .nil
  | nothing others ih => exact ih saved
  | leftAlone others ih =>
    simp only [List.filterMap_cons, changesetId?, Option.map_some, List.mem_cons, not_or] at saved
    exact (ih saved.2).cons _
  | deleted disposable others ih =>
    simp only [List.filterMap_cons, changesetId?, Option.map_some, List.mem_cons, not_or] at saved
    exact List.perm_middle.trans ((ih saved.2).cons _)
  | @staged mapping placed rest alone deleted staged stages others ih =>
    have same := stages.id_eq
    cases known : mapping.changesetId? with
    | none =>
      rw [known, Option.getD_none] at same
      simp only [List.filterMap_cons, known] at saved ⊢
      simpa [same] using ih saved
    | some id =>
      rw [known, Option.getD_some] at same
      simp only [List.filterMap_cons, known, List.mem_cons, not_or] at saved ⊢
      rw [List.map_cons, List.filter_cons_of_pos (by simpa [same] using Ne.symm saved.1), same]
      rw [← List.append_assoc]
      refine List.perm_middle.trans ?_
      rw [List.append_assoc]
      exact (ih saved.2).cons id

end Mapping

namespace Placement

variable {campaign : CampaignId} {now : Time} {mapping : Mapping} {mappings others : List Mapping}
  {placements : List Placement}

/-- The changeset that is left alone. -/
def untouched? : Placement → Option Changeset
  | untouched changeset => some changeset
  | _ => none

private theorem ofMapping_of_isBarred (barred : mapping.isBarred = true) :
    ofMapping campaign now mapping = .error (.repoNotFound mapping.repoId) := by
  obtain ⟨repoId, repo, changeset, spec⟩ := mapping
  cases spec <;> cases repo <;> cases barred
  rfl

private theorem exists_ofMapping (free : mapping.isBarred = false) (campaign : CampaignId)
    (now : Time) : ∃ placement, ofMapping campaign now mapping = .ok placement := by
  obtain ⟨repoId, repo, changeset, spec⟩ := mapping
  cases spec <;> cases changeset <;> cases repo <;> cases free <;> exact ⟨_, rfl⟩

private theorem ofMappings_of_isBarred (first : mappings.find? (·.isBarred) = some mapping) :
    ofMappings campaign now mappings = .error (.repoNotFound mapping.repoId) := by
  induction mappings with
  | nil => cases first
  | cons head rest ih =>
    rw [List.find?_cons] at first
    split at first
    · next barred =>
      cases first
      simp only [ofMappings, ofMapping_of_isBarred barred]
      rfl
    · next free =>
      obtain ⟨placement, decided⟩ := exists_ofMapping (by simpa using free) campaign now
      simp only [ofMappings, decided, ih first]
      rfl

private theorem exists_ofMappings (free : mappings.find? (·.isBarred) = none)
    (campaign : CampaignId) (now : Time) :
    ∃ placements, ofMappings campaign now mappings = .ok placements := by
  induction mappings with
  | nil => exact ⟨[], rfl⟩
  | cons head rest ih =>
    rw [List.find?_cons] at free
    split at free
    · cases free
    · next here =>
      obtain ⟨placement, decided⟩ := exists_ofMapping (by simpa using here) campaign now
      obtain ⟨placements, later⟩ := ih free
      exact ⟨placement :: placements, by simp only [ofMappings, decided, later]; rfl⟩

private theorem accounts_of_decided (decided : List.Forall₂ (fun mapping placement =>
      ofMapping campaign now mapping = .ok placement) mappings placements) :
    Mapping.Accounts campaign now mappings (placements.filterMap untouched?)
      (placements.filterMap deleted?) (placements.filterMap staged?) := by
  induction decided with
  | nil => exact .done
  | @cons mapping placement rest placements here later ih =>
    obtain ⟨repoId, repo, changeset, spec⟩ := mapping
    cases spec with
    | none =>
      cases changeset with
      | none =>
        cases here
        exact .nothing ih
      | some row =>
        cases repo with
        | none =>
          cases here
          exact .leftAlone ih
        | some repo =>
          simp only [ofMapping, Except.ok.injEq] at here
          subst here
          by_cases disposable : row.IsDisposable campaign
          · rw [ofDropped_of_isDisposable disposable]
            exact .deleted disposable ih
          · rw [ofDropped_of_not_isDisposable disposable]
            exact .staged (.departs disposable) ih
    | some wanted =>
      cases repo with
      | none => cases here
      | some repo =>
        cases changeset <;> cases here
        · exact .staged .comes ih
        · exact .staged .moves ih

/-- The campaign holds what is left alone and what is to be written, as far as that is part of it
and has a number. -/
theorem mem_filterMap_member? {id : ChangesetId} :
    id ∈ placements.filterMap (member? campaign) ↔
      (∃ row ∈ placements.filterMap untouched?, row.isAttachedTo campaign = true ∧ row.id = id) ∨
        ∃ row ∈ placements.filterMap staged?, row.isAttachedTo campaign = true ∧
          row.id ≠ .unsaved ∧ row.id = id := by
  simp only [List.mem_filterMap]
  constructor
  · rintro ⟨placement, present, listed⟩
    cases placement with
    | nothing => cases listed
    | deleted _ => cases listed
    | untouched row => exact .inl ⟨row, ⟨_, present, rfl⟩, member?_untouched.mp listed⟩
    | staged row =>
      obtain ⟨attached, about⟩ := member?_staged.mp listed
      exact .inr ⟨row, ⟨_, present, rfl⟩, attached, subject?_staged.mp about⟩
  · rintro (⟨row, ⟨placement, present, told⟩, listed⟩ | ⟨row, ⟨placement, present, told⟩, attached,
      about⟩)
    · cases placement <;> cases told
      exact ⟨_, present, member?_untouched.mpr listed⟩
    · cases placement <;> cases told
      exact ⟨_, present, member?_staged.mpr ⟨attached, subject?_staged.mpr about⟩⟩

private theorem ofMappings_of_decided (decided : List.Forall₂ (fun mapping placement =>
      ofMapping campaign now mapping = .ok placement) mappings placements) :
    ofMappings campaign now mappings = .ok placements := by
  induction decided with
  | nil => rfl
  | cons here later ih =>
    simp only [ofMappings, here, ih]
    rfl

private theorem exists_ofMappings_of_perm (same : others.Perm mappings)
    (decided : ofMappings campaign now mappings = .ok placements) :
    ∃ again, ofMappings campaign now others = .ok again ∧ again.Perm placements := by
  obtain ⟨again, beside, permuted⟩ := List.perm_comp_forall₂ same (ofMappings_eq_ok decided)
  exact ⟨again, ofMappings_of_decided beside, permuted⟩

end Placement

namespace Campaign

/-- A campaign as its rewiring leaves it; a rewiring that fails leaves it as it was. -/
def rewired (campaign : Campaign) (now : Time) (mappings : List Mapping) : Campaign :=
  match campaign.rewire now mappings with
  | .ok rewiring => rewiring.campaign
  | .error _ => campaign

variable {campaign : Campaign} {now : Time} {mappings : List Mapping}

private theorem rewire_of_placements {placements : List Placement}
    (decided : Placement.ofMappings campaign.id now mappings = .ok placements) :
    campaign.rewire now mappings = .ok
      ⟨{ campaign with
          changesetIds := IdSet.ofList (placements.filterMap (Placement.member? campaign.id)) },
        placements.filterMap Placement.staged?, placements.filterMap Placement.deleted?⟩ := by
  simp only [rewire, decided]
  rfl

private theorem rewire_of_isBarred {mapping : Mapping}
    (first : mappings.find? (·.isBarred) = some mapping) :
    campaign.rewire now mappings = .error (.repoNotFound mapping.repoId) := by
  simp only [rewire, Placement.ofMappings_of_isBarred first]
  rfl

/-- A rewiring accounts for all mappings: what is in the three places, which changesets are part of
the campaign afterwards, and what another order of the mappings changes. -/
structure Accounted (campaign : Campaign) (now : Time) (mappings : List Mapping)
    (rewiring : Rewiring) (alone : List Changeset) : Prop where
  places : Mapping.Accounts campaign.id now mappings alone rewiring.deleted rewiring.changesets
  complete : (alone.map (·.id) ++ (rewiring.deleted ++
    (rewiring.changesets.map (·.id)).filter (· ≠ .unsaved))).Perm
      (mappings.filterMap Mapping.changesetId?)
  apart : (alone.map (·.id) ++ (rewiring.deleted ++
    (rewiring.changesets.map (·.id)).filter (· ≠ .unsaved))).Nodup
  kept : campaign.rewired now mappings =
    { campaign with changesetIds := rewiring.campaign.changesetIds }
  members (id : ChangesetId) : rewiring.campaign.changesetIds.contains id = true ↔
    (∃ row ∈ alone, row.isAttachedTo campaign.id = true ∧ row.id = id) ∨
      ∃ row ∈ rewiring.changesets, row.isAttachedTo campaign.id = true ∧ row.id ≠ .unsaved ∧
        row.id = id
  reordered (others : List Mapping) (same : others.Perm mappings) :
    ∃ again, campaign.rewire now others = .ok again ∧ again.campaign = rewiring.campaign ∧
      again.changesets.Perm rewiring.changesets ∧ again.deleted.Perm rewiring.deleted

/-- The rewiring of any mappings whose changesets have numbers, no two of them the same one. If a
mapping has a spec and no repository that the actor can see, then the first such mapping tells why
the rewiring fails, and the campaign stays as it was. Otherwise the rewiring succeeds and accounts
for all mappings. -/
theorem rewire_accounts (campaign : Campaign) (now : Time) (mappings : List Mapping)
    (saved : .unsaved ∉ mappings.filterMap Mapping.changesetId?)
    (distinct : (mappings.filterMap Mapping.changesetId?).Nodup) :
    (∀ mapping, mappings.find? (·.isBarred) = some mapping →
      campaign.rewire now mappings = .error (.repoNotFound mapping.repoId) ∧
        campaign.rewired now mappings = campaign) ∧
      (mappings.find? (·.isBarred) = none → ∃ rewiring alone,
        campaign.rewire now mappings = .ok rewiring ∧
          campaign.Accounted now mappings rewiring alone) := by
  refine ⟨fun mapping first => ?_, fun free => ?_⟩
  · have failed : campaign.rewire now mappings = .error (.repoNotFound mapping.repoId) :=
      rewire_of_isBarred first
    exact ⟨failed, by rw [rewired, failed]⟩
  · obtain ⟨placements, decided⟩ := Placement.exists_ofMappings free campaign.id now
    have done := rewire_of_placements decided
    have accounts := Placement.accounts_of_decided (Placement.ofMappings_eq_ok decided)
    have complete := accounts.perm_ids saved
    refine ⟨_, placements.filterMap Placement.untouched?, done, accounts, complete,
      complete.nodup_iff.mpr distinct, by rw [rewired, done], fun id => ?_, fun others same => ?_⟩
    · rw [IdSet.contains_ofList, Placement.mem_filterMap_member?]
    · obtain ⟨again, decidedAgain, permuted⟩ := Placement.exists_ofMappings_of_perm same decided
      refine ⟨_, rewire_of_placements decidedAgain, ?_, permuted.filterMap _,
        permuted.filterMap _⟩
      have members : IdSet.ofList (again.filterMap (Placement.member? campaign.id)) =
          IdSet.ofList (placements.filterMap (Placement.member? campaign.id)) :=
        IdSet.ext_contains fun id => by
          rw [Bool.eq_iff_iff, IdSet.contains_ofList, IdSet.contains_ofList,
            (permuted.filterMap _).mem_iff]
      simp only [members]

namespace Sample

def subject : Campaign where
  id := ⟨9⟩
  name := "tidy"
  description := ""
  space := .user ⟨1⟩
  campaignSpecId := ⟨8⟩
  changesetIds := IdSet.ofList [⟨1⟩, ⟨2⟩, ⟨3⟩]
  initialApplierId := ⟨1⟩
  lastApplierId := ⟨1⟩
  lastAppliedAt := .epoch
  closedAt := none
  createdAt := .epoch
  updatedAt := .epoch

def held (id : Int) : Changeset where
  id := ⟨id⟩
  repoId := ⟨1⟩
  codeHost := .github
  ownerId := some ⟨9⟩
  campaignIds := IdSet.ofList [⟨9⟩]
  createdAt := .epoch
  updatedAt := .epoch

def wanted : ChangesetSpec where
  id := ⟨10⟩
  randId := "r10"
  campaignSpecId := ⟨8⟩
  repoId := ⟨1⟩
  userId := ⟨1⟩
  target := .branchPush ⟨"main", "f00", "tidy", "tidy", "", ⟨"tidy", "", none, none⟩, .published⟩
  diffStat := none
  createdAt := .epoch

def seen : Option Repo := some ⟨⟨1⟩, "github.com/acme/app", .github⟩

/-- One mapping that is left alone, one for a deletion, and three rows to be written. -/
def sundry : List Mapping :=
  [⟨⟨2⟩, none, some (held 1), none⟩, ⟨⟨1⟩, seen, some (held 2), none⟩,
    ⟨⟨1⟩, seen, some { held 3 with publication := .published, externalState := some .opened },
      none⟩,
    ⟨⟨1⟩, seen, none, some wanted⟩, ⟨⟨1⟩, seen, some (held 4), some wanted⟩]

end Sample

open Sample in
/-- Mappings of every kind, without and with one that is barred. -/
theorem rewire_accounts_sundry :
    .unsaved ∉ sundry.filterMap Mapping.changesetId? ∧
    (sundry.filterMap Mapping.changesetId?).Nodup ∧
    subject.rewire .epoch (sundry ++ [⟨⟨2⟩, none, none, some wanted⟩]) =
      .error (.repoNotFound ⟨2⟩) ∧
    ∃ rewiring alone, subject.rewire .epoch sundry = .ok rewiring ∧
      subject.Accounted .epoch sundry rewiring alone ∧ rewiring.deleted = [⟨2⟩] ∧
      rewiring.changesets.map (·.id) = [⟨3⟩, .unsaved, ⟨4⟩] ∧
      rewiring.campaign.changesetIds.ids = [⟨1⟩, ⟨4⟩] := by
  refine ⟨by decide, by decide, ?_, ?_⟩
  · exact ((rewire_accounts subject .epoch _ (by decide) (by decide)).1
      ⟨⟨2⟩, none, none, some wanted⟩ (by decide)).1
  · obtain ⟨rewiring, alone, done, accounted⟩ :=
      (rewire_accounts subject .epoch sundry (by decide) (by decide)).2 (by decide)
    have lists : (subject.rewire .epoch sundry).toOption.map (fun rewiring =>
        (rewiring.deleted, rewiring.changesets.map (·.id), rewiring.campaign.changesetIds.ids)) =
          some ([⟨2⟩], [⟨3⟩, .unsaved, ⟨4⟩], [⟨1⟩, ⟨4⟩]) := by decide +kernel
    rw [done] at lists
    simp only [Except.toOption, Option.map_some, Option.some.injEq, Prod.mk.injEq] at lists
    exact ⟨rewiring, alone, done, accounted, lists⟩

end Campaign

end BatchChanges
