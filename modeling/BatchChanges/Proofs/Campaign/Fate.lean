import BatchChanges.Campaign.Apply
import BatchChanges.Campaign.Close
import BatchChanges.Proofs.Campaign.Mapping

/-! # What applications and closures do to changesets

The transaction of an application decides about each changeset by itself: it stays, leaves the
campaign, is deleted, or moves on to a spec; other changesets are new. A closure queues changesets
to be closed and leaves the others. Leases and specs stay what they are, and a transaction that
fails leaves the store that it began with.
-/

namespace BatchChanges

/-- What the transaction of an application is about. -/
structure Generation where
  visible : Visibility
  actor : Actor
  spec : CampaignSpecId
  campaign : CampaignId
  now : Time

namespace Generation

/-- A changeset of the campaign that no spec was paired with, in a repository that the actor can
see. -/
structure Unwanted (generation : Generation) (store : Store) (row : Changeset) : Prop where
  attached : row.isAttachedTo generation.campaign = true
  unpaired : ∀ pair ∈ store.pairs generation.spec generation.campaign, pair.2 ≠ some row
  visible : ∃ repo, store.repos.find? row.repoId = some repo ∧
    generation.visible generation.actor repo = true

/-- What becomes of the row of a number. -/
inductive Fate (generation : Generation) (store : Store) (id : ChangesetId) :
    Option Changeset → Option Changeset → Prop
  | kept (row : Option Changeset) : Fate generation store id row row
  | left {row placed : Changeset} (unwanted : generation.Unwanted store row)
      (decided : Placement.ofDropped generation.campaign generation.now row = .staged placed) :
      Fate generation store id (some row) (some placed)
  | deleted {row : Changeset} (unwanted : generation.Unwanted store row)
      (decided : Placement.ofDropped generation.campaign generation.now row = .deleted row.id) :
      Fate generation store id (some row) none
  | followed {row : Changeset} {spec : ChangesetSpec}
      (paired : (spec, some row) ∈ store.pairs generation.spec generation.campaign) :
      Fate generation store id (some row)
        (some (row.following generation.campaign generation.now spec))
  | created {spec : ChangesetSpec} {repo : Repo}
      (paired : (spec, none) ∈ store.pairs generation.spec generation.campaign)
      (located : store.repos.find? spec.repoId = some repo) (fresh : store.lastId < id.value) :
      Fate generation store id none
        (some { Changeset.ofSpec generation.campaign generation.now repo spec with id })

/-- Only repositories, changesets and their specs decide about fates. -/
theorem Fate.congr {generation : Generation} {store next : Store} {id : ChangesetId}
    {before after : Option Changeset} (repos : next.repos = store.repos)
    (rows : next.changesets = store.changesets) (specs : next.changesetSpecs = store.changesetSpecs)
    (last : store.lastId ≤ next.lastId) (fate : generation.Fate next id before after) :
    generation.Fate store id before after := by
  have pairs : next.pairs generation.spec generation.campaign =
      store.pairs generation.spec generation.campaign := by
    simp only [Store.pairs, Store.specsOf, specs, Store.pairings_congr rows specs]
  have unwanted : ∀ {row}, generation.Unwanted next row → generation.Unwanted store row :=
    fun unwanted => ⟨unwanted.attached, pairs ▸ unwanted.unpaired, repos ▸ unwanted.visible⟩
  cases fate with
  | kept => exact .kept _
  | left isUnwanted decided => exact .left (unwanted isUnwanted) decided
  | deleted isUnwanted decided => exact .deleted (unwanted isUnwanted) decided
  | followed paired => exact .followed (pairs ▸ paired)
  | created paired located fresh =>
    exact .created (pairs ▸ paired) (repos ▸ located) (Int.lt_of_le_of_lt last fresh)

end Generation

/-- What becomes of a row when a campaign is closed. -/
inductive Closure.Fate (closure : Closure) (now : Time) :
    Option Changeset → Option Changeset → Prop
  | kept (row : Option Changeset) : Fate closure now row row
  | closed {row : Changeset} (attached : row.isAttachedTo closure.id = true)
      (opened : row.isClosedWith closure.id = true) :
      Fate closure now (some row) (some (row.queuedToClose now))

namespace Store

/-- One store comes from another by a transaction on changesets: whatever becomes of them, leases,
repositories and specs stay as they are. -/
structure Transacted (store next : Store)
    (fate : ChangesetId → Option Changeset → Option Changeset → Prop) : Prop where
  leases : next.leases = store.leases
  repos : next.repos = store.repos
  changesetSpecs : next.changesetSpecs = store.changesetSpecs
  lastId_le : store.lastId ≤ next.lastId
  row (id : ChangesetId) : fate id (store.changesets.find? id) (next.changesets.find? id)
  numbered : next.Numbered

/-- A transaction that leaves nothing behind. -/
theorem Transacted.refl {store : Store} (numbered : store.Numbered)
    {fate : ChangesetId → Option Changeset → Option Changeset → Prop}
    (kept : ∀ id row, fate id row row) : store.Transacted store fate :=
  ⟨rfl, rfl, rfl, Int.le_refl _, fun id => kept id _, numbered⟩

theorem upsertChangeset_eq_ok {store next : Store} {changeset stored : Changeset}
    (done : store.upsertChangeset changeset = .ok (stored, next)) :
    (changeset.id = .unsaved ∧ stored = { changeset with id := ⟨store.lastId + 1⟩ } ∧
        next = { store with
          changesets := store.changesets.insert ⟨store.lastId + 1⟩ stored
          lastId := store.lastId + 1 }) ∨
      (∃ row, store.changesets.find? changeset.id = some row) ∧ stored = changeset ∧
        next = { store with changesets := store.changesets.insert changeset.id changeset } := by
  simp only [upsertChangeset] at done
  split_ifs at done with unsaved present
  · cases done
    exact .inl ⟨(Id.isUnsaved_iff _).mp unsaved, rfl, rfl⟩
  · cases done
    exact .inr ⟨Table.contains_iff.mp present, rfl, rfl⟩

/-- What a sequence of writes makes of the row of a number: it stays if nothing is written over it,
it is written over, or it is new. -/
inductive Written (changesets : List Changeset) (last : Int) (id : ChangesetId) :
    Option Changeset → Option Changeset → Prop
  | kept (row : Option Changeset)
      (spared : ∀ changeset ∈ changesets, changeset.id = id → changeset.id = .unsaved) :
      Written changesets last id row row
  | stored {row : Option Changeset} {changeset : Changeset} (member : changeset ∈ changesets)
      (same : changeset.id = id) (known : changeset.id ≠ .unsaved) :
      Written changesets last id row (some changeset)
  | fresh {row : Option Changeset} {changeset : Changeset} (member : changeset ∈ changesets)
      (unsaved : changeset.id = .unsaved) (new : last < id.value) :
      Written changesets last id row (some { changeset with id })

/-- A sequence of writes touches changesets only, and numbers those that are new. -/
structure Writes (store next : Store) (changesets : List Changeset) : Prop where
  leases : next.leases = store.leases
  repos : next.repos = store.repos
  changesetSpecs : next.changesetSpecs = store.changesetSpecs
  campaigns : next.campaigns = store.campaigns
  lastId_le : store.lastId ≤ next.lastId
  row (id : ChangesetId) :
    Written changesets store.lastId id (store.changesets.find? id) (next.changesets.find? id)

theorem Writes.nil (store : Store) : store.Writes store [] :=
  ⟨rfl, rfl, rfl, rfl, Int.le_refl _, fun _ => .kept _ fun _ member =>
    absurd member List.not_mem_nil⟩

/-- A write comes before the other ones. -/
theorem Writes.cons {store middle next : Store} {changeset stored : Changeset}
    {rest : List Changeset} (numbered : store.Numbered)
    (first : store.upsertChangeset changeset = .ok (stored, middle))
    (others : middle.Writes next rest) : store.Writes next (changeset :: rest) := by
  obtain ⟨unsaved, rfl, rfl⟩ | ⟨⟨row, found⟩, rfl, rfl⟩ := upsertChangeset_eq_ok first
  · refine ⟨others.leases, others.repos, others.changesetSpecs, others.campaigns,
      Int.le_trans (Int.le_add_one (Int.le_refl _)) others.lastId_le, fun id => ?_⟩
    have written := others.row id
    simp only [Table.find?_insert] at written
    generalize found : next.changesets.find? id = result at written
    cases written with
    | kept spared =>
      split
      · next same =>
        subst same
        exact .fresh List.mem_cons_self unsaved (Int.lt_succ _)
      · exact .kept _ (List.forall_mem_cons.mpr ⟨fun _ => unsaved, spared⟩)
    | stored member same known => exact .stored (List.mem_cons_of_mem _ member) same known
    | fresh member unsaved new =>
      exact .fresh (List.mem_cons_of_mem _ member) unsaved (Int.lt_trans (Int.lt_succ _) new)
  · refine ⟨others.leases, others.repos, others.changesetSpecs, others.campaigns, others.lastId_le,
      fun id => ?_⟩
    have written := others.row id
    simp only [Table.find?_insert] at written
    generalize present : next.changesets.find? id = result at written
    cases written with
    | kept spared =>
      split
      · next same =>
        exact .stored List.mem_cons_self same (numbered.ne_unsaved found)
      · next other => exact .kept _ (List.forall_mem_cons.mpr ⟨fun same => absurd same other, spared⟩)
    | stored member same known => exact .stored (List.mem_cons_of_mem _ member) same known
    | fresh member unsaved new => exact .fresh (List.mem_cons_of_mem _ member) unsaved new

theorem Numbered.upsertChangeset {store next : Store} {changeset stored : Changeset}
    (numbered : store.Numbered) (done : store.upsertChangeset changeset = .ok (stored, next)) :
    next.Numbered := by
  obtain ⟨unsaved, rfl, rfl⟩ | ⟨⟨row, found⟩, rfl, rfl⟩ := upsertChangeset_eq_ok done
  · refine ⟨?_, ?_, ?_, ?_, Int.le_add_one numbered.lastId_nonneg⟩
    · intro id row present
      rcases Table.find?_insert_eq_some.mp present with ⟨rfl, rfl⟩ | ⟨-, present⟩
      · exact ⟨rfl, Int.lt_add_one_of_le numbered.lastId_nonneg, Int.le_refl _⟩
      · obtain ⟨same, positive, bounded⟩ := numbered.changesets present
        exact ⟨same, positive, Int.le_add_one bounded⟩
    · intro id spec present
      obtain ⟨same, bounded⟩ := numbered.changesetSpecs present
      exact ⟨same, Int.le_add_one bounded⟩
    · exact fun present => Int.le_add_one (numbered.campaigns present)
    · intro id record present
      obtain ⟨same, bounded⟩ := numbered.leases present
      exact ⟨same, Int.le_add_one bounded⟩
  · refine numbered.congr ?_ (fun present => .inr ⟨_, present, rfl⟩) rfl rfl rfl
    intro id other present
    rcases Table.find?_insert_eq_some.mp present with ⟨rfl, rfl⟩ | ⟨-, present⟩
    · exact ⟨rfl, row, found⟩
    · exact ⟨(numbered.changesets present).1, other, present⟩

namespace Numbered

variable {store next : Store}

/-- A campaign that is new has the next number. -/
theorem insertCampaign {campaign stored : Campaign} (numbered : store.Numbered)
    (done : store.insertCampaign campaign = .ok (stored, next)) : next.Numbered := by
  simp only [Store.insertCampaign] at done
  split_ifs at done
  cases done
  refine numbered.skip store.campaignSpecs ?_
  intro id other found
  rcases Table.find?_insert_eq_some.mp found with ⟨rfl, -⟩ | ⟨-, found⟩
  · exact Int.le_refl _
  · exact Int.le_add_one (numbered.campaigns found)

theorem replaceCampaign {campaign : Campaign} (numbered : store.Numbered)
    (done : store.replaceCampaign campaign = .ok next) : next.Numbered := by
  simp only [Store.replaceCampaign] at done
  split_ifs at done with present
  cases done
  refine numbered.withCampaigns ?_
  intro id other found
  rcases Table.find?_insert_eq_some.mp found with ⟨rfl, -⟩ | ⟨-, found⟩
  · exact Table.contains_iff.mp present
  · exact ⟨other, found⟩

theorem deleteChangeset {id : ChangesetId} (numbered : store.Numbered)
    (done : store.deleteChangeset id = .ok next) : next.Numbered := by
  simp only [Store.deleteChangeset] at done
  split_ifs at done
  cases done
  refine numbered.congr ?_ (fun present => .inr ⟨_, present, rfl⟩) rfl rfl rfl
  intro other row present
  obtain ⟨-, present⟩ := Table.find?_erase_eq_some.mp present
  exact ⟨(numbered.changesets present).1, row, present⟩

end Numbered

end Store

end BatchChanges
