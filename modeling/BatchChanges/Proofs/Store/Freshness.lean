import BatchChanges.Proofs.Store.Reachable

/-! # No number is given away twice

Specs, campaigns and changesets are numbered by one counter. Whatever happens to a store, each of
them stays under its own number, which the counter has reached, and no number stands for two of
them, of one kind or of two. What is new is above the counter, so it is written over nothing; and
since the counter never falls, the number of a changeset that was deleted stays without a row for
ever. A lease on it that is left over finds nothing to write to.
-/

namespace BatchChanges

namespace Table

variable {kind : Kind} {α : Type} {table : Table kind α} {id : Id kind} {row : α}

theorem contains_insert (table : Table kind α) (id other : Id kind) (row : α) :
    (table.insert id row).contains other = (decide (id = other) || table.contains other) := by
  by_cases same : id = other <;> simp [contains, same]

/-- What holds of all rows, and of one more, holds of all rows when that is stored. -/
theorem forall_insert (holds : Id kind → α → Prop)
    (all : ∀ {other found}, table.find? other = some found → holds other found)
    (new : holds id row) {other : Id kind} {found : α}
    (present : (table.insert id row).find? other = some found) : holds other found := by
  rcases find?_insert_eq_some.mp present with ⟨rfl, rfl⟩ | ⟨-, present⟩
  · exact new
  · exact all present

/-- A row that takes the place of another one uses no other number. -/
theorem exists_of_insert {new : α} (stored : table.find? id = some row) {other : Id kind}
    {found : α} (present : (table.insert id new).find? other = some found) :
    ∃ before, table.find? other = some before :=
  forall_insert (fun id _ => ∃ before, table.find? id = some before)
    (fun present => ⟨_, present⟩) ⟨row, stored⟩ present

/-- A row that is stored under the next number uses that one besides the others. -/
theorem contains_next {last number : Int}
    (used : (table.insert ⟨last + 1⟩ row).contains ⟨number⟩ = true) :
    table.contains ⟨number⟩ = true ∨ last < number ∧ number ≤ last + 1 := by
  simp only [contains_insert, Bool.or_eq_true, decide_eq_true_eq, Id.mk.injEq] at used
  rcases used with same | before
  · omega
  · exact .inl before

end Table

namespace Store

/-- A row of a kind is stored under a number. The store numbers specs, campaigns and changesets. -/
def Uses (store : Store) (number : Int) : Kind → Prop
  | .campaignSpec => store.campaignSpecs.contains ⟨number⟩ = true
  | .changesetSpec => store.changesetSpecs.contains ⟨number⟩ = true
  | .campaign => store.campaigns.contains ⟨number⟩ = true
  | .changeset => store.changesets.contains ⟨number⟩ = true
  | .repo | .user | .org => False

/-- Everything is under its own number, which has been given away to nothing else. -/
structure Distinct (store : Store) : Prop extends store.Numbered where
  campaignSpecs_id {id : CampaignSpecId} {spec : CampaignSpec}
    (found : store.campaignSpecs.find? id = some spec) : spec.id = id
  campaigns_id {id : CampaignId} {campaign : Campaign}
    (found : store.campaigns.find? id = some campaign) : campaign.id = id
  bounded {number : Int} {kind : Kind} (used : store.Uses number kind) :
    1 ≤ number ∧ number ≤ store.lastId
  single {number : Int} {kind other : Kind} (used : store.Uses number kind)
    (also : store.Uses number other) : kind = other

theorem distinct_empty : (∅ : Store).Distinct where
  toNumbered := numbered_empty
  campaignSpecs_id found := by cases found
  campaigns_id found := by cases found
  bounded {_ kind} used := by cases kind <;> cases used
  single {_ kind _} used := by cases kind <;> cases used

/-- The counter does not fall, and only numbers above it come into use. -/
structure Grows (store next : Store) : Prop where
  lastId_le : store.lastId ≤ next.lastId
  uses {number : Int} {kind : Kind} (used : next.Uses number kind) :
    store.Uses number kind ∨ store.lastId < number

namespace Grows

variable {store next later : Store}

private theorem refl (store : Store) : store.Grows store := ⟨Int.le_refl _, .inl⟩

private theorem trans (first : store.Grows next) (second : next.Grows later) :
    store.Grows later where
  lastId_le := Int.le_trans first.lastId_le second.lastId_le
  uses used := by
    rcases second.uses used with before | new
    · exact first.uses before
    · exact .inr (Int.lt_of_le_of_lt first.lastId_le new)

/-- A number that was given away and is not in use never comes into use again. -/
theorem not_uses {number : Int} {kind : Kind} (grows : store.Grows later)
    (gone : ¬ store.Uses number kind) (given : number ≤ store.lastId) :
    ¬ later.Uses number kind := by
  intro used
  rcases grows.uses used with before | new
  · exact gone before
  · exact absurd given (Int.not_le.mpr new)

end Grows

namespace Distinct

variable {store next : Store}

/-- Numbers stay distinct when all that is new is of one kind and above the counter. -/
theorem of_uses (distinct : store.Distinct) (numbered : next.Numbered) (created : Kind)
    (specs : ∀ {id spec}, next.campaignSpecs.find? id = some spec → spec.id = id)
    (campaigns : ∀ {id campaign}, next.campaigns.find? id = some campaign → campaign.id = id)
    (last : store.lastId ≤ next.lastId)
    (uses : ∀ {number kind}, next.Uses number kind → store.Uses number kind ∨
      kind = created ∧ store.lastId < number ∧ number ≤ next.lastId) :
    next.Distinct ∧ store.Grows next := by
  have grows : store.Grows next := ⟨last, fun used => (uses used).imp_right fun new => new.2.1⟩
  refine ⟨⟨numbered, specs, campaigns, fun used => ?_, fun used also => ?_⟩, grows⟩
  · rcases uses used with before | ⟨-, new, given⟩
    · exact (distinct.bounded before).imp_right fun given => Int.le_trans given last
    · exact ⟨Int.lt_of_le_of_lt distinct.lastId_nonneg new, given⟩
  · rcases uses used with before | ⟨rfl, new, -⟩ <;> rcases uses also with other | ⟨rfl, new', -⟩
    · exact distinct.single before other
    · exact absurd (distinct.bounded before).2 (Int.not_le.mpr new')
    · exact absurd (distinct.bounded other).2 (Int.not_le.mpr new)
    · rfl

/-- They do when rows of changesets are revised or removed. -/
theorem of_rows (distinct : store.Distinct) (numbered : next.Numbered)
    (campaignSpecs : next.campaignSpecs = store.campaignSpecs)
    (changesetSpecs : next.changesetSpecs = store.changesetSpecs)
    (campaigns : next.campaigns = store.campaigns)
    (rows : ∀ {id row}, next.changesets.find? id = some row →
      ∃ before, store.changesets.find? id = some before)
    (last : next.lastId = store.lastId) : next.Distinct ∧ store.Grows next := by
  refine distinct.of_uses numbered .changeset (fun found => ?_) (fun found => ?_)
    (Int.le_of_eq last.symm) fun {number kind} used => .inl ?_
  · exact distinct.campaignSpecs_id (campaignSpecs ▸ found)
  · exact distinct.campaigns_id (campaigns ▸ found)
  · cases kind with
    | changeset =>
      obtain ⟨row, found⟩ := Table.contains_iff.mp used
      exact Table.contains_iff.mpr (rows found)
    | campaignSpec => simpa only [Uses, campaignSpecs] using used
    | changesetSpec => simpa only [Uses, changesetSpecs] using used
    | campaign => simpa only [Uses, campaigns] using used
    | repo | user | org => cases used

private theorem putRepo (distinct : store.Distinct) (repo : Repo) :
    (store.putRepo repo).Distinct ∧ store.Grows (store.putRepo repo) :=
  distinct.of_rows (distinct.toNumbered.putRepo repo) rfl rfl rfl (fun found => ⟨_, found⟩) rfl

private theorem addCampaignSpec (distinct : store.Distinct) (spec : CampaignSpec) :
    (store.addCampaignSpec spec).2.Distinct ∧ store.Grows (store.addCampaignSpec spec).2 := by
  refine distinct.of_uses
    (distinct.toNumbered.skip _ fun found => Int.le_add_one (distinct.campaigns found))
    .campaignSpec (Table.forall_insert (fun id (spec : CampaignSpec) => spec.id = id)
      distinct.campaignSpecs_id rfl) distinct.campaigns_id
    (Int.le_add_one (Int.le_refl _)) fun {number kind} used => ?_
  cases kind with
  | campaignSpec => exact (Table.contains_next used).imp_right fun new => ⟨rfl, new⟩
  | _ => exact .inl used

private theorem addChangesetSpec (distinct : store.Distinct) (spec : ChangesetSpec) :
    (store.addChangesetSpec spec).2.Distinct ∧ store.Grows (store.addChangesetSpec spec).2 := by
  refine distinct.of_uses (distinct.toNumbered.addChangesetSpec spec) .changesetSpec
    distinct.campaignSpecs_id distinct.campaigns_id (Int.le_add_one (Int.le_refl _))
    fun {number kind} used => ?_
  cases kind with
  | changesetSpec => exact (Table.contains_next used).imp_right fun new => ⟨rfl, new⟩
  | _ => exact .inl used

private theorem insertCampaign {campaign stored : Campaign} (distinct : store.Distinct)
    (done : store.insertCampaign campaign = .ok (stored, next)) :
    next.Distinct ∧ store.Grows next := by
  have numbered := distinct.toNumbered.insertCampaign done
  simp only [Store.insertCampaign] at done
  split_ifs at done
  cases done
  refine distinct.of_uses numbered .campaign distinct.campaignSpecs_id
    (Table.forall_insert (fun id (campaign : Campaign) => campaign.id = id)
      distinct.campaigns_id (by rfl)) (Int.le_add_one (Int.le_refl _))
    fun {number kind} used => ?_
  cases kind with
  | campaign => exact (Table.contains_next used).imp_right fun new => ⟨rfl, new⟩
  | _ => exact .inl used

private theorem replaceCampaign {campaign : Campaign} (distinct : store.Distinct)
    (done : store.replaceCampaign campaign = .ok next) : next.Distinct ∧ store.Grows next := by
  have numbered := distinct.toNumbered.replaceCampaign done
  simp only [Store.replaceCampaign] at done
  split_ifs at done with present
  cases done
  refine distinct.of_uses numbered .campaign distinct.campaignSpecs_id
    (Table.forall_insert (fun id (campaign : Campaign) => campaign.id = id)
      distinct.campaigns_id rfl) (Int.le_refl _)
    fun {number kind} used => .inl ?_
  cases kind with
  | campaign =>
    simp only [Uses, Table.contains_insert, Bool.or_eq_true, decide_eq_true_eq] at used ⊢
    rcases used with same | before
    · exact same ▸ present
    · exact before
  | _ => exact used

private theorem upsertChangeset {changeset stored : Changeset} (distinct : store.Distinct)
    (done : store.upsertChangeset changeset = .ok (stored, next)) :
    next.Distinct ∧ store.Grows next := by
  have numbered := distinct.toNumbered.upsertChangeset done
  obtain ⟨-, -, rfl⟩ | ⟨⟨row, found⟩, -, rfl⟩ := upsertChangeset_eq_ok done
  · refine distinct.of_uses numbered .changeset distinct.campaignSpecs_id distinct.campaigns_id
      (Int.le_add_one (Int.le_refl _)) fun {number kind} used => ?_
    cases kind with
    | changeset => exact (Table.contains_next used).imp_right fun new => ⟨rfl, new⟩
    | _ => exact .inl used
  · exact distinct.of_rows numbered rfl rfl rfl (Table.exists_of_insert found) rfl

private theorem updateWhere {test : Changeset → Bool} {revise : Changeset → Changeset}
    (distinct : store.Distinct) (numbered : (store.updateWhere test revise).Numbered) :
    (store.updateWhere test revise).Distinct ∧ store.Grows (store.updateWhere test revise) := by
  refine distinct.of_rows numbered rfl rfl rfl (fun {id row} present => ?_) rfl
  rw [find?_updateWhere] at present
  obtain ⟨before, stored, -⟩ := Option.map_eq_some_iff.mp present
  exact ⟨before, stored⟩

private theorem deleteChangeset {id : ChangesetId} (distinct : store.Distinct)
    (done : store.deleteChangeset id = .ok next) : next.Distinct ∧ store.Grows next := by
  have numbered := distinct.toNumbered.deleteChangeset done
  simp only [Store.deleteChangeset] at done
  split_ifs at done
  cases done
  refine distinct.of_rows numbered rfl rfl rfl (fun {other row} present => ?_) rfl
  exact ⟨row, (Table.find?_erase_eq_some.mp present).2⟩

/-- Every write of a transaction keeps numbers distinct, or fails. -/
theorem edit (distinct : store.Distinct) (edit : Edit) :
    (store.edit edit).Distinct ∧ store.Grows (store.edit edit) := by
  have failed : store.Distinct ∧ store.Grows store := ⟨distinct, .refl store⟩
  cases edit with
  | createCampaign campaign =>
    simp only [Store.edit]
    split
    · next done => exact distinct.insertCampaign done
    · exact failed
  | updateCampaign campaign =>
    simp only [Store.edit]
    split
    · next done => exact distinct.replaceCampaign done
    · exact failed
  | upsertChangeset changeset =>
    simp only [Store.edit]
    split
    · next done => exact distinct.upsertChangeset done
    · exact failed
  | deleteChangeset id =>
    simp only [Store.edit]
    split
    · next done => exact distinct.deleteChangeset done
    · exact failed

/-- So does a whole transaction, as far as it has got. -/
theorem edits (distinct : store.Distinct) (edits : List Edit) :
    (edits.foldl Store.edit store).Distinct ∧ store.Grows (edits.foldl Store.edit store) := by
  induction edits generalizing store with
  | nil => exact ⟨distinct, .refl store⟩
  | cons edit rest ih =>
    obtain ⟨first, grows⟩ := distinct.edit edit
    exact (ih first).imp_right grows.trans

/-- The calls of the queue change rows of changesets and leases only. -/
theorem perform (distinct : store.Distinct) (call : QueueCall) :
    (call.perform store).2.Distinct ∧ store.Grows (call.perform store).2 := by
  have numbered := distinct.toNumbered.perform call
  have failed : store.Distinct ∧ store.Grows store := ⟨distinct, .refl store⟩
  cases call with
  | claim worker token now length =>
    simp only [QueueCall.perform] at numbered ⊢
    split
    · next claimed =>
      obtain ⟨none, -⟩ | ⟨row, expiresAt, found, -, rfl⟩ := leaseNext_eq_ok claimed
      · cases none
      · have stored := distinct.toNumbered.find?_candidate found
        exact distinct.of_rows (distinct.toNumbered.claim found worker token expiresAt) rfl rfl rfl
          (Table.exists_of_insert stored) rfl
    · next claimed =>
      obtain ⟨-, rfl⟩ | ⟨row, expiresAt, -, some, -⟩ := leaseNext_eq_ok claimed
      · exact failed
      · cases some
    · exact failed
  | renew lease now length =>
    simp only [QueueCall.perform] at numbered ⊢
    split
    · next renewed =>
      obtain ⟨-, -, rfl⟩ | ⟨record, expiresAt, -, found, -, -, rfl⟩ := renew_eq_ok renewed
      · exact failed
      · exact distinct.of_rows (distinct.toNumbered.renew found expiresAt) rfl rfl rfl
          (fun present => ⟨_, present⟩) rfl
    · exact failed
  | finish lease outcome =>
    by_cases holds : store.Holds lease
    · obtain ⟨record, found, same⟩ := holds
      simp only [QueueCall.perform, finish_of_record found same] at numbered ⊢
      cases stored : store.changesets.find? lease.changesetId with
      | none =>
        rw [stored] at numbered
        exact distinct.of_rows numbered rfl rfl rfl (fun present => ⟨_, present⟩) rfl
      | some row =>
        rw [stored] at numbered
        exact distinct.of_rows numbered rfl rfl rfl (Table.exists_of_insert stored) rfl
    · simp only [QueueCall.perform, finish_of_not_holds holds]
      exact failed
  | resetExpired now =>
    refine distinct.of_rows numbered rfl rfl rfl (fun {id row} present => ?_) rfl
    rw [show ((QueueCall.resetExpired now).perform store).2 = (store.resetExpired now).2 from rfl,
      find?_resetExpired] at present
    obtain ⟨before, stored, -⟩ := Option.map_eq_some_iff.mp present
    exact ⟨before, stored⟩
  | requeueDue now maxAttempts => exact distinct.updateWhere numbered
  | cancelQueued campaign => exact distinct.updateWhere numbered
  | commit edits => exact distinct.edits edits

end Distinct

/-- What can happen to a store. A transaction that is given up, by a rollback or because it is
dropped, leaves nothing behind. -/
inductive Happening where
  | repoPut (repo : Repo)
  | campaignSpecAdded (spec : CampaignSpec)
  | changesetSpecAdded (spec : ChangesetSpec)
  | changesetPut (changeset : Changeset)
  /-- A call to the queue, or a transaction that is committed. -/
  | called (call : QueueCall)
  | givenUp (edits : List Edit)

namespace Happening

def after (store : Store) : Happening → Store
  | repoPut repo => store.putRepo repo
  | campaignSpecAdded spec => (store.addCampaignSpec spec).2
  | changesetSpecAdded spec => (store.addChangesetSpec spec).2
  | changesetPut changeset => store.edit (.upsertChangeset changeset)
  | called call => (call.perform store).2
  | givenUp _ => store

end Happening

/-- One store becomes another, or a transaction has the other one as its copy after some writes. -/
def Leads (store later : Store) : Prop :=
  ∃ happenings edits,
    later = List.foldl Store.edit (List.foldl Happening.after store happenings) edits

namespace Distinct

variable {store later : Store}

private theorem after (distinct : store.Distinct) (happening : Happening) :
    (happening.after store).Distinct ∧ store.Grows (happening.after store) := by
  cases happening with
  | repoPut repo => exact distinct.putRepo repo
  | campaignSpecAdded spec => exact distinct.addCampaignSpec spec
  | changesetSpecAdded spec => exact distinct.addChangesetSpec spec
  | changesetPut changeset => exact distinct.edit (.upsertChangeset changeset)
  | called call => exact distinct.perform call
  | givenUp edits => exact ⟨distinct, .refl store⟩

private theorem run (distinct : store.Distinct) (happenings : List Happening) :
    (happenings.foldl Happening.after store).Distinct ∧
      store.Grows (happenings.foldl Happening.after store) := by
  induction happenings generalizing store with
  | nil => exact ⟨distinct, .refl store⟩
  | cons happening rest ih =>
    obtain ⟨first, grows⟩ := distinct.after happening
    exact (ih first).imp_right grows.trans

theorem leads (distinct : store.Distinct) (leads : store.Leads later) :
    later.Distinct ∧ store.Grows later := by
  obtain ⟨happenings, edits, rfl⟩ := leads
  obtain ⟨ran, grows⟩ := distinct.run happenings
  exact (ran.edits edits).imp_right grows.trans

end Distinct

/-- A row of a kind is created under a number. -/
inductive Creates (store : Store) : Kind → Int → Store → Prop
  | campaignSpec (spec : CampaignSpec) : Creates store .campaignSpec
      (store.addCampaignSpec spec).1.id.value (store.addCampaignSpec spec).2
  | changesetSpec (spec : ChangesetSpec) : Creates store .changesetSpec
      (store.addChangesetSpec spec).1.id.value (store.addChangesetSpec spec).2
  | campaign {campaign stored : Campaign} {next : Store}
      (done : store.insertCampaign campaign = .ok (stored, next)) :
      Creates store .campaign stored.id.value next
  | changeset {changeset stored : Changeset} {next : Store} (unsaved : changeset.id = .unsaved)
      (done : store.upsertChangeset changeset = .ok (stored, next)) :
      Creates store .changeset stored.id.value next

variable {store next : Store}

private theorem Creates.number_eq {kind : Kind} {number : Int}
    (creates : store.Creates kind number next) :
    number = store.lastId + 1 ∧ next.Uses number kind := by
  cases creates with
  | campaignSpec spec => exact ⟨rfl, by simp [Uses, addCampaignSpec, Table.contains_insert]⟩
  | changesetSpec spec => exact ⟨rfl, by simp [Uses, addChangesetSpec, Table.contains_insert]⟩
  | campaign done =>
    simp only [insertCampaign] at done
    split_ifs at done
    cases done
    exact ⟨rfl, by simp [Uses, Table.contains_insert]⟩
  | changeset unsaved done =>
    rw [upsertChangeset, if_pos ((Id.isUnsaved_iff _).mpr unsaved)] at done
    cases done
    exact ⟨rfl, by simp [Uses, Table.contains_insert]⟩

private theorem Distinct.unused (distinct : store.Distinct) {number : Int}
    (new : store.lastId < number) (kind : Kind) : ¬ store.Uses number kind :=
  fun used => absurd (distinct.bounded used).2 (Int.not_le.mpr new)

/-- A changeset that is deleted was there, and its number is not in use any more. -/
theorem deleteChangeset_eq_ok {id : ChangesetId} (done : store.deleteChangeset id = .ok next) :
    store.Uses id.value .changeset ∧ ¬ next.Uses id.value .changeset ∧
      next.lastId = store.lastId := by
  simp only [deleteChangeset] at done
  split_ifs at done with present
  cases done
  exact ⟨present, by simp [Uses, Table.contains], rfl⟩

/-- Under a number without a row, a lease cannot be renewed, and its write-back changes no row. -/
theorem powerless {id : ChangesetId} (gone : ¬ store.Uses id.value .changeset) (lease : Lease)
    (here : lease.changesetId = id) :
    (∀ now length verdict renewed later,
      store.renew lease now length = .ok ((verdict, renewed), later) → verdict ≠ .applied) ∧
    ∀ outcome, (store.finish lease outcome).1 ≠ .applied ∧
      (store.finish lease outcome).2.changesets = store.changesets := by
  have missing : store.changesets.find? lease.changesetId = none := by
    rw [here]
    simpa [Uses, Table.contains] using gone
  constructor
  · rintro now length verdict renewed later done rfl
    obtain ⟨row, found⟩ := row_of_renew_applied done
    rw [missing] at found
    cases found
  · intro outcome
    by_cases holds : store.Holds lease
    · obtain ⟨record, found, same⟩ := holds
      rw [finish_of_record found same, missing]
      exact ⟨by simp, rfl⟩
    · rw [finish_of_not_holds holds]
      exact ⟨by simp, rfl⟩

/-- In every store that comes about, and in the copy of every transaction: each campaign, spec and
changeset is stored under its own number, which is at least one and at most the last number that was
given away, and which no other of them has; a lease is on record under the number of its changeset.
A row that is created gets a number that nothing has, so that it is written over nothing. And the
number of a changeset that is deleted never has a row again and is given to nothing else, so that a
lease on it that is left over writes to no changeset. -/
theorem numbers_not_reused (leads : (∅ : Store).Leads store) :
    ((∀ id spec, store.campaignSpecs.find? id = some spec → spec.id = id) ∧
      (∀ id spec, store.changesetSpecs.find? id = some spec → spec.id = id) ∧
      (∀ id campaign, store.campaigns.find? id = some campaign → campaign.id = id) ∧
      (∀ id row, store.changesets.find? id = some row → row.id = id) ∧
      ∀ id record, store.leases.find? id = some record → record.lease.changesetId = id) ∧
    (∀ number kind, store.Uses number kind → 1 ≤ number ∧ number ≤ store.lastId ∧
      ∀ other, store.Uses number other → other = kind) ∧
    (∀ kind number next, store.Creates kind number next →
      next.Uses number kind ∧ ∀ other, ¬ store.Uses number other) ∧
    ∀ id next, store.deleteChangeset id = .ok next → ∀ later, next.Leads later →
      later.changesets.find? id = none ∧
      (∀ kind number created, later.Creates kind number created → number ≠ id.value) ∧
      ∀ lease : Lease, lease.changesetId = id →
        (∀ now length verdict renewed after,
          later.renew lease now length = .ok ((verdict, renewed), after) → verdict ≠ .applied) ∧
        ∀ outcome, (later.finish lease outcome).1 ≠ .applied ∧
          (later.finish lease outcome).2.changesets = later.changesets := by
  obtain ⟨distinct, -⟩ := distinct_empty.leads leads
  refine ⟨⟨fun _ _ => distinct.campaignSpecs_id, fun _ _ found => (distinct.changesetSpecs found).1,
    fun _ _ => distinct.campaigns_id, fun _ _ found => (distinct.changesets found).1,
    fun _ _ found => (distinct.leases found).1⟩, fun number kind used => ?_,
    fun kind number next creates => ?_, fun id next deleted later leads => ?_⟩
  · obtain ⟨positive, given⟩ := distinct.bounded used
    exact ⟨positive, given, fun other also => distinct.single also used⟩
  · obtain ⟨new, used⟩ := creates.number_eq
    exact ⟨used, distinct.unused (by omega)⟩
  · obtain ⟨present, gone, last⟩ := deleteChangeset_eq_ok deleted
    have given : id.value ≤ next.lastId := last ▸ (distinct.bounded present).2
    obtain ⟨-, grows⟩ := (distinct.deleteChangeset deleted).1.leads leads
    have still := grows.not_uses gone given
    refine ⟨by simpa [Uses, Table.contains] using still, fun kind number created creates => ?_,
      powerless still⟩
    have new := creates.number_eq.1
    have := grows.lastId_le
    omega

namespace Leftover

/-- A changeset that no store has numbered yet. -/
def row : Changeset where
  id := .unsaved
  repoId := ⟨1⟩
  codeHost := .github
  createdAt := .epoch
  updatedAt := .epoch

/-- A changeset is claimed. A transaction that creates another one is given up. -/
def claimed : List Happening :=
  [.changesetPut row, .called (.claim "w" "token" .epoch (.ofSeconds 60)),
    .givenUp [.upsertChangeset row]]

def lease : Lease :=
  ⟨⟨1⟩, "w", "token", (Time.epoch.add? (.ofSeconds 60)).getD .epoch⟩

end Leftover

open Leftover in
/-- The changeset is deleted under its lease, and the next one gets another number. The late
write-back finds its lease and no row, and the next lease goes to the new changeset. -/
theorem numbers_not_reused_leftover : ∃ store next, (∅ : Store).Leads store ∧
    store.Holds lease ∧ store.deleteChangeset ⟨1⟩ = .ok next ∧
    ∃ later, next.Leads later ∧ later.changesets.ids = [⟨2⟩] ∧ later.Holds lease ∧
      later.changesets.find? ⟨1⟩ = none ∧
      (later.finish lease { row with publication := .published }).1 = .rowGone ∧
      (later.finish lease { row with publication := .published }).2.changesets =
        later.changesets := by
  let store : Store := claimed.foldl Happening.after ∅
  let next : Store := { store with changesets := store.changesets.erase ⟨1⟩ }
  let later : Store := ((QueueCall.commit [.upsertChangeset row]).perform next).2
  have leads : (∅ : Store).Leads store := ⟨claimed, [], rfl⟩
  have deleted : store.deleteChangeset ⟨1⟩ = .ok next := by decide +kernel
  have goes : next.Leads later := ⟨[.called (.commit [.upsertChangeset row])], [], rfl⟩
  obtain ⟨gone, -, leftover⟩ := (numbers_not_reused leads).2.2.2 ⟨1⟩ next deleted later goes
  exact ⟨store, next, leads, by decide +kernel, deleted, later, goes, by decide +kernel,
    by decide +kernel, gone, by decide +kernel, ((leftover lease rfl).2 _).2⟩

end Store

end BatchChanges
