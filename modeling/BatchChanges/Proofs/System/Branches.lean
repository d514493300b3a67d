import BatchChanges.Proofs.Campaign.Assignment
import BatchChanges.Proofs.System.Following
import Mathlib.Data.List.Infix

/-! # Branches of a campaign

A changeset that a campaign created is on a branch, which is that of its current spec and stays the
same when the changeset moves on. The spec of a branch finds the branch's changeset, unless a spec
that tracks the changeset's pull request has taken it before. Then the spec of the branch gets
another changeset, so that there are two on one branch. This is the only way for it.
-/

namespace BatchChanges

namespace Store

variable {store : Store} {campaign : CampaignId} {row : Changeset} {spec : ChangesetSpec}
  {push : BranchPush}

/-- The branch of a changeset: the campaign that created it, the repository and the name. -/
def branchOf? (store : Store) (row : Changeset) : Option (CampaignId × RepoId × String) :=
  row.ownerId.bind fun owner =>
    (store.headRefOf? row).map fun headRef => (owner, row.repoId, headRef)

private theorem branchOf?_eq_some {owner : CampaignId} {repo : RepoId} {headRef : String} :
    store.branchOf? row = some (owner, repo, headRef) ↔
      row.ownerId = some owner ∧ row.repoId = repo ∧ store.headRefOf? row = some headRef := by
  simp only [branchOf?, Option.bind_eq_some_iff, Option.map_eq_some_iff, Prod.mk.injEq]
  constructor
  · rintro ⟨_, owned, _, named, rfl, rfl, rfl⟩
    exact ⟨owned, rfl, named⟩
  · rintro ⟨owned, rfl, named⟩
    exact ⟨owner, owned, headRef, named, rfl, rfl, rfl⟩

/-- A branch push is about the changesets on its branch. -/
theorem isAbout_iff (pushes : spec.branchPush? = some push) :
    store.isAbout campaign spec row = true ↔
      store.branchOf? row = some (campaign, spec.repoId, push.headRef) := by
  rw [branchOf?_eq_some]
  simp only [isAbout, ChangesetSpec.target_of_branchPush? pushes, Changeset.isOwnedBy,
    Bool.and_eq_true, beq_iff_eq]
  exact ⟨fun about => ⟨about.2.1, about.1, about.2.2⟩, fun on => ⟨on.2.1, on.1, on.2.2⟩⟩

/-- The branch of a changeset whose current spec is known. -/
theorem headRefOf?_eq {row : Changeset} (current : row.currentSpecId = some spec.id)
    (known : store.changesetSpecs.find? spec.id = some spec)
    (pushes : spec.branchPush? = some push) : store.headRefOf? row = some push.headRef := by
  rw [headRefOf?, current, Option.bind_some, known, Option.bind_some, pushes, Option.map_some]

/-- The changeset that a branch push brings about is at it, and on its branch. -/
theorem branchOf?_ofSpec (pushes : spec.branchPush? = some push)
    (known : store.changesetSpecs.find? spec.id = some spec) (campaign : CampaignId) (now : Time)
    {repo : Repo} (here : repo.id = spec.repoId) (id : ChangesetId) :
    (Changeset.ofSpec campaign now repo spec).currentSpecId = some spec.id ∧
      store.branchOf? { Changeset.ofSpec campaign now repo spec with id } =
        some (campaign, spec.repoId, push.headRef) := by
  have target := ChangesetSpec.target_of_branchPush? pushes
  refine ⟨by simp only [Changeset.ofSpec, target], branchOf?_eq_some.mpr ⟨?_, ?_, ?_⟩⟩
  · simp only [Changeset.ofSpec, target]
  · simp only [Changeset.ofSpec, target]
    exact here
  · exact headRefOf?_eq (by simp only [Changeset.ofSpec, target]) known pushes

/-- No two changesets are on one branch. -/
def OnePerBranch (store : Store) : Prop :=
  ∀ id other row another branch, store.changesets.find? id = some row →
    store.changesets.find? other = some another → store.branchOf? row = some branch →
    store.branchOf? another = some branch → id = other

/-- No campaign spec pushes one branch of a repository twice. -/
def Apart (store : Store) : Prop :=
  ∀ id other spec another push pushToo, store.changesetSpecs.find? id = some spec →
    store.changesetSpecs.find? other = some another →
    spec.campaignSpecId = another.campaignSpecId → spec.repoId = another.repoId →
    spec.branchPush? = some push → another.branchPush? = some pushToo →
    push.headRef = pushToo.headRef → id = other

instance : Decidable store.OnePerBranch :=
  decidable_of_iff (∀ one ∈ store.changesets.entries, ∀ two ∈ store.changesets.entries,
      store.branchOf? one.2 ≠ none → store.branchOf? one.2 = store.branchOf? two.2 →
        one.1 = two.1) (by
    constructor
    · intro single id other row another branch found foundToo on onToo
      rw [Table.find?_eq_some_iff] at found foundToo
      exact single _ found _ foundToo (by simp [on]) (on.trans onToo.symm)
    · rintro single ⟨id, row⟩ one ⟨other, another⟩ two on same
      rw [← Table.find?_eq_some_iff] at one two
      obtain ⟨branch, here⟩ := Option.ne_none_iff_exists'.mp on
      exact single id other row another branch one two here (same.symm.trans here))

instance : Decidable store.Apart :=
  decidable_of_iff (∀ one ∈ store.changesetSpecs.entries, ∀ two ∈ store.changesetSpecs.entries,
      one.2.campaignSpecId = two.2.campaignSpecId → one.2.repoId = two.2.repoId →
      one.2.branchPush? ≠ none →
      one.2.branchPush?.map (·.headRef) = two.2.branchPush?.map (·.headRef) → one.1 = two.1) (by
    constructor
    · intro apart id other spec another push pushToo found foundToo generations here pushes
        pushesToo same
      rw [Table.find?_eq_some_iff] at found foundToo
      exact apart _ found _ foundToo generations here (by simp [pushes])
        (by simp [pushes, pushesToo, same])
    · rintro apart ⟨id, spec⟩ one ⟨other, another⟩ two generations here pushes same
      rw [← Table.find?_eq_some_iff] at one two
      obtain ⟨push, named⟩ := Option.ne_none_iff_exists'.mp pushes
      simp only [named, Option.map_some] at same
      obtain ⟨pushToo, namedToo, headRef⟩ := Option.map_eq_some_iff.mp same.symm
      exact apart id other spec another push pushToo one two generations here named namedToo
        headRef.symm)

end Store

namespace Generation

variable {generation : Generation} {store : Store} {id : ChangesetId} {row : Changeset}
  {spec another : ChangesetSpec} {push pushToo : BranchPush}

/-- A spec that tracks the pull request of a changeset takes it from the spec that pushes its
branch. -/
def Displaces (generation : Generation) (store : Store) : Prop :=
  ∃ tracking row spec push,
    (tracking, some row) ∈ store.pairs generation.spec generation.campaign ∧
    tracking.branchPush? = none ∧
    (spec, none) ∈ store.pairs generation.spec generation.campaign ∧
    spec.branchPush? = some push ∧
    store.branchOf? row = some (generation.campaign, spec.repoId, push.headRef)

/-- Each changeset on the branch of a spec moves on to the spec. -/
def Keeps (generation : Generation) (store next : Store) : Prop :=
  ∀ spec push id row, spec ∈ store.specsOf generation.spec → spec.branchPush? = some push →
    store.changesets.find? id = some row →
    store.branchOf? row = some (generation.campaign, spec.repoId, push.headRef) →
    ∃ after, next.changesets.find? id = some after ∧ after.currentSpecId = some spec.id

/-- Specs of one generation that push one branch are the same. -/
theorem eq_of_apart {first second : Option Changeset} (apart : store.Apart)
    (numbered : store.Numbered)
    (one : (spec, first) ∈ store.pairs generation.spec generation.campaign)
    (two : (another, second) ∈ store.pairs generation.spec generation.campaign)
    (here : spec.repoId = another.repoId) (pushes : spec.branchPush? = some push)
    (pushesToo : another.branchPush? = some pushToo) (same : push.headRef = pushToo.headRef) :
    spec = another := by
  have known := numbered.find?_of_paired one
  have knownToo := numbered.find?_of_paired two
  have generations : spec.campaignSpecId = another.campaignSpecId :=
    (campaignSpecId_of_paired one).trans (campaignSpecId_of_paired two).symm
  have ids := apart _ _ _ _ _ _ known knownToo generations here pushes pushesToo same
  rw [ids, knownToo] at known
  exact (Option.some.inj known).symm

/-- If nothing is displaced, there is no changeset yet on the branch of a spec that is paired with
none. -/
theorem branchOf?_ne_of_unpaired (kept : ¬ generation.Displaces store) (apart : store.Apart)
    (numbered : store.Numbered)
    (unpaired : (spec, none) ∈ store.pairs generation.spec generation.campaign)
    (pushes : spec.branchPush? = some push) (found : store.changesets.find? id = some row) :
    store.branchOf? row ≠ some (generation.campaign, spec.repoId, push.headRef) := by
  intro on
  obtain taken | ⟨other, chosen, paired, same⟩ := Store.taken_of_unpaired
    (Table.mem_rows_iff.mpr ⟨id, found⟩) ((Store.isAbout_iff pushes).mpr on) unpaired
  · cases taken
  · obtain ⟨member, about⟩ := (Store.mem_pairings paired).2 chosen rfl
    have stored := numbered.find?_of_mem member
    rw [same, (numbered.changesets found).1, found] at stored
    cases stored
    cases pushesToo : other.branchPush? with
    | none => exact kept ⟨other, row, spec, push, paired, pushesToo, unpaired, pushes, on⟩
    | some pushToo =>
      have onToo := (Store.isAbout_iff pushesToo).mp about
      rw [on] at onToo
      simp only [Option.some.injEq, Prod.mk.injEq, true_and] at onToo
      obtain rfl := eq_of_apart apart numbered unpaired paired onToo.1 pushes pushesToo onToo.2
      cases numbered.partner_unique unpaired paired

end Generation

namespace System

variable {system : System} {event : Event} {events : List Event} {generation : Generation}
  {id : ChangesetId} {row after : Changeset} {spec : ChangesetSpec} {push : BranchPush}
  {branch : CampaignId × RepoId × String} {details : String → Prop}

/-- Pairs are realized. -/
theorem Brings.realizes (brings : system.Brings event generation) (sound : system.Sound) :
    generation.Realizes system.store (system.step event).store := by
  obtain ⟨_, _, _, _, _, _, _, done, reached, rfl⟩ := brings.transacts
  rw [reached]
  exact Application.realizes_of_transact sound.numbered done

/-- Changesets stay on their branches. -/
theorem branchOf?_step (sound : system.Sound) (grounded : system.Grounded details)
    (event : Event) (found : system.store.changesets.find? id = some row)
    (stored : (system.step event).store.changesets.find? id = some after) :
    (system.step event).store.branchOf? after = system.store.branchOf? row := by
  have happens := System.transition sound.numbered event
  have change := happens.change sound id
  rw [found, stored] at change
  have repo : after.repoId = row.repoId := congrArg (·.2.1) change.identity
  have owner : after.ownerId = row.ownerId := congrArg (·.2.2.2.1) change.identity
  by_cases moved : after.currentSpecId = row.currentSpecId
  · have headRef : (system.step event).store.headRefOf? after = system.store.headRefOf? row := by
      rw [Store.headRefOf?, Store.headRefOf?, moved]
      cases current : row.currentSpecId with
      | none => rfl
      | some spec =>
        obtain ⟨known, push, here, -⟩ := (grounded.row found).current current
        rw [Option.bind_some, Option.bind_some, here,
          happens.find?_changesetSpecs sound.numbered here]
    rw [Store.branchOf?, Store.branchOf?, owner, repo, headRef]
  · obtain ⟨spec, push, moves, pushes, current⟩ := sound.movesOn found stored moved
    obtain ⟨number, visible, applying, generation, -, -, -, paired, -⟩ := moves.transacts
    have on := (Store.isAbout_iff pushes).mp ((Store.mem_pairings paired).2 row rfl).2
    have known := happens.find?_changesetSpecs sound.numbered (moves.known sound)
    rw [on, Store.branchOf?_eq_some, owner, repo, Store.headRefOf?_eq current known pushes]
    obtain ⟨owned, here, -⟩ := Store.branchOf?_eq_some.mp on
    exact ⟨owned, here, rfl⟩

/-- A new changeset is on the branch of a spec that was paired with none. -/
theorem Brings.new_branch (brings : system.Brings event generation) (sound : system.Sound)
    (grounded : system.Grounded details) (absent : system.store.changesets.find? id = none)
    (found : (system.step event).store.changesets.find? id = some row)
    (on : (system.step event).store.branchOf? row = some branch) :
    ∃ spec push, (spec, none) ∈ system.store.pairs generation.spec generation.campaign ∧
      spec.branchPush? = some push ∧ row.currentSpecId = some spec.id ∧
      branch = (generation.campaign, spec.repoId, push.headRef) := by
  have happens := System.transition sound.numbered event
  have fate := (brings.transacted sound).row id
  rw [absent, found] at fate
  cases fate with
  | @created spec repo paired located fresh =>
    have known := happens.find?_changesetSpecs sound.numbered (sound.numbered.find?_of_paired paired)
    cases pushes : spec.branchPush? with
    | none =>
      obtain ⟨owner, repoId, headRef⟩ := branch
      have owned := (Store.branchOf?_eq_some.mp on).1
      simp only [ChangesetSpec.branchPush?] at pushes
      simp only [Changeset.ofSpec] at owned
      split at pushes
      · cases pushes
      · next target =>
        rw [target] at owned
        cases owned
    | some push =>
      obtain ⟨current, here⟩ := Store.branchOf?_ofSpec pushes known generation.campaign
        generation.now (grounded.repo located) id
      rw [here] at on
      exact ⟨spec, push, paired, pushes, current, (Option.some.inj on).symm⟩

/-- An event that brings nothing about brings no changeset about either. -/
theorem brings_of_new (sound : system.Sound) (absent : system.store.changesets.find? id = none)
    (found : (system.step event).store.changesets.find? id = some row) :
    ∃ generation, system.Brings event generation := by
  obtain ⟨generation, brings, -⟩ | keeps := brings_or_keeps sound event
  · exact ⟨generation, brings⟩
  · obtain ⟨before, stored, -⟩ := keeps id row found
    rw [absent] at stored
    cases stored

/-- If nothing is displaced, an event puts no second changeset on a branch. -/
theorem onePerBranch_step (sound : system.Sound) (grounded : system.Grounded details)
    (apart : system.store.Apart) (single : system.store.OnePerBranch)
    (kept : ∀ generation, system.Brings event generation → ¬ generation.Displaces system.store) :
    (system.step event).store.OnePerBranch := by
  -- A new changeset is on no branch that has one.
  have free : ∀ {id other row another branch}, system.store.changesets.find? id = none →
      (system.step event).store.changesets.find? id = some row →
      (system.step event).store.branchOf? row = some branch →
      system.store.changesets.find? other = some another →
      system.store.branchOf? another ≠ some branch := by
    intro id other row another branch absent found on known
    obtain ⟨generation, brings⟩ := brings_of_new sound absent found
    obtain ⟨spec, push, unpaired, pushes, -, rfl⟩ :=
      brings.new_branch sound grounded absent found on
    exact Generation.branchOf?_ne_of_unpaired (kept generation brings) apart sound.numbered unpaired
      pushes known
  intro id other row another branch found foundToo on onToo
  cases before : system.store.changesets.find? id with
  | some earlier =>
    rw [branchOf?_step sound grounded event before found] at on
    cases beforeToo : system.store.changesets.find? other with
    | some earlierToo =>
      rw [branchOf?_step sound grounded event beforeToo foundToo] at onToo
      exact single id other earlier earlierToo branch before beforeToo on onToo
    | none => exact absurd on (free beforeToo foundToo onToo before)
  | none =>
    cases beforeToo : system.store.changesets.find? other with
    | some earlierToo =>
      rw [branchOf?_step sound grounded event beforeToo foundToo] at onToo
      exact absurd onToo (free before found on beforeToo)
    | none =>
      obtain ⟨generation, brings⟩ := brings_of_new sound before found
      obtain ⟨spec, push, paired, pushes, current, rfl⟩ :=
        brings.new_branch sound grounded before found on
      obtain ⟨specToo, pushToo, pairedToo, pushesToo, currentToo, same⟩ :=
        brings.new_branch sound grounded beforeToo foundToo onToo
      simp only [Prod.mk.injEq, true_and] at same
      obtain rfl := Generation.eq_of_apart apart sound.numbered paired pairedToo same.1 pushes
        pushesToo same.2
      exact (brings.realizes sound).single before beforeToo found foundToo current currentToo

/-- A generation that displaces a changeset brings about a second one on its branch. -/
theorem Brings.not_onePerBranch (brings : system.Brings event generation) (sound : system.Sound)
    (grounded : system.Grounded details) (displaces : generation.Displaces system.store) :
    ¬ (system.step event).store.OnePerBranch := by
  intro single
  have happens := System.transition sound.numbered event
  obtain ⟨tracking, row, spec, push, paired, tracks, unpaired, pushes, on⟩ := displaces
  have realizes := brings.realizes sound
  obtain ⟨repo, id, located, fresh, found⟩ := realizes.created unpaired
  have known := happens.find?_changesetSpecs sound.numbered
    (sound.numbered.find?_of_paired unpaired)
  obtain ⟨-, here⟩ := Store.branchOf?_ofSpec pushes known generation.campaign generation.now
    (grounded.repo located) id
  have stored := sound.numbered.find?_of_mem ((Store.mem_pairings paired).2 row rfl).1
  have followed := realizes.followed paired
  have same := single row.id id _ _ _ followed found
    ((branchOf?_step sound grounded event stored followed).trans on) here
  rw [same, sound.numbered.find?_of_lt fresh] at stored
  cases stored

/-- If nothing is displaced, the only changeset on a branch moves on to the spec that pushes the
branch. -/
theorem Brings.keeps (brings : system.Brings event generation) (sound : system.Sound)
    (apart : system.store.Apart) (single : system.store.OnePerBranch)
    (kept : ¬ generation.Displaces system.store) :
    generation.Keeps system.store (system.step event).store := by
  intro spec push id row member pushes found on
  rw [← system.store.map_fst_pairings generation.campaign ∅ (system.store.specsOf generation.spec)]
    at member
  obtain ⟨⟨_, partner⟩, paired, rfl⟩ := List.mem_map.mp member
  cases partner with
  | none =>
    exact absurd on
      (Generation.branchOf?_ne_of_unpaired kept apart sound.numbered paired pushes found)
  | some chosen =>
    obtain ⟨present, about⟩ := (Store.mem_pairings paired).2 chosen rfl
    have stored := sound.numbered.find?_of_mem present
    obtain rfl := single chosen.id id chosen row _ stored found ((Store.isAbout_iff pushes).mp about)
      on
    have followed := (brings.realizes sound).followed paired
    refine ⟨_, followed, ?_⟩
    rw [chosen.following_eq generation.campaign generation.now pushes]
    rfl

/-- An event brings no generation about that displaces a changeset. -/
def Undisplaced (system : System) (event : Event) : Prop :=
  ∀ generation, system.Brings event generation → ¬ generation.Displaces system.store

/-- Specs that are apart have been so from the beginning. -/
theorem apart_of_run (sound : system.Sound) (events : List Event)
    (apart : (system.run events).store.Apart) : system.store.Apart := by
  intro id other spec another push pushToo found foundToo
  exact apart id other spec another push pushToo (sound.find?_changesetSpecs events found)
    (sound.find?_changesetSpecs events foundToo)

/-- A branch never has two changesets if and only if it has none at the beginning and nothing is
ever displaced. -/
theorem onePerBranch_run_iff (sound : system.Sound) (grounded : system.Grounded fun _ => True)
    (apart : (system.run events).store.Apart) :
    (∀ front rest, events = front ++ rest → (system.run front).store.OnePerBranch) ↔
      system.store.OnePerBranch ∧ system.Along Undisplaced events := by
  induction events generalizing system with
  | nil =>
    constructor
    · exact fun single => ⟨single [] [] rfl, trivial⟩
    · rintro ⟨single, -⟩ front rest split
      obtain ⟨rfl, -⟩ := List.append_eq_nil_iff.mp split.symm
      exact single
  | cons event later ih =>
    have lasts : system.Lasts (fun _ => True) event := fun _ _ _ _ _ => .inr fun _ => trivial
    have next := ih (sound.step event) (grounded.step sound lasts) apart
    constructor
    · intro single
      have here := single [] (event :: later) rfl
      obtain ⟨after, along⟩ := next.mp fun front rest split =>
        single (event :: front) rest (congrArg (event :: ·) split)
      exact ⟨here, fun generation brings displaces =>
        brings.not_onePerBranch sound grounded displaces after, along⟩
    · rintro ⟨single, kept, along⟩ front rest split
      cases front with
      | nil => exact single
      | cons first others =>
        obtain ⟨rfl, tail⟩ := List.cons.inj split
        have step := onePerBranch_step sound grounded (apart_of_run sound _ apart) single kept
        exact next.mpr ⟨step, along⟩ others rest tail

/-- In every run from the empty store in which no campaign spec pushes one branch of a repository
twice: no state has two changesets on one branch if and only if no generation of the run displaces a
changeset, that is, pairs it with a spec that tracks its pull request while the spec that pushes its
branch gets none. Then every generation also moves the changeset of a branch that it pushes on,
under the number that the changeset has. -/
theorem one_changeset_per_branch_iff (faults : List Fault) (now : Time) (events : List Event)
    (apart : ((start faults now).run events).store.Apart) :
    ((∀ front rest, events = front ++ rest →
        ((start faults now).run front).store.OnePerBranch) ↔
      (start faults now).Along Undisplaced events) ∧
    ((start faults now).Along Undisplaced events →
      ∀ front event rest generation, events = front ++ event :: rest →
        ((start faults now).run front).Brings event generation →
        generation.Keeps ((start faults now).run front).store
          (((start faults now).run front).step event).store) := by
  have sound := sound_start faults now
  have grounded : (start faults now).Grounded fun _ => True := grounded_start (fun _ _ => trivial) now
  have single : (start faults now).store.OnePerBranch := fun id other row another branch found => by
    cases found
  have always := onePerBranch_run_iff sound grounded apart
  refine ⟨always.trans ⟨And.right, fun along => ⟨single, along⟩⟩, ?_⟩
  rintro along front event rest generation rfl brings
  have soundFront := sound.run front
  rw [run_append] at apart
  have kept := (along_append.mp along).2.1 generation brings
  exact brings.keeps soundFront (apart_of_run soundFront _ apart)
    (always.mpr ⟨single, along⟩ front _ rfl) kept

end System

namespace Sample

/-- The second generation is about to move the changeset of the first one on. -/
def renewing : List Event := setUp ++ attempt 0 5 ++ [.conclude 0 {}] ++ (apply "b").take 4

/-- The second generation tracks the pull request that the first one has opened, and pushes the
branch that it comes from. -/
def displacing : List Event :=
  [.putRepo repo, .addCampaignSpec (campaignSpec "a"), .addChangesetSpec (spec 1 "a" "a"),
    .addCampaignSpec (campaignSpec "b"),
    .addChangesetSpec { spec 3 "b" "b" with target := .trackExisting "101" },
    .addChangesetSpec (spec 3 "b" "b")] ++ apply "a" ++ attempt 0 5 ++ [.conclude 0 {}] ++ apply "b"

end Sample

open Sample in
/-- The changeset of the branch is always the only one, and moves on to the second generation. -/
theorem System.one_changeset_per_branch_iff_renewing :
    (start [] (instant 0)).Along Undisplaced (renewing ++ [.proceed 0 visible]) ∧
    ∃ generation, ((start [] (instant 0)).run renewing).Brings (.proceed 0 visible) generation ∧
      generation.Keeps ((start [] (instant 0)).run renewing).store
        (((start [] (instant 0)).run renewing).step (.proceed 0 visible)).store := by
  obtain ⟨single, keeps⟩ := one_changeset_per_branch_iff [] (instant 0)
    (renewing ++ [.proceed 0 visible]) (by decide +kernel)
  have always : ∀ front ∈ (renewing ++ [Event.proceed 0 visible]).inits,
      ((start [] (instant 0)).run front).store.OnePerBranch := by decide +kernel
  have undisplaced := single.mp fun front rest split =>
    always front ((List.mem_inits front _).mpr ⟨rest, split.symm⟩)
  have sound := (sound_start [] (instant 0)).run renewing
  have moves : (((start [] (instant 0)).run renewing).store.changesets.find? changeset).map
        (·.currentSpecId) = some (some ⟨2⟩) ∧
      ((((start [] (instant 0)).run renewing).step (.proceed 0 visible)).store.changesets.find?
        changeset).map (·.currentSpecId) = some (some ⟨4⟩) := by decide +kernel
  obtain ⟨generation, brings, -⟩ | stays := brings_or_keeps sound (.proceed 0 visible)
  · exact ⟨undisplaced, generation, brings, keeps undisplaced renewing _ [] generation rfl brings⟩
  · obtain ⟨row, found, current⟩ := Option.map_eq_some_iff.mp moves.2
    obtain ⟨before, stored, -, same⟩ := stays changeset row found
    rw [stored, Option.map_some, same, current] at moves
    cases moves.1

open Sample in
/-- The spec that tracks the pull request takes the changeset, and the branch gets a second one. -/
theorem System.branch_has_two_changesets :
    ((start [] (instant 0)).run displacing).store.Apart ∧
      ¬ ((start [] (instant 0)).run displacing).store.OnePerBranch := by
  decide +kernel

end BatchChanges
