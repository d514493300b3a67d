import BatchChanges.Proofs.System.Unseen

/-! # What an actor cannot see makes no difference

An application reads repositories at one point only, and of those it reads it keeps the ones that
the actor can see. So two stores that differ in repositories which the actor cannot see lead to the
same result, and go on to differ in these only. The application is run on both side by side: each of
its calls mirrors itself, and a transaction that is undone goes back to two stores that mirror each
other.
-/

namespace BatchChanges

def Store.withRepos (store : Store) (repos : Table .repo Repo) : Store := { store with repos }

/-- The backend of that store. -/
def Backend.withRepos (backend : Backend) (repos : Table .repo Repo) : Backend :=
  { backend with store := backend.store.withRepos repos }

/-- Repositories are the same but for some that the actor cannot see in any version. -/
def Visibility.Hides (visible : Visibility) (actor : Actor) (repos others : Table .repo Repo) :
    Prop :=
  ∀ id, repos.find? id ≠ others.find? id → ∀ repo,
    repos.find? id = some repo ∨ others.find? id = some repo → visible actor repo = false

namespace Visibility

variable {visible : Visibility} {actor : Actor} {repos others : Table .repo Repo} {id : RepoId}

/-- A repository that the actor cannot see is missing. -/
theorem hides_erase (hidden : ∀ repo, repos.find? id = some repo → visible actor repo = false) :
    visible.Hides actor repos (repos.erase id) := by
  intro other differs repo present
  rw [Table.find?_erase] at differs present
  split at differs
  · next here =>
    rw [if_pos here] at present
    exact hidden repo (here ▸ present.resolve_right (by simp))
  · exact absurd rfl differs

/-- Or it is stored otherwise, so that the actor cannot see it either. -/
theorem hides_insert {version : Repo}
    (hidden : ∀ repo, repos.find? id = some repo → visible actor repo = false)
    (still : visible actor version = false) :
    visible.Hides actor repos (repos.insert id version) := by
  intro other differs repo present
  rw [Table.find?_insert] at differs present
  split at differs
  · next here =>
    rw [if_pos here, Option.some.injEq] at present
    rcases present with before | rfl
    · exact hidden repo (here ▸ before)
    · exact still
  · exact absurd rfl differs

private theorem Hides.filter_eq (hides : visible.Hides actor repos others) :
    repos.filter (fun _ repo => visible actor repo) =
      others.filter fun _ repo => visible actor repo := by
  refine Table.ext_find? fun id => ?_
  rw [Table.find?_filter, Table.find?_filter]
  by_cases same : repos.find? id = others.find? id
  · rw [same]
  · have unseen : ∀ {found : Option Repo},
        (∀ repo, found = some repo → visible actor repo = false) →
        found.filter (visible actor) = none := by
      intro found hidden
      rw [Option.filter_eq_none_iff]
      exact fun repo named seen => Bool.false_ne_true ((hidden repo named).symm.trans seen)
    have left := unseen fun repo named => hides id same repo (.inl named)
    have right := unseen fun repo named => hides id same repo (.inr named)
    exact left.trans right.symm

end Visibility

namespace Access

variable {ε δ α β γ η : Type} {repos others : Table .repo Repo} {related : α → β → Prop}
  {following : γ → η → Prop}

/-- Two activities succeed with values that are related, or fail alike. -/
def Alike (related : α → β → Prop) : Except ε α → Except ε β → Prop
  | .ok value, .ok other => related value other
  | .error error, .error other => error = other
  | _, _ => False

private theorem alike_eq {result answer : Except ε α} (alike : Alike Eq result answer) :
    answer = result := by
  cases result <;> cases answer <;> cases alike <;> rfl

/-- One activity does on the store with other repositories what another one does on the store, and
none of them touches repositories. -/
def Mirrors (repos others : Table .repo Repo) (related : α → β → Prop) (first : Access ε α)
    (second : Access ε β) : Prop :=
  ∀ ⦃backend result next⦄, Ends first backend result next → backend.store.repos = repos →
    next.store.repos = repos ∧ ∃ answer, Alike related result answer ∧
      Ends second (backend.withRepos others) answer (next.withRepos others)

private theorem mirrors_pure {given : α} {other : β} (same : related given other) :
    Mirrors repos others related (pure given : Access ε α) (pure other) := by
  intro backend result next ended here
  cases ended
  exact ⟨here, .ok other, same, rfl⟩

private theorem mirrors_throw (error : ε) :
    Mirrors repos others related (throw error : Access ε α) (throw error) := by
  intro backend result next ended here
  obtain ⟨rfl, rfl⟩ := ends_throw.mp ended
  exact ⟨here, .error error, rfl, rfl⟩

private theorem mirrors_mk_pure (computed : Except ε α) :
    Mirrors repos others Eq (ExceptT.mk (pure computed)) (ExceptT.mk (pure computed)) := by
  intro backend result next ended here
  cases ended
  refine ⟨here, computed, ?_, rfl⟩
  cases computed <;> rfl

private theorem mirrors_bind {first : Access ε α} {second : Access ε β} {rest : α → Access ε γ}
    {mirrored : β → Access ε η} (before : Mirrors repos others related first second)
    (after : ∀ value other, related value other →
      Mirrors repos others following (rest value) (mirrored other)) :
    Mirrors repos others following (first >>= rest) (second >>= mirrored) := by
  intro backend result next ended here
  rcases ends_bind.mp ended with ⟨value, middle, done, goes⟩ | ⟨error, rfl, failed⟩
  · obtain ⟨there, answer, alike, ends⟩ := before done here
    cases answer with
    | error error => cases alike
    | ok other =>
      obtain ⟨last, answer, same, finishes⟩ := after value other alike goes there
      exact ⟨last, answer, same, ends_bind.mpr (.inl ⟨other, _, ends, finishes⟩)⟩
  · obtain ⟨there, answer, alike, ends⟩ := before failed here
    cases answer with
    | ok other => cases alike
    | error other =>
      cases alike
      exact ⟨there, .error error, rfl, ends_bind.mpr (.inr ⟨error, rfl, ends⟩)⟩

private theorem mirrors_wrapping {wrap : δ → ε} {first : Access δ α} {second : Access δ β}
    (mirrors : Mirrors repos others related first second) :
    Mirrors repos others related (wrapping wrap first) (wrapping wrap second) := by
  intro backend result next ended here
  cases result with
  | ok value =>
    obtain ⟨there, answer, alike, ends⟩ := mirrors (ends_wrapping_ok.mp ended) here
    cases answer with
    | error error => cases alike
    | ok other => exact ⟨there, .ok other, alike, ends_wrapping_ok.mpr ends⟩
  | error error =>
    obtain ⟨cause, rfl, failed⟩ := ends_wrapping_error.mp ended
    obtain ⟨there, answer, alike, ends⟩ := mirrors failed here
    cases answer with
    | ok other => cases alike
    | error other =>
      cases alike
      exact ⟨there, .error (wrap cause), rfl, ends_wrapping_error.mpr ⟨cause, rfl, ends⟩⟩

private theorem mirrors_attempt {first : Access δ α} {second : Access δ β}
    (mirrors : Mirrors repos others related first second) :
    Mirrors repos others (Alike related) (attempt first : Access ε (Except δ α))
      (attempt second) := by
  intro backend result next ended here
  obtain ⟨outcome, rfl, done⟩ := ends_attempt.mp ended
  obtain ⟨there, answer, alike, ends⟩ := mirrors done here
  exact ⟨there, .ok answer, alike, ends_attempt.mpr ⟨answer, rfl, ends⟩⟩

/-- A call is mirrored if the store answers it alike, be its failure ahead or not. -/
theorem mirrors_call {name : StoreCall} {run : Store → Except StoreError (α × Store)}
    {other : Store → Except StoreError (β × Store)}
    (alike : ∀ store : Store, store.repos = repos → Alike
      (fun done mirrored => related done.1 mirrored.1 ∧ done.2.repos = repos ∧
        mirrored.2 = done.2.withRepos others) (run store) (other (store.withRepos others))) :
    Mirrors repos others related (call name run) (call name other) := by
  intro backend result next ended here
  have same := alike backend.store here
  simp only [Ends, call, callWith, Backend.withRepos] at ended ⊢
  split at ended
  · next detail faults strikes =>
    cases ended
    exact ⟨here, .error _, rfl, rfl⟩
  · next faults passes =>
    cases ran : run backend.store with
    | error error =>
      rw [ran] at same ended
      cases ended
      cases mirrored : other (backend.store.withRepos others) with
      | ok done => rw [mirrored] at same; cases same
      | error cause =>
        rw [mirrored] at same
        cases same
        exact ⟨here, .error error, rfl, rfl⟩
    | ok done =>
      rw [ran] at same ended
      cases ended
      cases mirrored : other (backend.store.withRepos others) with
      | error cause => rw [mirrored] at same; cases same
      | ok twin =>
        rw [mirrored] at same
        obtain ⟨answer, last⟩ := twin
        obtain ⟨value, stays, rfl⟩ := same
        exact ⟨stays, .ok answer, value, rfl⟩

/-- A call that reads something else than repositories. -/
theorem mirrors_read {name : StoreCall} {read : Store → α}
    (same : ∀ store : Store, read (store.withRepos others) = read store) :
    Mirrors repos others Eq (call name fun store => .ok (read store, store))
      (call name fun store => .ok (read store, store)) :=
  mirrors_call fun store here => ⟨(same store).symm, here, rfl⟩

/-- Of the repositories that are read, the actor sees the same ones. -/
theorem mirrors_readRepos {visible : Visibility} {actor : Actor}
    (hides : visible.Hides actor repos others) :
    Mirrors repos others (fun located others => located.filter (fun _ repo => visible actor repo) =
      others.filter fun _ repo => visible actor repo) readRepos readRepos := by
  refine mirrors_call fun store here => ⟨?_, here, rfl⟩
  rw [here]
  exact hides.filter_eq

private theorem mirrors_cancelQueued (campaign : CampaignId) :
    Mirrors repos others Eq (cancelQueued campaign) (cancelQueued campaign) :=
  mirrors_call fun _ here => ⟨rfl, here, rfl⟩

private theorem mirrors_createCampaign (campaign : Campaign) :
    Mirrors repos others Eq (createCampaign campaign) (createCampaign campaign) := by
  refine mirrors_call fun store here => ?_
  simp only [Store.insertCampaign, show (store.withRepos others).isDuplicate campaign =
    store.isDuplicate campaign from rfl]
  split
  · rfl
  · exact ⟨rfl, here, rfl⟩

private theorem mirrors_updateCampaign (campaign : Campaign) :
    Mirrors repos others Eq (updateCampaign campaign) (updateCampaign campaign) := by
  refine mirrors_call fun store here => ?_
  simp only [Store.replaceCampaign, show (store.withRepos others).campaigns = store.campaigns
    from rfl]
  split
  · exact ⟨trivial, here, rfl⟩
  · rfl

private theorem mirrors_readMapping (campaignSpec : CampaignSpecId) (campaign : CampaignId) :
    Mirrors repos others Eq (readMapping campaignSpec campaign)
      (readMapping campaignSpec campaign) := by
  refine mirrors_read fun store => ?_
  have pairs := @Store.pairings_congr store (store.withRepos others) rfl rfl
  simp only [Store.mappingRows, pairs]
  rfl

private theorem mirrors_upsertChangeset (changeset : Changeset) :
    Mirrors repos others Eq (upsertChangeset changeset) (upsertChangeset changeset) := by
  refine mirrors_call fun store here => ?_
  simp only [Store.upsertChangeset, show (store.withRepos others).changesets = store.changesets
    from rfl]
  split
  · exact ⟨rfl, here, rfl⟩
  · split
    · exact ⟨rfl, here, rfl⟩
    · rfl

private theorem mirrors_deleteChangeset (id : ChangesetId) :
    Mirrors repos others Eq (deleteChangeset id) (deleteChangeset id) := by
  refine mirrors_call fun store here => ?_
  simp only [Store.deleteChangeset, show (store.withRepos others).changesets = store.changesets
    from rfl]
  split
  · exact ⟨trivial, here, rfl⟩
  · rfl

/-- What a transaction remembers on either side. -/
def Remembers (repos others : Table .repo Repo) (before mirrored : Store) : Prop :=
  before.repos = repos ∧ mirrored = before.withRepos others

private theorem mirrors_begin : Mirrors repos others (Remembers repos others) begin begin :=
  mirrors_call fun _ here => ⟨⟨here, rfl⟩, here, rfl⟩

variable {before mirrored : Store}

/-- Ending a transaction, and failing to, is mirrored if what it remembers is. -/
theorem mirrors_commit (remembers : Remembers repos others before mirrored) :
    Mirrors repos others Eq (commit before) (commit mirrored) := by
  obtain ⟨begun, rfl⟩ := remembers
  intro backend result next ended here
  have reads : Mirrors repos others Eq (call .commit fun store => .ok ((), store)) _ :=
    mirrors_read fun _ => rfl
  rcases ran : (call .commit (fun store => .ok ((), store)) backend :
    Except StoreError Unit × Backend) with ⟨outcome, middle⟩
  obtain ⟨there, answer, alike, ends⟩ := reads ran here
  simp only [Ends, commit] at ended ends ⊢
  rw [ran] at ended
  rw [ends]
  cases outcome with
  | ok done =>
    cases ended
    cases answer with
    | ok mirrored => exact ⟨there, .ok (), rfl, rfl⟩
    | error error => cases alike
  | error error =>
    cases ended
    cases answer with
    | ok mirrored => cases alike
    | error other =>
      cases alike
      exact ⟨begun, .error error, rfl, rfl⟩

private theorem mirrors_rollback (remembers : Remembers repos others before mirrored) :
    Mirrors repos others Eq (rollback before) (rollback mirrored) := by
  obtain ⟨begun, rfl⟩ := remembers
  intro backend result next ended here
  have reads : Mirrors repos others Eq (call .rollback fun store => .ok ((), store)) _ :=
    mirrors_read fun _ => rfl
  rcases ran : (call .rollback (fun store => .ok ((), store)) backend :
    Except StoreError Unit × Backend) with ⟨outcome, middle⟩
  obtain ⟨there, answer, alike, ends⟩ := reads ran here
  simp only [Ends, rollback] at ended ends ⊢
  rw [ran] at ended
  rw [ends]
  cases ended
  exact ⟨begun, answer, alike, rfl⟩

end Access

namespace Application

open Access

variable {visible : Visibility} {repos others : Table .repo Repo}

private theorem mirrors_delete (ids : List ChangesetId) :
    Mirrors repos others Eq (delete ids) (delete ids) := by
  induction ids with
  | nil => exact mirrors_pure rfl
  | cons id rest ih => exact mirrors_bind (mirrors_deleteChangeset id) fun _ _ _ => ih

private theorem mirrors_write (campaign : Campaign) (changesets : List Changeset) :
    Mirrors repos others Eq (write campaign changesets) (write campaign changesets) := by
  induction changesets generalizing campaign with
  | nil => exact mirrors_pure rfl
  | cons changeset rest ih =>
    refine mirrors_bind (mirrors_upsertChangeset changeset) ?_
    rintro stored _ rfl
    split
    · exact ih _
    · exact ih _

private theorem mirrors_hydrate {actor : Actor} (hides : visible.Hides actor repos others)
    (rows : List MappingRow) :
    Mirrors repos others Eq (Mapping.hydrate visible actor rows)
      (Mapping.hydrate visible actor rows) := by
  refine mirrors_bind (mirrors_wrapping (mirrors_read fun _ => rfl)) ?_
  rintro changesets _ rfl
  refine mirrors_bind (mirrors_wrapping (mirrors_read fun _ => rfl)) ?_
  rintro specs _ rfl
  refine mirrors_bind (mirrors_wrapping (mirrors_readRepos hides)) fun located others seen => ?_
  rw [seen]
  exact mirrors_mk_pure _

private theorem mirrors_rewire (application : Application)
    (hides : visible.Hides application.actor repos others) (spec : CampaignSpec)
    (campaign : Campaign) (now : Time) :
    Mirrors repos others Eq (application.rewire visible spec campaign now)
      (application.rewire visible spec campaign now) := by
  let creating : Access CampaignError Campaign :=
    if campaign.id.isUnsaved then wrapping .store (createCampaign campaign) else pure campaign
  have created : Mirrors repos others Eq creating creating := by
    dsimp only [creating]
    split
    · exact mirrors_wrapping (mirrors_createCampaign campaign)
    · exact mirrors_pure rfl
  rw [rewire_eq]
  refine mirrors_bind created ?_
  rintro stored _ rfl
  refine mirrors_bind (mirrors_wrapping (mirrors_readMapping _ _)) ?_
  rintro rows _ rfl
  refine mirrors_bind (mirrors_hydrate hides rows) ?_
  rintro mappings _ rfl
  refine mirrors_bind (mirrors_mk_pure _) ?_
  rintro rewiring _ rfl
  refine mirrors_bind (mirrors_wrapping (mirrors_delete _)) fun _ _ _ => ?_
  refine mirrors_bind (mirrors_wrapping (mirrors_write _ _)) ?_
  rintro written _ rfl
  exact mirrors_bind (mirrors_wrapping (mirrors_updateCampaign written)) fun _ _ _ =>
    mirrors_pure rfl

private theorem mirrors_transact (application : Application)
    (hides : visible.Hides application.actor repos others) (spec : CampaignSpec)
    (campaign : Campaign) (now : Time) :
    Mirrors repos others Eq (application.transact visible spec campaign now)
      (application.transact visible spec campaign now) := by
  refine mirrors_bind (mirrors_wrapping mirrors_begin) fun before mirrored remembers => ?_
  refine mirrors_bind (mirrors_attempt (mirrors_rewire application hides spec campaign now)) ?_
  intro result answer alike
  cases alike_eq alike
  cases result with
  | ok applied =>
    exact mirrors_bind (mirrors_wrapping (mirrors_commit remembers)) fun _ _ _ => mirrors_pure rfl
  | error error =>
    exact mirrors_bind (mirrors_attempt (mirrors_rollback remembers)) fun _ _ _ =>
      mirrors_throw error

private theorem mirrors_readSpec (application : Application) :
    Mirrors repos others Eq application.readSpec application.readSpec := by
  refine mirrors_bind (mirrors_wrapping (mirrors_read fun _ => rfl)) ?_
  rintro found _ rfl
  split
  · exact mirrors_throw _
  · split
    · exact mirrors_pure rfl
    · exact mirrors_throw _

private theorem mirrors_readCampaign (application : Application) (spec : CampaignSpec) :
    Mirrors repos others Eq (application.readCampaign spec) (application.readCampaign spec) := by
  refine mirrors_bind (mirrors_wrapping (mirrors_read fun _ => rfl)) ?_
  rintro existing _ rfl
  split
  · exact mirrors_throw _
  · exact mirrors_pure rfl

private theorem mirrors_cancel (campaign : Campaign) :
    Mirrors repos others Eq (cancel campaign) (cancel campaign) := by
  simp only [cancel]
  split
  · exact mirrors_pure rfl
  · exact mirrors_bind (mirrors_attempt (mirrors_cancelQueued campaign.id)) fun _ _ _ =>
      mirrors_pure rfl

private theorem mirrors_run (application : Application)
    (hides : visible.Hides application.actor repos others) (now : Time) :
    Mirrors repos others Eq (application.run visible now) (application.run visible now) := by
  refine mirrors_bind (mirrors_readSpec application) ?_
  rintro spec _ rfl
  refine mirrors_bind (mirrors_readCampaign application spec) ?_
  rintro existing _ rfl
  split
  · exact mirrors_pure rfl
  · exact mirrors_bind (mirrors_cancel _) fun _ _ _ => mirrors_transact application hides ..

/-- In every store, with any failures ahead: if some repositories that an actor cannot see are
missing, have another name or are on another code host, an application by the actor returns the same
campaign or fails for the same reason, it leaves all repositories alone, and the two stores that it
leaves differ in these repositories only. -/
theorem hidden_as_missing (application : Application) (visible : Visibility) (now : Time)
    (backend : Backend) (others : Table .repo Repo)
    (hides : visible.Hides application.actor backend.store.repos others) :
    (application.run visible now (backend.withRepos others)).1 =
        (application.run visible now backend).1 ∧
      (application.run visible now (backend.withRepos others)).2 =
        (application.run visible now backend).2.withRepos others ∧
      (application.run visible now backend).2.store.repos = backend.store.repos := by
  obtain ⟨stays, answer, alike, ends⟩ :=
    mirrors_run application hides now (ends_self (application.run visible now) backend) rfl
  cases alike_eq alike
  simp only [Ends] at ends
  rw [ends]
  exact ⟨rfl, rfl, stays⟩

end Application

namespace Sample

/-- Before the first generation, which is about two repositories, is applied. -/
def planned : Backend := ((System.start [] (instant 0)).run (unseen.take 7)).world.backend

/-- Before the second generation is applied, which is about the first repository only. -/
def settled : Backend := ((System.start [] (instant 0)).run unseen).world.backend

end Sample

open Sample in
/-- The first generation misses the second repository, whether it is hidden or missing; the second
one goes on without it, whatever its name is. -/
theorem Application.hidden_as_missing_second :
    ((applying "a").run onlyFirst (instant 0) planned).1 = .error (.repoNotFound ⟨2⟩) ∧
    ((applying "a").run onlyFirst (instant 0)
      (planned.withRepos (planned.store.repos.erase ⟨2⟩))).1 = .error (.repoNotFound ⟨2⟩) ∧
    ∃ applied, ((applying "b").run onlyFirst (instant 0) settled).1 = .ok applied ∧
      ((applying "b").run onlyFirst (instant 0) (settled.withRepos
        (settled.store.repos.insert ⟨2⟩ { repo with id := ⟨2⟩, name := "renamed" }))).1 =
        .ok applied := by
  have hidden : ∀ {repos : Table .repo Repo}, repos.find? ⟨2⟩ = some { repo with id := ⟨2⟩ } →
      ∀ other, repos.find? ⟨2⟩ = some other → onlyFirst ⟨⟨1⟩, false⟩ other = false := by
    intro repos located other present
    rw [located] at present
    cases present
    rfl
  have missed : ((applying "a").run onlyFirst (instant 0) planned).1 =
      .error (.repoNotFound ⟨2⟩) := by decide +kernel
  refine ⟨missed, ?_, ?_⟩
  · rw [← missed]
    exact (hidden_as_missing (applying "a") onlyFirst (instant 0) planned _
      (Visibility.hides_erase (hidden (by decide +kernel)))).1
  · obtain ⟨applied, next, ended⟩ := Access.ends_ok_of_isOk (show
      ((applying "b").run onlyFirst (instant 0) settled).1.isOk = true by decide +kernel)
    have first : ((applying "b").run onlyFirst (instant 0) settled).1 = .ok applied := by
      simp only [Access.Ends] at ended
      rw [ended]
    refine ⟨applied, first, ?_⟩
    rw [← first]
    exact (hidden_as_missing (applying "b") onlyFirst (instant 0) settled _
      (Visibility.hides_insert (hidden (by decide +kernel)) rfl)).1

end BatchChanges
