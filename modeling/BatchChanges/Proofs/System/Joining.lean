import BatchChanges.Proofs.Campaign.Missing
import BatchChanges.Proofs.System.Branches
import BatchChanges.Proofs.System.Failing
import BatchChanges.Proofs.System.Identity

/-! # Nothing is missing in a run

Whatever has happened, the mapping rows of every campaign spec and every campaign are in order, and
an application finds all that it looks for: campaigns are never lost, so that a campaign which an
application has read is still there when its transaction begins.
-/

namespace BatchChanges

namespace Application

open Access

variable {application : Application} {visible : Visibility} {now : Time} {backend next : Backend}
  {error : CampaignError}

private theorem run_misses_none (numbered : backend.store.Numbered) (agrees : backend.store.Agrees)
    (failed : Ends (application.run visible now) backend (.error error) next) :
    error.isMissingRow = false := by
  rw [run, ends_bind] at failed
  rcases failed with ⟨spec, first, readSpec, rest⟩ | ⟨_, same, failed⟩
  · rw [ends_bind] at rest
    rcases rest with ⟨existing, second, readCampaign, rest⟩ | ⟨_, same, failed⟩
    · have named := (readCampaign_ok readCampaign).1
      have kept := (readCampaign_store readCampaign).trans (readSpec_store readSpec)
      rw [readSpec_store readSpec] at named
      split at rest
      · cases rest
      · rw [Access.Ends, Applying.cancel_bind] at rest
        have canceled := cancel_store
          (ends_self (cancel (application.revised spec existing now)) second)
        rw [kept] at canceled
        refine transact_misses_none ?_ (fun saved => ?_) rest
        · rcases canceled with reached | reached
          · rw [reached]
            exact numbered.cancelQueued _
          · rw [reached]
            exact numbered
        · have campaigns : (cancel (application.revised spec existing now) second).2.store.campaigns
              = backend.store.campaigns := by
            rcases canceled with reached | reached
            · rw [reached]
              rfl
            · rw [reached]
          rw [campaigns]
          cases existing with
          | none => cases saved
          | some record => exact ⟨record, (Store.campaignByName?_eq_some agrees named).1⟩
    · cases same
      exact readCampaign_misses_none failed
  · cases same
    exact readSpec_misses_none failed

end Application

/-- The next call of an application under way fails. -/
inductive Applying.FailsWith (visible : Visibility) (backend : Backend) (error : CampaignError) :
    Applying → Prop
  | reading {application : Application} {next : Backend}
      (failed : Access.Ends application.readSpec backend (.error error) next) :
      FailsWith visible backend error (.reading application)
  | resolving {application : Application} {spec : CampaignSpec} {next : Backend}
      (failed : Access.Ends (application.readCampaign spec) backend (.error error) next) :
      FailsWith visible backend error (.resolving application spec)
  | rewiring {application : Application} {spec : CampaignSpec} {campaign : Campaign} {now : Time}
      {next : Backend}
      (failed : Access.Ends (application.transact visible spec campaign now) backend (.error error)
        next) :
      FailsWith visible backend error (.rewiring application spec campaign now)

namespace System

variable {system : System} {number : Nat} {applying : Applying} {visible : Visibility}
  {error : CampaignError}

private theorem Identified.misses_none (identified : system.Identified) (sound : system.Sound)
    (under : system.applications number = some applying)
    (fails : applying.FailsWith visible system.world.backend error) :
    error.isMissingRow = false := by
  cases fails with
  | reading failed => exact Application.readSpec_misses_none failed
  | resolving failed => exact Application.readCampaign_misses_none failed
  | @rewiring application spec campaign now next failed =>
    refine Application.transact_misses_none sound.numbered (fun saved => ?_) failed
    have prepares : system.Prepares ⟨application, spec, campaign, now⟩ := ⟨number, _, under, rfl⟩
    obtain ⟨record, stored, -⟩ := identified.known prepares saved
    exact ⟨record, stored⟩

/-- In every run that starts with the empty store, whatever failures of the store lay ahead: the
mapping rows of any campaign spec and any campaign join the specs with the changesets of the
campaign. If no failure of the store strikes, the mappings can be read. Whether or not failures lie
ahead, an application never fails because a changeset, its spec or a campaign is missing, be it
applied at once or under way, with others acting between its calls. -/
theorem mapping_joins_and_misses_none (faults : List Fault) (now : Time) (events : List Event) :
    (∀ campaignSpec campaign, ∃ wanted others,
      ((start faults now).run events).store.Joins campaignSpec campaign wanted others) ∧
    (∀ backend : Backend, backend.store = ((start faults now).run events).store →
      (∀ campaignSpec campaign visible actor,
        (∀ call ∈ [StoreCall.readChangesets, .readChangesetSpecs, .readRepos],
          (Fault.meet call backend.faults).1 = none) →
        ∃ mappings next, Access.Ends
          (Mapping.hydrate visible actor (backend.store.mappingRows campaignSpec campaign)) backend
          (.ok mappings) next) ∧
      ∀ application visible moment error next,
        Access.Ends (Application.run application visible moment) backend (.error error) next →
        error.isMissingRow = false) ∧
    ∀ number applying visible error,
      ((start faults now).run events).applications number = some applying →
      applying.FailsWith visible ((start faults now).run events).world.backend error →
      error.isMissingRow = false := by
  have begun : (start faults now).store.Agrees := Store.agrees_empty
  have sound := (sound_start faults now).run events
  have agrees := agrees_run begun (sound_start faults now) events
  have identified := (identified_start faults now).run (sound_start faults now) begun events
  refine ⟨?_, ?_, ?_⟩
  · intro campaignSpec campaign
    exact ⟨_, _, sound.numbered.joins campaignSpec campaign⟩
  · intro backend same
    have numbered : backend.store.Numbered := same ▸ sound.numbered
    refine ⟨?_, ?_⟩
    · intro campaignSpec campaign visible actor passes
      exact Mapping.exists_hydrate numbered passes
    · intro application visible moment error next failed
      exact Application.run_misses_none numbered (same ▸ agrees) failed
  · intro number applying visible error under fails
    exact identified.misses_none sound under fails

end System

namespace Sample

/-- The pull request of the first generation was opened, and both specs of the second one are about
it. -/
def competing : List Event := displacing.take 18

/-- Nobody sees any repository. -/
def blind : Visibility := fun _ _ => false

/-- Why the next call of an application under way fails if it is its transaction. -/
def failure? (system : System) (number : Nat) (visible : Visibility) : Option CampaignError :=
  match system.applications number with
  | some (.rewiring application spec campaign now) =>
    match application.transact visible spec campaign now system.world.backend with
    | (.error error, _) => some error
    | (.ok _, _) => none
  | _ => none

private theorem failsWith_of_failure? {system : System} {number : Nat} {visible : Visibility}
    {error : CampaignError} (fails : failure? system number visible = some error) :
    ∃ applying, system.applications number = some applying ∧
      applying.FailsWith visible system.world.backend error := by
  simp only [failure?] at fails
  split at fails
  · next under =>
    split at fails
    · next error next failed =>
      cases fails
      exact ⟨_, under, .rewiring failed⟩
    · cases fails
  · cases fails

end Sample

open Sample in
/-- The first spec takes the changeset, and the second one goes without. The mappings can be read,
and when the repository cannot be seen, that is what an application fails with. -/
theorem System.mapping_joins_and_misses_none_competing :
    (∃ wanted others, ((start [] (instant 0)).run competing).store.Joins ⟨3⟩ ⟨6⟩ wanted others ∧
      wanted ++ others = [⟨⟨1⟩, some ⟨7⟩, some ⟨4⟩⟩, ⟨⟨1⟩, none, some ⟨5⟩⟩]) ∧
    (∃ mappings next, Access.Ends (Mapping.hydrate visible ⟨⟨1⟩, false⟩
        (((start [] (instant 0)).run competing).store.mappingRows ⟨3⟩ ⟨6⟩))
      ((start [] (instant 0)).run competing).world.backend (.ok mappings) next) ∧
    (∃ error next, Access.Ends ((applying "b").run blind (instant 0))
      ((start [] (instant 0)).run competing).world.backend (.error error) next ∧
      error.isMissingRow = false) ∧
    ∃ error, failure? ((start [] (instant 0)).run (competing ++ (apply "b").take 4)) 0 blind =
      some error ∧ error.isMissingRow = false := by
  obtain ⟨joins, misses, -⟩ := mapping_joins_and_misses_none [] (instant 0) competing
  obtain ⟨-, -, missesUnderWay⟩ :=
    mapping_joins_and_misses_none [] (instant 0) (competing ++ (apply "b").take 4)
  refine ⟨?_, ?_, ?_, ?_⟩
  · obtain ⟨wanted, others, joined⟩ := joins ⟨3⟩ ⟨6⟩
    refine ⟨wanted, others, joined, joined.rows.symm.trans ?_⟩
    decide +kernel
  · exact (misses _ rfl).1 ⟨3⟩ ⟨6⟩ visible ⟨⟨1⟩, false⟩ (by decide +kernel)
  · obtain ⟨error, next, failed⟩ := Access.ends_error_of_isOk (show
      ((applying "b").run blind (instant 0)
        ((start [] (instant 0)).run competing).world.backend).1.isOk = false by decide +kernel)
    exact ⟨error, next, failed, (misses _ rfl).2 _ _ _ _ _ failed⟩
  · obtain ⟨error, fails⟩ := Option.isSome_iff_exists.mp (show
      (failure? ((start [] (instant 0)).run (competing ++ (apply "b").take 4)) 0
        blind).isSome = true by decide +kernel)
    obtain ⟨applying, under, failsWith⟩ := failsWith_of_failure? fails
    exact ⟨error, fails, missesUnderWay 0 applying blind error under failsWith⟩

end BatchChanges
