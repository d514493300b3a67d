import BatchChanges.Proofs.System.CloseRequest
import BatchChanges.Proofs.System.Records

/-! # Campaigns that are closed

An application refuses a campaign that is closed, but it looks only once, before its transaction. If
the campaign is closed after that, the transaction writes the revision that was drawn up from the
open record, and the campaign is open again. Nothing else opens a campaign: whoever reads the record
after the closure is refused, so that the revisions at stake are those that were held at the
closure.
-/

namespace BatchChanges

namespace System

variable {system : System} {event : Event} {events : List Event} {id : CampaignId}
  {revision : Revision} {applied : Campaign} {past : Revision → Prop}

/-- A campaign is stored, and it is closed. -/
def IsClosed (system : System) (id : CampaignId) : Prop :=
  ∃ campaign, system.store.campaigns.find? id = some campaign ∧ campaign.closedAt.isSome = true

/-- Whether it is. -/
def isClosed (system : System) (id : CampaignId) : Bool :=
  (system.store.campaigns.find? id).any (·.isClosed)

private theorem isClosed_iff : system.isClosed id = true ↔ system.IsClosed id :=
  Option.any_eq_true ..

/-- A closure that succeeds leaves its campaign closed. -/
theorem isClosed_of_close {closure : Closure} {closed : Campaign} {backend : Backend}
    (sound : system.Sound) (agrees : system.store.Agrees)
    (ends : Access.Ends (closure.run system.now) system.world.backend (.ok closed) backend) :
    (system.step (.close closure)).IsClosed closure.id := by
  have isClosed := closure.isClosed_of_run sound.numbered agrees ends
  simp only [Access.Ends] at ends
  simp only [step, access, ends]
  exact isClosed

private theorem Commits.not_isClosed (commits : system.Commits event revision applied)
    (sound : system.Sound) {existing : Option Campaign} (draws : revision.Draws existing)
    (here : applied.id = id) : ¬ (system.step event).IsClosed id := by
  rintro ⟨campaign, found, closed⟩
  rw [commits.find? sound, if_pos here] at found
  cases found
  have still : revision.campaign.isClosed = false := by
    rw [draws.2]
    exact Application.isClosed_revised draws.1
  rw [commits.record sound] at closed
  exact absurd closed (Bool.eq_false_iff.mp still)

/-- The transaction of a revision of a stored campaign writes that campaign. -/
theorem Commits.id_eq (commits : system.Commits event revision applied) (sound : system.Sound)
    (saved : revision.campaign.id.isUnsaved = false) : applied.id = revision.campaign.id := by
  obtain ⟨number, visible, backend, -, -, done⟩ := commits
  exact (Application.transact_ok sound.numbered done).1 saved

/-- A campaign is closed, and of its revisions only certain ones are held. -/
structure Shut (system : System) (id : CampaignId) (past : Revision → Prop) : Prop where
  closed : system.IsClosed id
  held {revision : Revision} (prepares : system.Prepares revision)
    (about : revision.campaign.id = id) : past revision

/-- An event that writes none of them leaves the campaign closed, and no other revision is drawn up
from the closed record. -/
theorem Shut.step (shut : system.Shut id past) (sound : system.Sound)
    (agrees : system.store.Agrees) (saved : id.isUnsaved = false)
    (spares : ∀ revision applied, revision.campaign.id = id → past revision →
      ¬ system.Commits event revision applied) : (system.step event).Shut id past := by
  obtain ⟨campaign, found, closed⟩ := shut.closed
  constructor
  · have rewritten := rewrites sound agrees event id
    rw [found] at rewritten
    generalize after : (system.step event).store.campaigns.find? id = record at rewritten
    cases rewritten with
    | kept => exact ⟨campaign, after, closed⟩
    | closed happens here still => exact absurd closed (Bool.eq_false_iff.mp still)
    | revised commits about here =>
      exact absurd commits (spares _ _ about (shut.held commits.prepares about))
  · intro revision prepares about
    rcases prepares.before with before | ⟨accepted, drawn⟩
    · exact shut.held before about
    · rw [drawn] at about
      cases known : system.store.campaignByName? revision.spec.space revision.spec.name with
      | none =>
        rw [known] at about
        subst about
        cases saved
      | some stored =>
        rw [known] at about accepted
        obtain ⟨key, present⟩ := Table.mem_rows_iff.mp (List.mem_of_find?_eq_some known)
        have here : key = id := (agrees.lists present).1.symm.trans about
        rw [here, found] at present
        cases present
        exact absurd closed (Bool.eq_false_iff.mp (Application.isClosed_of_refusal? accepted))

private theorem Shut.run (shut : system.Shut id past) (sound : system.Sound)
    (agrees : system.store.Agrees) (saved : id.isUnsaved = false)
    (spares : ∀ front event rest, events = front ++ event :: rest →
      ∀ revision applied, revision.campaign.id = id → past revision →
        ¬ (system.run front).Commits event revision applied) :
    (system.run events).Shut id past := by
  induction events generalizing system with
  | nil => exact shut
  | cons event rest ih =>
    refine ih (shut.step sound agrees saved (spares [] event rest rfl)) (sound.step event)
      (agrees_step agrees sound event) ?_
    intro front later others same
    exact spares (event :: front) later others (congrArg (event :: ·) same)

/-- In every run that starts with the empty store, whatever failures of the store lie ahead: a
closure succeeds. Then its campaign is closed in every later state exactly if no application that
had read the campaign before the closure, and held a revision of it then, commits its transaction
afterwards. -/
theorem closed_stays_closed_iff (faults : List Fault) (now : Time) (before after : List Event)
    (closure : Closure)
    (succeeds : ∃ closed backend, Access.Ends (closure.run ((start faults now).run before).now)
      ((start faults now).run before).world.backend (.ok closed) backend) :
    (∀ front rest, after = front ++ rest →
        ((start faults now).run (before ++ .close closure :: front)).IsClosed closure.id) ↔
      ∀ front event rest revision applied, after = front ++ event :: rest →
        revision.campaign.id = closure.id →
        ((start faults now).run before).Prepares revision →
        ¬ ((start faults now).run (before ++ .close closure :: front)).Commits event revision
          applied := by
  have begun : (start faults now).store.Agrees := Store.agrees_empty
  have sound := (sound_start faults now).run before
  have agrees := agrees_run begun (sound_start faults now) before
  have soundClosed := sound.step (.close closure)
  have agreesClosed := agrees_step agrees sound (.close closure)
  obtain ⟨closed, backend, ends⟩ := succeeds
  have shutNow := isClosed_of_close sound agrees ends
  have saved : closure.id.isUnsaved = false := by
    obtain ⟨campaign, found, -⟩ := shutNow
    have stored : ((start faults now).run (before ++ [.close closure])).store.campaigns.find?
        closure.id = some campaign := by
      rw [run_append]
      exact found
    exact isUnsaved_of_stored faults now _ stored
  simp only [run_append, run_cons]
  constructor
  · rintro stays front event rest revision applied rfl about prepares commits
    have soundFront := soundClosed.run front
    obtain ⟨existing, draws⟩ := draws_start faults now before prepares
    refine commits.not_isClosed soundFront draws
      ((commits.id_eq soundFront (about ▸ saved)).trans about) ?_
    have later := stays (front ++ [event]) rest (by simp)
    rwa [run_append] at later
  · intro spares front rest same
    have shut : (((start faults now).run before).step (.close closure)).Shut closure.id
        ((start faults now).run before).Prepares := ⟨shutNow, fun prepares _ => prepares⟩
    refine (shut.run soundClosed agreesClosed saved ?_).closed
    intro early event others split revision applied about prepares
    exact spares early event (others ++ rest) revision applied (by rw [same, split]; simp) about
      prepares

end System

namespace Sample

/-- The second generation is about to be applied to the campaign, which was open when it was
read. -/
def revising : List Event := setUp ++ (apply "b").take 4

end Sample

open Sample in
/-- The campaign is not closed any more when this application has ended, so that it was its
revision, held when the campaign was closed, that was written. -/
theorem System.closed_stays_closed_iff_revising :
    ∃ front event rest revision applied, [.proceed 0 visible] = front ++ event :: rest ∧
      revision.campaign.id = closure.id ∧
      ((start [] (instant 0)).run revising).Prepares revision ∧
      ((start [] (instant 0)).run (revising ++ .close closure :: front)).Commits event revision
        applied := by
  have succeeds : ∃ closed backend,
      Access.Ends (closure.run ((start [] (instant 0)).run revising).now)
        ((start [] (instant 0)).run revising).world.backend (.ok closed) backend :=
    Access.ends_ok_of_isOk (by decide +kernel)
  have reopened : ¬ ∀ front rest, [.proceed 0 visible] = front ++ rest →
      ((start [] (instant 0)).run (revising ++ .close closure :: front)).IsClosed closure.id := by
    intro stays
    have final := isClosed_iff.mpr (stays [.proceed 0 visible] [] rfl)
    revert final
    decide +kernel
  rw [closed_stays_closed_iff [] (instant 0) revising [.proceed 0 visible] closure succeeds]
    at reopened
  push Not at reopened
  exact reopened

open Sample in
/-- A closure succeeds, and in a later state the campaign is not closed any more. -/
theorem System.closed_campaign_reopened :
    (closure.run ((start [] (instant 0)).run revising).now
      ((start [] (instant 0)).run revising).world.backend).1.isOk = true ∧
    ((start [] (instant 0)).run (revising ++ [.close closure])).isClosed closure.id = true ∧
    (((start [] (instant 0)).run
      (revising ++ [.close closure, .proceed 0 visible])).store.campaigns.find? closure.id).map
        (·.closedAt) = some none := by
  decide +kernel

end BatchChanges
