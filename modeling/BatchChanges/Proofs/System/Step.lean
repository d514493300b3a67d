import BatchChanges.Campaign.Apply
import BatchChanges.Campaign.Close
import BatchChanges.Proofs.Access
import BatchChanges.Proofs.Attempt.Course
import BatchChanges.Reconcile
import Mathlib.Logic.Function.Basic

/-! # Attempts and applications, interleaved

Any number of attempts and applications are under way at the same time on one store. Each of them
makes one call at a time, and between two calls the others make theirs, in any order and however
long it takes. An event is one such call, with what the code host answers to it if it is asked, or
something that happens by itself: time goes on, or a worker dies.
-/

namespace BatchChanges

/-- An application under way, by what it does next. -/
inductive Applying where
  | reading (application : Application)
  | resolving (application : Application) (spec : CampaignSpec)
  | canceling (application : Application) (spec : CampaignSpec) (campaign : Campaign) (now : Time)
  | rewiring (application : Application) (spec : CampaignSpec) (campaign : Campaign) (now : Time)

namespace Applying

/-- Makes the next call of an application; the application may be over after that. -/
def proceed (visible : Visibility) (now : Time) (backend : Backend) :
    Applying → Option Applying × Backend
  | reading application =>
    match application.readSpec backend with
    | (.ok spec, backend) => (some (.resolving application spec), backend)
    | (.error _, backend) => (none, backend)
  | resolving application spec =>
    match application.readCampaign spec backend with
    | (.ok existing, backend) =>
      match existing.filter (·.campaignSpecId == spec.id) with
      | some _ => (none, backend)
      | none =>
        (some (.canceling application spec (application.revised spec existing now) now), backend)
    | (.error _, backend) => (none, backend)
  | canceling application spec campaign now =>
    (some (.rewiring application spec campaign now), (Application.cancel campaign backend).2)
  | rewiring application spec campaign now =>
    (none, (application.transact visible spec campaign now backend).2)

/-- Makes calls until the application is over, if nobody else makes any. -/
def proceedAll (visible : Visibility) (now : Time) : Nat → Option Applying × Backend → Backend
  | 0, (_, backend) => backend
  | _, (none, backend) => backend
  | limit + 1, (some applying, backend) =>
    proceedAll visible now limit (applying.proceed visible now backend)

@[simp] theorem proceedAll_none (visible : Visibility) (now : Time) (limit : Nat)
    (backend : Backend) : proceedAll visible now limit (none, backend) = backend := by
  cases limit <;> rfl

/-- Canceling never fails, so that the application goes on. -/
theorem cancel_bind {α : Type} (campaign : Campaign) (rest : Access CampaignError α)
    (backend : Backend) :
    (Application.cancel campaign >>= fun _ => rest) backend =
      rest (Application.cancel campaign backend).2 := by
  simp only [Application.cancel]
  split <;> rfl

/-- An application whose calls nobody interrupts does what `Application.run` does. -/
theorem proceedAll_reading (application : Application) (visible : Visibility) (now : Time)
    (backend : Backend) :
    proceedAll visible now 4 (some (.reading application), backend) =
      (application.run visible now backend).2 := by
  have ended := Access.ends_self (application.run visible now) backend
  generalize (application.run visible now backend).1 = result at ended
  generalize (application.run visible now backend).2 = final at ended ⊢
  rw [Application.run, Access.ends_bind] at ended
  rcases ended with ⟨spec, first, read, rest⟩ | ⟨error, -, failed⟩
  · simp only [proceedAll, proceed, Access.Ends] at read ⊢
    rw [read]
    rw [Access.ends_bind] at rest
    rcases rest with ⟨existing, second, found, rest⟩ | ⟨error, -, failed⟩
    · simp only [proceedAll, proceed, Access.Ends] at found ⊢
      rw [found]
      split at rest
      · next same =>
        simp only [same]
        cases rest
        rfl
      · next other =>
        simp only [other]
        rw [Access.Ends, cancel_bind] at rest
        simp only [proceedAll, proceed, rest]
    · simp only [proceedAll, proceed, Access.Ends] at failed ⊢
      rw [failed]
      rfl
  · simp only [proceedAll, proceed, Access.Ends] at failed ⊢
    rw [failed]
    rfl

end Applying

/-- How a code host answers at some point. -/
structure HostReply where
  push : Except HostError Unit
  request : Except HostError PullRequest

/-- The host that gives this answer and does nothing else. -/
def HostReply.host (reply : HostReply) : Host Unit where
  push _ _ := ExceptT.mk (pure (reply.push.mapError .failed))
  request _ _ := ExceptT.mk (pure (reply.request.mapError .failed))

/-- Everything that is under way, and the world it happens in. -/
structure System where
  world : World Unit
  /-- Attempts, by the number of their lease's token. -/
  flights : Nat → Option Flight := fun _ => none
  applications : Nat → Option Applying := fun _ => none
  /-- What code hosts were told with success, and for which changeset, the last first. -/
  deliveries : List (ChangesetId × Effect) := []

/-- A call of somebody, or something that happens by itself. -/
inductive Event where
  | putRepo (repo : Repo)
  | addCampaignSpec (spec : CampaignSpec)
  | addChangesetSpec (spec : ChangesetSpec)
  | setClock (now : Time)
  /-- A worker claims the next changeset and begins its attempt. -/
  | claim (worker : String) (length : Duration)
  /-- An attempt asks its next question; the code host may be asked. -/
  | ask (flight : Nat) (settings : Settings) (reply : HostReply)
  /-- An attempt that has settled writes its outcome back. -/
  | conclude (flight : Nat) (policy : RetryPolicy)
  /-- A worker dies. -/
  | abandon (flight : Nat)
  | cancelQueued (campaign : CampaignId)
  | requeueDue (maxAttempts : UInt32)
  | resetExpired
  /-- An application begins. -/
  | apply (number : Nat) (application : Application)
  /-- An application makes its next call. -/
  | proceed (number : Nat) (visible : Visibility)
  | close (closure : Closure)

namespace System

def store (system : System) : Store := system.world.backend.store

def tokens (system : System) : Nat := system.world.tokens

def now (system : System) : Time := system.world.clock.now

/-- Before anything was stored, with any failures of the store ahead. -/
def start (faults : List Fault) (now : Time) : System where
  world := { backend := { faults }, clock := { now }, host := () }

def withBackend (system : System) (backend : Backend) : System :=
  { system with world := { system.world with backend } }

def withStore (system : System) (store : Store) : System :=
  system.withBackend { system.world.backend with store }

def access {ε α : Type} (system : System) (activity : Access ε α) : System :=
  system.withBackend (activity system.world.backend).2

def claim (system : System) (worker : String) (length : Duration) : System :=
  match Action.claim worker system.now length system.world with
  | (.ok (some (row, lease)), world) =>
    { system with
      world
      flights := Function.update system.flights system.tokens
        (some { claimed := row, attempt := .start row lease }) }
  | (_, world) => { system with world }

/-- Lets an attempt ask its next question. The attempt is over if the calendar ends. -/
def ask (system : System) (number : Nat) (flight : Flight) (settings : Settings)
    (reply : HostReply) : System :=
  match flight.attempt.next with
  | .settled _ => system
  | .ask question resume =>
    let answering : Action Unit ReconcileError question.Answer :=
      Action.answer reply.host settings question
    match answering system.world with
    | (.ok answer, world) =>
      let told := (question.told? answer).toList
      { system with
        world
        flights := Function.update system.flights number
          (some { flight with attempt := resume answer, told := told ++ flight.told })
        deliveries := told.map (flight.claimed.id, ·) ++ system.deliveries }
    | (.error _, world) =>
      { system with world, flights := Function.update system.flights number none }

def conclude (system : System) (number : Nat) (flight : Flight) (policy : RetryPolicy) : System :=
  match flight.attempt.next with
  | .ask _ _ => system
  | .settled failure =>
    { system with
      world := (Reconcile.conclude policy flight.attempt failure system.world).2
      flights := Function.update system.flights number none }

/-- What an event does. -/
def step (system : System) : Event → System
  | .putRepo repo => system.withStore (system.store.putRepo repo)
  | .addCampaignSpec spec => system.withStore (system.store.addCampaignSpec spec).2
  | .addChangesetSpec spec => system.withStore (system.store.addChangesetSpec spec).2
  | .setClock now =>
    { system with world := { system.world with clock := { system.world.clock with now } } }
  | .claim worker length => system.claim worker length
  | .ask number settings reply =>
    match system.flights number with
    | some flight => system.ask number flight settings reply
    | none => system
  | .conclude number policy =>
    match system.flights number with
    | some flight => system.conclude number flight policy
    | none => system
  | .abandon number =>
    { system with flights := Function.update system.flights number none }
  | .cancelQueued campaign => system.access (Access.cancelQueued campaign)
  | .requeueDue maxAttempts => system.access (Access.requeueDue system.now maxAttempts)
  | .resetExpired => system.access (Access.resetExpired system.now)
  | .apply number application =>
    { system with
      applications := Function.update system.applications number (some (.reading application)) }
  | .proceed number visible =>
    match system.applications number with
    | some applying =>
      let (rest, backend) := applying.proceed visible system.now system.world.backend
      { system.withBackend backend with
        applications := Function.update system.applications number rest }
    | none => system
  | .close closure => system.access (closure.run system.now)

/-- What events do, one after the other. -/
def run (system : System) (events : List Event) : System := events.foldl step system

theorem run_append (system : System) (first second : List Event) :
    system.run (first ++ second) = (system.run first).run second :=
  List.foldl_append

@[simp] theorem run_nil (system : System) : system.run [] = system := rfl

@[simp] theorem run_cons (system : System) (event : Event) (rest : List Event) :
    system.run (event :: rest) = (system.step event).run rest := rfl

private theorem run_proceed (system : System) (number limit : Nat) (visible : Visibility) :
    (system.run (List.replicate limit (.proceed number visible))).world.backend =
      Applying.proceedAll visible system.now limit
        (system.applications number, system.world.backend) := by
  induction limit generalizing system with
  | zero => rfl
  | succ limit ih =>
    rw [List.replicate_succ, run_cons, ih]
    cases under : system.applications number with
    | none => simp only [step, under, Applying.proceedAll_none]
    | some applying =>
      simp only [step, under, Applying.proceedAll, Function.update_self]
      rfl

/-- An application whose calls nobody interrupts does what `Application.run` does, also if it fails.
So what holds of all runs of events holds of applications in one piece. -/
theorem run_apply (system : System) (number : Nat) (application : Application)
    (visible : Visibility) :
    (system.run (.apply number application :: List.replicate 4 (.proceed number visible))).store =
      (application.run visible system.now system.world.backend).2.store := by
  rw [run_cons, store, run_proceed, ← Applying.proceedAll_reading]
  simp only [step, Function.update_self]
  rfl

end System

end BatchChanges
