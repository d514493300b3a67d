import BatchChanges.Attempt
import BatchChanges.Backend
import BatchChanges.Clock
import BatchChanges.Settings

/-! # The world that workers act in

A worker acts on a backend, reads and moves a clock and talks to a code host. The code host is a
parameter: it keeps a state of its own inside the world, may change anything else before it
answers, and may answer whatever it likes. Every lease gets a token that no other lease has.
-/

namespace BatchChanges

/-- All that workers share. -/
structure World (σ : Type) where
  backend : Backend := {}
  clock : Clock
  /-- The number of tokens that were given out. -/
  tokens : Nat := 0
  /-- The state of the code host. -/
  host : σ

abbrev Action (σ ε α : Type) := ExceptT (Interrupt ε) (StateM (World σ)) α

/-- How a code host answers. -/
structure Host (σ : Type) where
  push : Repo → BranchPush → Action σ HostError Unit
  request : Repo → HostRequest → Action σ HostError PullRequest

/-- The token of a lease, by the number of tokens before it. -/
def leaseToken (number : Nat) : String := String.ofList (Text.Decimal.digits number)

namespace Action

variable {σ ε δ α : Type}

def look (read : World σ → α) : Action σ ε α := fun world => (.ok (read world), world)

def change (revise : World σ → World σ) : Action σ ε Unit := fun world => (.ok (), revise world)

def overflow : Action σ ε α := fun world => (.error .overflow, world)

def access (activity : Access ε α) : Action σ ε α := fun world =>
  match activity world.backend with
  | (.ok result, backend) => (.ok result, { world with backend })
  | (.error error, backend) => (.error (.failed error), { world with backend })

/-- Works with the backend, in calls that may leave the calendar. -/
def timedAccess (activity : Access (Interrupt ε) α) : Action σ ε α := fun world =>
  match activity world.backend with
  | (result, backend) => (result, { world with backend })

def attempt (activity : Action σ δ α) : Action σ ε (Except δ α) := fun world =>
  match activity world with
  | (.ok result, world) => (.ok (.ok result), world)
  | (.error (.failed error), world) => (.ok (.error error), world)
  | (.error .overflow, world) => (.error .overflow, world)

/-- Reports the failures of an activity as failures of another kind. -/
def wrapping (wrap : δ → ε) (activity : Action σ δ α) : Action σ ε α := fun world =>
  match activity world with
  | (.ok result, world) => (.ok result, world)
  | (.error interrupt, world) => (.error (interrupt.map wrap), world)

def now : Action σ ε Time := look fun world => world.clock.now

def advance (duration : Duration) : Action σ ε Unit := fun world =>
  match world.clock.advance? duration with
  | some clock => (.ok (), { world with clock })
  | none => (.error .overflow, world)

def sleep (duration : Duration) : Action σ ε Unit := do
  change fun world => { world with clock := world.clock.noting duration }
  advance duration

/-- Claims the next changeset, under a lease with a token of its own. -/
def claim (worker : String) (time : Time) (length : Duration) :
    Action σ StoreError (Option (Changeset × Lease)) := do
  let number ← look (·.tokens)
  change fun world => { world with tokens := world.tokens + 1 }
  timedAccess (Access.leaseNext worker (leaseToken number) time length)

/-- Answers what an attempt asks, under settings for the length of leases and of pauses. -/
def answer (host : Host σ) (settings : Settings) :
    (question : Question) → Action σ ε question.Answer
  | .changesetSpec id => attempt (access (Access.readChangesetSpec id))
  | .repo id => attempt (access (Access.readRepo id))
  | .renewal lease => attempt do
    timedAccess (Access.renew lease (← now) settings.leaseDuration)
  | .push repo branch => attempt (host.push repo branch)
  | .request repo asked => attempt (host.request repo asked)
  | .pause => sleep settings.sleepAfterPush

end Action

end BatchChanges
