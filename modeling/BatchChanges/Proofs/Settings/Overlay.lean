import BatchChanges.Settings

/-! # Settings over their defaults

A document may give some of the settings and leave out others, and give some numbers of the retry
policy and leave out others. What it gives is in force; everything else has its default, at both
levels. Nothing depends on the order of the fields, and fields with other names do not count.
-/

namespace BatchChanges

section Numbers

variable {V : Type} [Document V] {value : V} {fields : Fields V} {name : String}

private theorem Document.naturalBelow?_of_integer? {number bound : Nat}
    (stands : integer? value = some (number : Int)) (below : number < bound) :
    naturalBelow? bound value = some number := by
  have within : 0 ≤ (number : Int) ∧ (number : Int) < bound :=
    ⟨Int.natCast_nonneg number, Int.ofNat_lt.mpr below⟩
  rw [naturalBelow?, stands]
  simp only [Option.bind_eq_bind, Option.bind_some, if_pos within, Int.toNat_natCast]

private theorem Document.uint32?_of_integer? {number : UInt32}
    (stands : integer? value = some (number.toNat : Int)) : uint32? value = some number := by
  rw [uint32?, naturalBelow?_of_integer? stands number.toNat_lt, Option.map_some,
    UInt32.ofNat_toNat]

private theorem Document.uint64?_of_integer? {number : UInt64}
    (stands : integer? value = some (number.toNat : Int)) : uint64? value = some number := by
  rw [uint64?, naturalBelow?_of_integer? stands number.toNat_lt, Option.map_some,
    UInt64.ofNat_toNat]

/-- Under a name there is this number, or nothing where no number is given. -/
def Fields.Shows (fields : Fields V) (name : String) (number : Option Nat) : Prop :=
  (fields.lookup name).map Document.integer? = number.map fun (number : Nat) => some (number : Int)

/-- A number that is shown is read, and one that is not has its default. -/
theorem Fields.Shows.withDefault {α : Type} {toNat : α → Nat} {given : Option α}
    {read : V → Option α} (shows : fields.Shows name (given.map toNat))
    (reads : ∀ {value number}, Document.integer? value = some (toNat number : Int) →
      read value = some number) (standard : α) :
    fields.withDefault name standard read = some (given.getD standard) := by
  rw [Fields.Shows] at shows
  rw [Fields.withDefault]
  cases found : fields.lookup name with
  | none =>
    cases given with
    | none => rfl
    | some number => simp [found] at shows
  | some value =>
    cases given with
    | none => simp [found] at shows
    | some number =>
      simp only [found, Option.map_some, Option.some.injEq] at shows
      exact reads shows

end Numbers

namespace RetryPolicy

/-- The numbers of a retry policy that are given. -/
structure Part where
  maxAttempts : Option UInt32 := none
  minBackoff : Option UInt64 := none
  maxBackoff : Option UInt64 := none

namespace Part

variable {V : Type} [Document V] {part : Part} {fields : Fields V} {value : V}

/-- The policy with these numbers, and the other ones from `standard`. -/
def filled (part : Part) (standard : RetryPolicy) : RetryPolicy where
  maxAttempts := part.maxAttempts.getD standard.maxAttempts
  minBackoff := part.minBackoff.getD standard.minBackoff
  maxBackoff := part.maxBackoff.getD standard.maxBackoff

/-- Fields show these numbers of a policy and no others, whatever else there is among them. -/
structure IsShownBy (part : Part) (fields : Fields V) : Prop where
  single : ∀ name ∈ fieldNames, Document.isSingle fields name = true
  maxAttempts : fields.Shows "max_attempts" (part.maxAttempts.map UInt32.toNat)
  minBackoff : fields.Shows "min_backoff_secs" (part.minBackoff.map UInt64.toNat)
  maxBackoff : fields.Shows "max_backoff_secs" (part.maxBackoff.map UInt64.toNat)

private theorem IsShownBy.read? (shown : part.IsShownBy fields)
    (record : Document.fields? value = some fields) :
    RetryPolicy.read? value = some (part.filled {}) := by
  have known : fieldNames.all (Document.isSingle fields) = true := List.all_eq_true.mpr shown.single
  rw [RetryPolicy.read?, Document.record?, record]
  simp only [known, if_true, Option.bind_eq_bind, Option.bind_some,
    shown.maxAttempts.withDefault Document.uint32?_of_integer?,
    shown.minBackoff.withDefault Document.uint64?_of_integer?,
    shown.maxBackoff.withDefault Document.uint64?_of_integer?]
  rfl

end Part

end RetryPolicy

namespace Settings

/-- The settings that are given. -/
structure Part where
  workers : Option UInt64 := none
  pollMilliseconds : Option UInt64 := none
  leaseSeconds : Option UInt64 := none
  sleepSeconds : Option UInt64 := none
  retry : Option RetryPolicy.Part := none

namespace Part

variable {V : Type} [Document V] {part : Part} {fields : Fields V} {value : V}

/-- The settings that are given, and the other ones from `standard`, also within the policy. -/
def filled (part : Part) (standard : Settings) : Settings where
  workers := part.workers.getD standard.workers
  pollMilliseconds := part.pollMilliseconds.getD standard.pollMilliseconds
  leaseSeconds := part.leaseSeconds.getD standard.leaseSeconds
  sleepSeconds := part.sleepSeconds.getD standard.sleepSeconds
  retry := part.retry.elim standard.retry (·.filled standard.retry)

/-- Fields show these settings and no others, whatever else there is among them. -/
structure IsShownBy (part : Part) (fields : Fields V) : Prop where
  single : ∀ name ∈ fieldNames, Document.isSingle fields name = true
  workers : fields.Shows "workers" (part.workers.map UInt64.toNat)
  pollMilliseconds : fields.Shows "poll_interval_ms" (part.pollMilliseconds.map UInt64.toNat)
  leaseSeconds : fields.Shows "lease_duration_secs" (part.leaseSeconds.map UInt64.toNat)
  sleepSeconds : fields.Shows "sleep_after_push_secs" (part.sleepSeconds.map UInt64.toNat)
  retry : Option.Rel (fun (policy : RetryPolicy.Part) value =>
    ∃ fields, Document.fields? value = some fields ∧ policy.IsShownBy fields)
    part.retry (fields.lookup "retry")

private theorem IsShownBy.withDefault_retry (shown : part.IsShownBy fields) (standard : RetryPolicy)
    (same : standard = {}) :
    fields.withDefault "retry" standard RetryPolicy.read? =
      some (part.retry.elim standard (·.filled standard)) := by
  subst same
  have retry := shown.retry
  rw [Fields.withDefault]
  generalize part.retry = policy at retry ⊢
  generalize fields.lookup "retry" = found at retry ⊢
  cases retry with
  | none => rfl
  | some shows =>
    obtain ⟨inner, record, shows⟩ := shows
    exact shows.read? record

/-- What is left out has its default. -/
theorem IsShownBy.read? (shown : part.IsShownBy fields)
    (record : Document.fields? value = some fields) :
    Settings.read? value = some (part.filled {}) := by
  have known : fieldNames.all (Document.isSingle fields) = true := List.all_eq_true.mpr shown.single
  rw [Settings.read?, Document.record?, record]
  simp only [known, if_true, Option.bind_eq_bind, Option.bind_some,
    shown.workers.withDefault Document.uint64?_of_integer?,
    shown.pollMilliseconds.withDefault Document.uint64?_of_integer?,
    shown.leaseSeconds.withDefault Document.uint64?_of_integer?,
    shown.sleepSeconds.withDefault Document.uint64?_of_integer?, shown.withDefault_retry _ rfl]
  rfl

end Part

end Settings

end BatchChanges
