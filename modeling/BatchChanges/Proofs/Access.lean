import BatchChanges.Backend
import Mathlib.Tactic.Common

/-! # Activities on a backend, taken apart

An activity that succeeded is taken apart into the calls that it made: each lemma says what a
success of one building block tells about the store before and after it. Of a call that failed only
one thing is needed, that it left the store alone.
-/

namespace BatchChanges

namespace Access

variable {ε δ α β : Type} {backend next : Backend}

/-- An activity ends with a result and leaves a backend behind. -/
def Ends (activity : Access ε α) (backend : Backend) (result : Except ε α) (next : Backend) :
    Prop :=
  @Eq (Except ε α × Backend) (activity backend) (result, next)

/-- Every activity ends. -/
theorem ends_self (activity : Access ε α) (backend : Backend) :
    Ends activity backend (activity backend).1 (activity backend).2 := rfl

theorem ends_ok_of_isOk {activity : Access ε α} (succeeds : (activity backend).1.isOk = true) :
    ∃ result next, Ends activity backend (.ok result) next := by
  have ended := ends_self activity backend
  cases given : (activity backend).1 with
  | ok result =>
    rw [given] at ended
    exact ⟨result, _, ended⟩
  | error error =>
    rw [given] at succeeds
    cases succeeds

theorem ends_error_of_isOk {activity : Access ε α} (fails : (activity backend).1.isOk = false) :
    ∃ error next, Ends activity backend (.error error) next := by
  have ended := ends_self activity backend
  cases given : (activity backend).1 with
  | ok result =>
    rw [given] at fails
    cases fails
  | error error =>
    rw [given] at ended
    exact ⟨error, _, ended⟩

theorem ends_pure_ok {result given : α} :
    Ends (pure given : Access ε α) backend (.ok result) next ↔ given = result ∧ backend = next := by
  change ((.ok given : Except ε α), backend) = (.ok result, next) ↔ _
  simp only [Prod.mk.injEq, Except.ok.injEq]

theorem ends_throw {error : ε} {result : Except ε α} :
    Ends (throw error : Access ε α) backend result next ↔
      .error error = result ∧ backend = next := by
  change ((.error error : Except ε α), backend) = (result, next) ↔ _
  rw [Prod.mk.injEq]

/-- After a success, the second of two activities goes on where the first one ended. -/
theorem bind_of_ok {first : Access ε α} {second : α → Access ε β} {value : α} {middle : Backend}
    (done : Ends first backend (.ok value) middle) :
    (first >>= second) backend = second value middle := by
  simp only [Ends] at done
  simp only [bind, ExceptT.bind, ExceptT.mk, StateT.bind, done]
  rfl

/-- After a failure, the second of two activities does not take place. -/
theorem bind_of_error {first : Access ε α} {second : α → Access ε β} {error : ε}
    (failed : Ends first backend (.error error) next) :
    (first >>= second) backend = (.error error, next) := by
  simp only [Ends] at failed
  simp only [bind, ExceptT.bind, ExceptT.mk, StateT.bind, failed]
  rfl

/-- Two activities in a row end with the second one, or with a failure of the first one. -/
theorem ends_bind {first : Access ε α} {second : α → Access ε β} {result : Except ε β} :
    Ends (first >>= second) backend result next ↔
      (∃ value middle, Ends first backend (.ok value) middle ∧
        Ends (second value) middle result next) ∨
      ∃ error, result = .error error ∧ Ends first backend (.error error) next := by
  rcases ended : (first backend : Except ε α × Backend) with ⟨error | value, middle⟩
  · rw [Ends, bind_of_error ended]
    simp [Ends, ended, eq_comm]
  · rw [Ends, bind_of_ok ended]
    simp [Ends, ended]

/-- Two activities in a row succeed if the second one does where the first one ended. -/
theorem ends_bind_ok {first : Access ε α} {second : α → Access ε β} {result : β} :
    Ends (first >>= second) backend (.ok result) next ↔
      ∃ value middle, Ends first backend (.ok value) middle ∧
        Ends (second value) middle (.ok result) next := by
  simp [ends_bind]

/-- A computation apart from the store succeeds on its own account. -/
theorem ends_mk_pure_ok {computed : Except ε α} {result : α} :
    Ends (ExceptT.mk (pure computed) : Access ε α) backend (.ok result) next ↔
      computed = .ok result ∧ backend = next := by
  change (computed, backend) = (.ok result, next) ↔ _
  rw [Prod.mk.injEq]

theorem ends_wrapping_ok {wrap : δ → ε} {activity : Access δ α} {result : α} :
    Ends (wrapping wrap activity) backend (.ok result) next ↔
      Ends activity backend (.ok result) next := by
  simp only [Ends, wrapping]
  rcases (activity backend : Except δ α × Backend) with ⟨error | value, middle⟩ <;> simp

theorem ends_wrapping_error {wrap : δ → ε} {activity : Access δ α} {error : ε} :
    Ends (wrapping wrap activity) backend (.error error) next ↔
      ∃ cause, wrap cause = error ∧ Ends activity backend (.error cause) next := by
  simp only [Ends, wrapping]
  rcases (activity backend : Except δ α × Backend) with ⟨error | value, middle⟩ <;> simp

/-- Going on after an activity tells how it ended. -/
theorem ends_attempt {activity : Access δ α} {result : Except ε (Except δ α)} :
    Ends (attempt activity) backend result next ↔
      ∃ outcome, result = .ok outcome ∧ Ends activity backend outcome next := by
  simp only [Ends, attempt]
  rcases (activity backend : Except δ α × Backend) with ⟨outcome, middle⟩
  simp only [Prod.mk.injEq]
  constructor
  · rintro ⟨rfl, rfl⟩
    exact ⟨outcome, rfl, rfl, rfl⟩
  · rintro ⟨_, rfl, rfl, rfl⟩
    exact ⟨rfl, rfl⟩

/-- A call that succeeds reached the store. -/
theorem callWith_ok {wrap : StoreError → ε} {name : StoreCall}
    {run : Store → Except ε (α × Store)} {result : α}
    (done : Ends (callWith wrap name run) backend (.ok result) next) :
    run backend.store = .ok (result, next.store) := by
  simp only [Ends, callWith] at done
  split at done
  · cases done
  · split at done
    · next reached =>
      cases done
      exact reached
    · cases done

/-- A call reaches the store if no failure ahead strikes it. -/
theorem ends_call {name : StoreCall} {run : Store → Except StoreError (α × Store)} {result : α}
    {store : Store} (passes : (Fault.meet name backend.faults).1 = none)
    (reached : run backend.store = .ok (result, store)) :
    Ends (call name run) backend (.ok result) ⟨store, (Fault.meet name backend.faults).2⟩ := by
  simp only [Ends, call, callWith]
  split
  · next strikes =>
    rw [strikes] at passes
    cases passes
  · next same => rw [reached, same]

/-- A call that fails leaves the store alone. -/
theorem callWith_error {wrap : StoreError → ε} {name : StoreCall}
    {run : Store → Except ε (α × Store)} {error : ε}
    (done : Ends (callWith wrap name run) backend (.error error) next) :
    next.store = backend.store := by
  simp only [Ends, callWith] at done
  split at done
  · cases done
    rfl
  · split at done <;> cases done
    rfl

theorem call_ok {name : StoreCall} {run : Store → Except StoreError (α × Store)} {result : α}
    (done : Ends (call name run) backend (.ok result) next) :
    run backend.store = .ok (result, next.store) :=
  callWith_ok done

/-- A call that the store never refuses is made, or leaves the store alone. -/
theorem call_total {name : StoreCall} {run : Store → α × Store} {result : Except StoreError α}
    (done : Ends (call name fun store => .ok (run store)) backend result next) :
    next.store = (run backend.store).2 ∨ next.store = backend.store := by
  cases result with
  | ok value =>
    have reached := call_ok done
    simp only [Except.ok.injEq] at reached
    exact .inl (by rw [reached])
  | error error => exact .inr (callWith_error done)

/-- A call that only reads tells what it read and leaves the store alone. -/
theorem call_read_ok {name : StoreCall} {read : Store → α} {result : α}
    (done : Ends (call name fun store => .ok (read store, store)) backend (.ok result) next) :
    read backend.store = result ∧ next.store = backend.store := by
  have reached := call_ok done
  simp only [Except.ok.injEq, Prod.mk.injEq] at reached
  exact ⟨reached.1, reached.2.symm⟩

/-- A call that only reads leaves the store alone, however it ends. -/
theorem call_read_store {name : StoreCall} {read : Store → α} {result : Except StoreError α}
    (done : Ends (call name fun store => .ok (read store, store)) backend result next) :
    next.store = backend.store := by
  cases result with
  | ok value => exact (call_read_ok done).2
  | error error => exact callWith_error done

theorem restore_store {before : Store} {result : Except ε Unit}
    (done : Ends (restore before) backend result next) : next.store = before := by
  simp only [Ends, restore, Prod.mk.injEq] at done
  rw [← done.2]

/-- A transaction begins with the store as it is. -/
theorem begin_ok {before : Store} (done : Ends begin backend (.ok before) next) :
    before = backend.store ∧ next.store = backend.store := by
  obtain ⟨same, kept⟩ := call_read_ok done
  exact ⟨same.symm, kept⟩

/-- A commit that succeeds keeps what was done. -/
theorem commit_ok {before : Store} (done : Ends (commit before) backend (.ok ()) next) :
    next.store = backend.store := by
  simp only [Ends, commit] at done
  split at done
  · next committed =>
    cases done
    exact (call_read_ok committed).2
  · cases done

/-- A commit that fails undoes what was done. -/
theorem commit_error {before : Store} {error : StoreError}
    (done : Ends (commit before) backend (.error error) next) : next.store = before := by
  simp only [Ends, commit] at done
  split at done <;> cases done
  rfl

/-- A rollback undoes what was done, even if it fails. -/
theorem rollback_store {before : Store} {result : Except StoreError Unit}
    (done : Ends (rollback before) backend result next) : next.store = before := by
  simp only [Ends, rollback] at done
  cases done
  rfl

end Access

/-- All failures ahead are of some kinds, by the details that they tell. -/
def Backend.Tells (details : String → Prop) (backend : Backend) : Prop :=
  ∀ fault ∈ backend.faults, details fault.detail

/-- A failure is ahead that will strike a call of this name. -/
def Fault.Ahead (faults : List Fault) (call : StoreCall) (detail : String) : Prop :=
  ∃ fault ∈ faults, fault.call = call ∧ fault.detail = detail

/-- Meeting failures brings no others about, and one that strikes was ahead. -/
theorem Fault.ahead_meet (call : StoreCall) (faults : List Fault) :
    (∀ name detail, Ahead (meet call faults).2 name detail → Ahead faults name detail) ∧
      ∀ detail, (meet call faults).1 = some detail → Ahead faults call detail := by
  induction faults with
  | nil => exact ⟨fun name detail ahead => ahead, fun detail strikes => by cases strikes⟩
  | cons first rest ih =>
    have later : ∀ {name detail}, Ahead rest name detail → Ahead (first :: rest) name detail :=
      fun ⟨fault, member, told⟩ => ⟨fault, List.mem_cons_of_mem _ member, told⟩
    simp only [meet]
    split_ifs with kind due
    · refine ⟨fun name detail => later, ?_⟩
      rintro detail ⟨⟩
      exact ⟨first, List.mem_cons_self, kind, rfl⟩
    · refine ⟨?_, fun detail strikes => by cases strikes⟩
      rintro name detail ⟨fault, member, told⟩
      rcases List.mem_cons.mp member with rfl | member
      · exact ⟨first, List.mem_cons_self, told⟩
      · exact later ⟨fault, member, told⟩
    · refine ⟨?_, fun detail strikes => later (ih.2 detail strikes)⟩
      rintro name detail ⟨fault, member, told⟩
      rcases List.mem_cons.mp member with rfl | member
      · exact ⟨fault, List.mem_cons_self, told⟩
      · exact later (ih.1 name detail ⟨fault, member, told⟩)

/-- Calls of one kind do not meet the failures ahead of another kind. -/
theorem Fault.meet_meet {call other : StoreCall} (apart : other ≠ call) (faults : List Fault) :
    (meet other (meet call faults).2).1 = (meet other faults).1 := by
  induction faults with
  | nil => rfl
  | cons fault rest ih =>
    by_cases kind : fault.call = call
    · have passes : fault.call ≠ other := fun same => apart (same.symm.trans kind)
      by_cases due : fault.skip = 0
      · simp [meet, kind, due, apart.symm]
      · simp [meet, kind, due, apart.symm]
    · by_cases same : fault.call = other
      · by_cases due : fault.skip = 0 <;> simp [meet, same, due, apart]
      · simp [meet, kind, same, ih]

theorem Fault.tells_meet {details : String → Prop} {faults : List Fault} (call : StoreCall)
    (tells : ∀ fault ∈ faults, details fault.detail) :
    (∀ fault ∈ (meet call faults).2, details fault.detail) ∧
      ∀ detail, (meet call faults).1 = some detail → details detail := by
  constructor
  · intro fault member
    obtain ⟨before, ahead, -, same⟩ :=
      (ahead_meet call faults).1 fault.call fault.detail ⟨fault, member, rfl, rfl⟩
    exact same ▸ tells before ahead
  · intro detail strikes
    obtain ⟨fault, ahead, -, same⟩ := (ahead_meet call faults).2 detail strikes
    exact same ▸ tells fault ahead

namespace Access

/-- An activity uses failures up and brings no others about. -/
def Spends (activity : Access ε α) : Prop :=
  ∀ ⦃details backend result next⦄, Ends activity backend result next →
    Backend.Tells details backend → Backend.Tells details next

theorem spends_pure (given : α) : Spends (pure given : Access ε α) := by
  intro details backend result next ended tells
  cases ended
  exact tells

theorem spends_throw (error : ε) : Spends (throw error : Access ε α) := by
  intro details backend result next ended tells
  cases (ends_throw.mp ended).2
  exact tells

theorem spends_mk_pure (computed : Except ε α) : Spends (ExceptT.mk (pure computed)) := by
  intro details backend result next ended tells
  cases ended
  exact tells

theorem spends_bind {first : Access ε α} {second : α → Access ε β} (before : Spends first)
    (after : ∀ value, Spends (second value)) : Spends (first >>= second) := by
  intro details backend result next ended tells
  rcases ends_bind.mp ended with ⟨value, middle, done, rest⟩ | ⟨error, -, failed⟩
  · exact after value rest (before done tells)
  · exact before failed tells

theorem spends_callWith (wrap : StoreError → ε) (name : StoreCall)
    (run : Store → Except ε (α × Store)) : Spends (callWith wrap name run) := by
  intro details backend result next ended tells
  have met := (Fault.tells_meet name tells).1
  simp only [Ends, callWith] at ended
  split at ended
  · next detail faults strikes =>
    cases ended
    rwa [strikes] at met
  · next faults passes =>
    rw [passes] at met
    split at ended
    · cases ended
      exact met
    · cases ended
      exact met

/-- A call meets the failures ahead of its kind. -/
theorem faults_of_call {name : StoreCall} {run : Store → Except StoreError (α × Store)}
    {result : Except StoreError α} (done : Ends (call name run) backend result next) :
    next.faults = (Fault.meet name backend.faults).2 := by
  simp only [Ends, call, callWith] at done
  split at done
  · next strikes =>
    cases done
    rw [strikes]
  · next passes =>
    split at done <;> cases done <;> rw [passes]

/-- A call fails because the next failure of its kind strikes, or because the store refuses it. -/
theorem callWith_struck {wrap : StoreError → ε} {name : StoreCall}
    {run : Store → Except ε (α × Store)} {error : ε}
    (ended : Ends (callWith wrap name run) backend (.error error) next) :
    (∃ detail, (Fault.meet name backend.faults).1 = some detail ∧
      error = wrap (.backend detail)) ∨ run backend.store = .error error := by
  simp only [Ends, callWith] at ended
  split at ended
  · next detail faults strikes =>
    cases ended
    exact .inl ⟨detail, by rw [strikes], rfl⟩
  · split at ended
    · cases ended
    · next refused =>
      cases ended
      exact .inr refused

theorem call_struck {name : StoreCall} {run : Store → Except StoreError (α × Store)}
    {error : StoreError} (ended : Ends (call name run) backend (.error error) next) :
    (∃ detail, (Fault.meet name backend.faults).1 = some detail ∧ error = .backend detail) ∨
      run backend.store = .error error :=
  callWith_struck ended

/-- A call that the store never refuses is struck by a failure ahead, or it is made. -/
theorem call_struck_or_made {name : StoreCall} {run : Store → α × Store}
    {result : Except StoreError α}
    (ended : Ends (call name fun store => .ok (run store)) backend result next) :
    (∃ detail, Fault.Ahead backend.faults name detail ∧ result = .error (.backend detail) ∧
      next.store = backend.store) ∨
      ∃ value, result = .ok value ∧ run backend.store = (value, next.store) := by
  cases result with
  | ok value => exact .inr ⟨value, rfl, Except.ok.inj (call_ok ended)⟩
  | error error =>
    obtain ⟨detail, strikes, rfl⟩ | refused := call_struck ended
    · exact .inl ⟨detail, (Fault.ahead_meet name _).2 detail strikes, rfl, callWith_error ended⟩
    · cases refused

/-- A call that only reads fails because a failure strikes. -/
theorem call_read_struck {name : StoreCall} {read : Store → α} {error : StoreError}
    (ended : Ends (call name fun store => .ok (read store, store)) backend (.error error) next) :
    ∃ detail, (Fault.meet name backend.faults).1 = some detail ∧ error = .backend detail := by
  obtain struck | refused := call_struck ended
  · exact struck
  · cases refused

theorem wrapped_read_struck {wrap : StoreError → ε} {name : StoreCall} {read : Store → α}
    {error : ε} (ended : Ends (wrapping wrap (call name fun store => .ok (read store, store)))
      backend (.error error) next) :
    ∃ detail, (Fault.meet name backend.faults).1 = some detail ∧
      error = wrap (.backend detail) := by
  obtain ⟨cause, rfl, struck⟩ := ends_wrapping_error.mp ended
  obtain ⟨detail, strikes, rfl⟩ := call_read_struck struck
  exact ⟨detail, strikes, rfl⟩

/-- The store never refuses to end a transaction. -/
theorem commit_struck {before : Store} {error : StoreError}
    (ended : Ends (commit before) backend (.error error) next) :
    ∃ detail, (Fault.meet .commit backend.faults).1 = some detail ∧ error = .backend detail := by
  simp only [Ends, commit] at ended
  split at ended
  · cases ended
  · next failed =>
    cases ended
    exact call_read_struck failed

/-- A call fails because of a failure ahead, or because the store refuses it. -/
theorem callWith_refused {wrap : StoreError → ε} {name : StoreCall}
    {run : Store → Except ε (α × Store)} {error : ε} {details : String → Prop}
    (tells : backend.Tells details)
    (ended : Ends (callWith wrap name run) backend (.error error) next) :
    (∃ detail, details detail ∧ error = wrap (.backend detail)) ∨
      run backend.store = .error error :=
  (callWith_struck ended).imp_left fun ⟨detail, strikes, same⟩ =>
    ⟨detail, (Fault.tells_meet name tells).2 detail strikes, same⟩

theorem spends_call (name : StoreCall) (run : Store → Except StoreError (α × Store)) :
    Spends (call name run) :=
  spends_callWith _ name run

/-- A call that the store never refuses fails because of a failure ahead. -/
theorem call_refused {name : StoreCall} {run : Store → α × Store} {error : StoreError}
    {details : String → Prop} (tells : backend.Tells details)
    (ended : Ends (call name fun store => .ok (run store)) backend (.error error) next) :
    ∃ detail, error = .backend detail ∧ details detail := by
  obtain ⟨detail, ahead, same⟩ | refused := callWith_refused tells ended
  · exact ⟨detail, same, ahead⟩
  · cases refused

theorem spends_restore (before : Store) : Spends (restore before : Access ε Unit) := by
  intro details backend result next ended tells
  cases ended
  exact tells

theorem spends_wrapping {wrap : δ → ε} {activity : Access δ α} (spends : Spends activity) :
    Spends (wrapping wrap activity) := by
  intro details backend result next ended tells
  cases result with
  | ok value => exact spends (ends_wrapping_ok.mp ended) tells
  | error error =>
    obtain ⟨cause, -, failed⟩ := ends_wrapping_error.mp ended
    exact spends failed tells

theorem spends_attempt {activity : Access δ α} (spends : Spends activity) :
    Spends (attempt activity : Access ε (Except δ α)) := by
  intro details backend result next ended tells
  obtain ⟨outcome, -, done⟩ := ends_attempt.mp ended
  exact spends done tells

theorem spends_commit (before : Store) : Spends (commit before) := by
  intro details backend result next ended tells
  simp only [Ends, commit] at ended
  split at ended
  · next middle committed =>
    cases ended
    exact spends_call _ _ committed tells
  · next error middle failed =>
    cases ended
    have kept : middle.Tells details := spends_call _ _ failed tells
    exact kept

theorem spends_rollback (before : Store) : Spends (rollback before) := by
  intro details backend result next ended tells
  have kept := spends_call .rollback (fun store => .ok ((), store)) (ends_self _ backend) tells
  simp only [Ends, rollback] at ended
  cases ended
  exact kept

end Access

end BatchChanges
