import BatchChanges.Proofs.Queue.Confined
import BatchChanges.Proofs.System.Unseen

/-! # Interleavings of attempts on different changesets

Attempts that are under way take turns: in a turn, an attempt asks its next question or writes its
outcome back, at some reading of the clock and with some answer of the code host. What a turn does
stays within the changeset of the attempt's lease, so that turns of attempts on different changesets
can be made in either order. Two schedules that let each attempt take the same turns therefore end
alike: the turns of the one are brought into the order of the other by exchanging neighbours.
-/

namespace BatchChanges

/-- What an attempt does in its turn, and what it finds out meanwhile. -/
inductive Turn where
  | ask (now : Time) (settings : Settings) (reply : HostReply)
  | conclude (now : Time) (policy : RetryPolicy)

/-- The clock shows the time of the turn, and the attempt makes its call. -/
def Turn.events (number : Nat) : Turn → List Event
  | ask now settings reply => [.setClock now, .ask number settings reply]
  | conclude now policy => [.setClock now, .conclude number policy]

private theorem Access.ends_renew (store : Store) (lease : Lease) (now : Time) (length : Duration) :
    Ends (renew lease now length) ⟨store, []⟩ (store.renewed lease now length).1
      ⟨(store.renewed lease now length).2, []⟩ := by
  simp only [Ends, renew, callWith, Fault.meet_nil, Store.renewed]
  cases store.renew lease now length <;> rfl

namespace Question

/-- How a question is answered if no failures of the store lie ahead. -/
def replied (now : Time) (settings : Settings) (reply : HostReply) :
    (question : Question) → Store → Except (Interrupt ReconcileError) question.Answer × Store
  | .changesetSpec id, store => (.ok (.ok (store.changesetSpecs.find? id)), store)
  | .repo id, store => (.ok (.ok (store.repos.find? id)), store)
  | .renewal lease, store =>
    (Action.caught (store.renewed lease now settings.leaseDuration).1,
      (store.renewed lease now settings.leaseDuration).2)
  | .push _ _, store => (.ok reply.push, store)
  | .request _ _, store => (.ok reply.request, store)
  | .pause, store =>
    (match Clock.advance? { now } settings.sleepAfterPush with
      | some _ => .ok ()
      | none => .error .overflow, store)

variable {now : Time} {settings : Settings} {reply : HostReply} {question : Question}

private theorem answered_of_replied {store : Store} {answer : question.Answer}
    (told : (question.replied now settings reply store).1 = .ok answer) :
    question.Answered store now settings reply (question.replied now settings reply store).2
      answer := by
  cases question with
  | changesetSpec id =>
    cases told
    exact ⟨rfl, fun spec same => Except.ok.inj same⟩
  | repo id =>
    cases told
    exact ⟨rfl, fun repo same => Except.ok.inj same⟩
  | renewal lease =>
    simp only [replied, Store.renewed] at told ⊢
    cases renewed : store.renew lease now settings.leaseDuration with
    | ok renewal =>
      rw [renewed] at told
      cases told
      exact .inr ⟨_, rfl, renewed⟩
    | error interrupt =>
      rw [renewed] at told
      cases interrupt with
      | failed error =>
        cases told
        exact .inl ⟨error, rfl, rfl⟩
      | overflow => cases told
  | push repo branch =>
    cases told
    exact ⟨rfl, rfl⟩
  | request repo asked =>
    cases told
    exact ⟨rfl, rfl⟩
  | pause => exact rfl

/-- The reply is what an attempt is answered in any world without failures ahead. -/
theorem answer_eq_replied (settings : Settings) (reply : HostReply) (question : Question)
    (world : World Unit) (spared : world.backend.faults = []) :
    ∃ next, Action.Ends (Action.answer reply.host settings question) world
        (question.replied world.clock.now settings reply world.backend.store).1 next ∧
      next.backend =
        ⟨(question.replied world.clock.now settings reply world.backend.store).2, []⟩ := by
  obtain ⟨⟨store, faults⟩, clock, tokens, host⟩ := world
  cases spared
  cases question with
  | changesetSpec id => exact ⟨_, rfl, rfl⟩
  | repo id => exact ⟨_, rfl, rfl⟩
  | renewal lease =>
    refine ⟨_, (Action.answer_renewal _ _ _ _).trans (Action.attempt_timedAccess_of_ends _
      (Access.ends_renew store lease clock.now settings.leaseDuration)), rfl⟩
  | push repo branch =>
    obtain ⟨pushed, requested⟩ := reply
    exact ⟨_, by cases pushed <;> rfl, rfl⟩
  | request repo asked =>
    obtain ⟨pushed, requested⟩ := reply
    exact ⟨_, by cases requested <;> rfl, rfl⟩
  | pause =>
    have slept : @Eq (Except (Interrupt ReconcileError) Unit × World Unit) _ _ :=
      Action.sleep_eq ⟨⟨store, []⟩, clock, tokens, host⟩ settings.sleepAfterPush
    simp only [Clock.advance?, Clock.noting] at slept
    simp only [replied, Clock.advance?]
    generalize clock.now.add?
      (if settings.sleepAfterPush.isSpan then settings.sleepAfterPush else .century) = moved
      at slept ⊢
    cases moved with
    | some later => exact ⟨_, slept, rfl⟩
    | none => exact ⟨_, slept, rfl⟩

/-- An answer stays within the changeset of the lease that is to be renewed. -/
theorem confined_replied {id : ChangesetId}
    (about : ∀ lease, question = .renewal lease → lease.changesetId = id) :
    Store.Confined id (question.replied now settings reply) := by
  cases question with
  | changesetSpec spec =>
    exact .looking fun store => (replied now settings reply (changesetSpec spec) store).1
  | repo repo =>
    exact .looking fun store => (replied now settings reply (Question.repo repo) store).1
  | renewal lease =>
    rw [← about lease rfl]
    exact (Store.confined_renewed lease now settings.leaseDuration).map Action.caught
  | push repo branch =>
    exact .looking fun store => (replied now settings reply (push repo branch) store).1
  | request repo asked =>
    exact .looking fun store => (replied now settings reply (request repo asked) store).1
  | pause =>
    exact .looking fun store => (replied now settings reply pause store).1

end Question

private theorem Attempt.lease_of_next {attempt : Attempt} {lease : Lease}
    {resume : (Question.renewal lease).Answer → Attempt}
    (asks : attempt.next = .ask (.renewal lease) resume) : lease = attempt.lease := by
  simp only [next] at asks
  split at asks
  · cases asks
  · cases asks
  · cases asks
  · cases asks
    rfl
  · next repo operation effect rest stage =>
    simp only [Next.ask.injEq] at asks
    cases effect <;> cases asks.1
  · cases asks

namespace Flight

/-- An attempt goes on with an answer, or is over if there is none. -/
def goOn (flight : Flight) (question : Question) (resume : question.Answer → Attempt) :
    Except (Interrupt ReconcileError) question.Answer → Option Flight
  | .ok answer => some { flight with
      attempt := resume answer, told := (question.told? answer).toList ++ flight.told }
  | .error _ => none

/-- What the write-back of an attempt makes of the store; there is none if the next attempt would be
after the end of the calendar. -/
def writeBack (flight : Flight) (policy : RetryPolicy) (failure : Option ReconcileError)
    (now : Time) (store : Store) : Store :=
  match flight.attempt.row.settled? policy failure now with
  | some outcome => (store.finish flight.attempt.lease outcome).2
  | none => store

end Flight

namespace Turn

/-- What a turn makes of an attempt and of the store: the attempt goes on, or is over. Nothing
happens if the attempt has nothing to ask, or is not ready to conclude. -/
def act (flight : Flight) : Turn → Store → Option Flight × Store
  | ask now settings reply, store =>
    match flight.attempt.next with
    | .ask question resume =>
      let (answer, next) := question.replied now settings reply store
      (flight.goOn question resume answer, next)
    | .settled _ => (some flight, store)
  | conclude now policy, store =>
    match flight.attempt.next with
    | .ask _ _ => (some flight, store)
    | .settled failure => (none, flight.writeBack policy failure now store)

private theorem confined_writeBack (flight : Flight) (policy : RetryPolicy)
    (failure : Option ReconcileError) (now : Time) :
    Store.Confined flight.attempt.lease.changesetId fun store =>
      ((none : Option Flight), flight.writeBack policy failure now store) := by
  simp only [Flight.writeBack]
  cases flight.attempt.row.settled? policy failure now with
  | some outcome => exact (Store.confined_finish flight.attempt.lease outcome).map fun _ => none
  | none => exact Store.Confined.looking fun _ => none

private theorem confined_act (flight : Flight) (turn : Turn) :
    Store.Confined flight.attempt.lease.changesetId (turn.act flight) := by
  have idle : Store.Confined flight.attempt.lease.changesetId fun store => (some flight, store) :=
    Store.Confined.looking fun _ => some flight
  cases turn with
  | ask now settings reply =>
    unfold act
    cases asks : flight.attempt.next with
    | ask question resume =>
      have about : ∀ lease, question = .renewal lease →
          lease.changesetId = flight.attempt.lease.changesetId := by
        rintro lease rfl
        rw [Attempt.lease_of_next asks]
      exact (Question.confined_replied about).map (flight.goOn question resume)
    | settled failure => exact idle
  | conclude now policy =>
    unfold act
    cases asks : flight.attempt.next with
    | ask question resume => exact idle
    | settled failure => exact confined_writeBack flight policy failure now

private theorem changesetId_of_act {flight following : Flight} {turn : Turn} {store : Store}
    (goes : (turn.act flight store).1 = some following) :
    following.attempt.lease.changesetId = flight.attempt.lease.changesetId := by
  cases turn with
  | ask now settings reply =>
    unfold act at goes
    cases asks : flight.attempt.next with
    | ask question resume =>
      simp only [asks] at goes
      cases told : (question.replied now settings reply store).1 with
      | ok answer =>
        rw [told] at goes
        cases goes
        exact (System.lease_of_moves (Attempt.moves_of_next asks answer)
          (Question.answered_of_replied told)).2
      | error interrupt =>
        rw [told] at goes
        cases goes
    | settled failure =>
      rw [asks] at goes
      cases goes
      rfl
  | conclude now policy =>
    unfold act at goes
    cases asks : flight.attempt.next with
    | ask question resume =>
      rw [asks] at goes
      cases goes
      rfl
    | settled failure =>
      rw [asks] at goes
      cases goes

end Turn

/-- The attempts under way, and the store that they share. -/
structure Scene where
  flights : Nat → Option Flight
  store : Store

namespace Scene

variable {scene : Scene}

def take (scene : Scene) (entry : Nat × Turn) : Scene :=
  match scene.flights entry.1 with
  | some flight =>
    { flights := Function.update scene.flights entry.1 (entry.2.act flight scene.store).1
      store := (entry.2.act flight scene.store).2 }
  | none => scene

def changesetId? (scene : Scene) (number : Nat) : Option ChangesetId :=
  (scene.flights number).map (·.attempt.lease.changesetId)

/-- No two of the attempts with these numbers are about the same changeset. -/
def Apart (scene : Scene) (numbers : List Nat) : Prop :=
  ∀ number ∈ numbers, ∀ other ∈ numbers, number ≠ other →
    ∀ id, scene.changesetId? number = some id → scene.changesetId? other ≠ some id

private theorem take_of_none {entry : Nat × Turn} (ended : scene.flights entry.1 = none) :
    scene.take entry = scene := by
  simp only [take, ended]

private theorem take_of_some {entry : Nat × Turn} {flight : Flight}
    (under : scene.flights entry.1 = some flight) :
    scene.take entry =
      { flights := Function.update scene.flights entry.1 (entry.2.act flight scene.store).1
        store := (entry.2.act flight scene.store).2 } := by
  simp only [take, under]

private theorem flights_take_self {entry : Nat × Turn} {flight : Flight}
    (under : scene.flights entry.1 = some flight) :
    (scene.take entry).flights entry.1 = (entry.2.act flight scene.store).1 := by
  rw [take_of_some under]
  exact Function.update_self ..

private theorem flights_take_of_ne {entry : Nat × Turn} {number : Nat} (other : number ≠ entry.1) :
    (scene.take entry).flights number = scene.flights number := by
  simp only [take]
  split
  · exact Function.update_of_ne other _ _
  · rfl

private theorem changesetId?_take {entry : Nat × Turn} {number : Nat} {id : ChangesetId}
    (about : (scene.take entry).changesetId? number = some id) :
    scene.changesetId? number = some id := by
  by_cases own : number = entry.1
  · subst own
    cases under : scene.flights entry.1 with
    | none => rwa [take_of_none under] at about
    | some flight =>
      rw [changesetId?, flights_take_self under, Option.map_eq_some_iff] at about
      obtain ⟨following, goes, rfl⟩ := about
      rw [changesetId?, under, Turn.changesetId_of_act goes]
      rfl
  · rwa [changesetId?, flights_take_of_ne own] at about

private theorem Apart.take {numbers : List Nat} (apart : scene.Apart numbers) (entry : Nat × Turn) :
    (scene.take entry).Apart numbers := by
  intro number member other otherMember different id about same
  exact apart number member other otherMember different id (changesetId?_take about)
    (changesetId?_take same)

/-- Turns of attempts on different changesets can be made in either order. -/
theorem take_comm {first second : Nat × Turn} (different : first.1 ≠ second.1)
    (apart : ∀ id, scene.changesetId? first.1 = some id → scene.changesetId? second.1 ≠ some id) :
    (scene.take first).take second = (scene.take second).take first := by
  cases one : scene.flights first.1 with
  | none =>
    rw [take_of_none one, take_of_none ((flights_take_of_ne different).trans one)]
  | some flight =>
    cases two : scene.flights second.1 with
    | none =>
      rw [take_of_none two, take_of_none ((flights_take_of_ne different.symm).trans two)]
    | some other =>
      have elsewhere : flight.attempt.lease.changesetId ≠ other.attempt.lease.changesetId := by
        intro same
        apply apart flight.attempt.lease.changesetId
        · rw [changesetId?, one, Option.map_some]
        · rw [changesetId?, two, Option.map_some, same]
      have mine := Turn.confined_act flight first.2
      have theirs := Turn.confined_act other second.2
      rw [take_of_some ((flights_take_of_ne different.symm).trans two),
        take_of_some ((flights_take_of_ne different).trans one), take_of_some one,
        take_of_some two]
      simp only [mk.injEq]
      refine ⟨?_, mine.comm theirs elsewhere scene.store⟩
      rw [(theirs.unaffected mine elsewhere.symm scene.store).1,
        (mine.unaffected theirs elsewhere scene.store).1]
      exact Function.update_comm different _ _ _

/-- The turns that an attempt takes in a schedule. -/
def turnsOf (number : Nat) (schedule : List (Nat × Turn)) : List Turn :=
  schedule.filterMap fun entry => if entry.1 = number then some entry.2 else none

private theorem turnsOf_append (number : Nat) (first second : List (Nat × Turn)) :
    turnsOf number (first ++ second) = turnsOf number first ++ turnsOf number second :=
  List.filterMap_append

private theorem turnsOf_cons_self (entry : Nat × Turn) (rest : List (Nat × Turn)) :
    turnsOf entry.1 (entry :: rest) = entry.2 :: turnsOf entry.1 rest := by
  simp [turnsOf]

private theorem turnsOf_cons_of_ne {entry : Nat × Turn} {number : Nat} (other : entry.1 ≠ number)
    (rest : List (Nat × Turn)) : turnsOf number (entry :: rest) = turnsOf number rest := by
  simp [turnsOf, other]

private theorem turnsOf_eq_nil_iff {number : Nat} {schedule : List (Nat × Turn)} :
    turnsOf number schedule = [] ↔ ∀ entry ∈ schedule, entry.1 ≠ number := by
  simp [turnsOf]

private theorem turnsOf_eq_cons {number : Nat} {schedule : List (Nat × Turn)} {turn : Turn}
    {more : List Turn} (takes : turnsOf number schedule = turn :: more) :
    ∃ earlier later, schedule = earlier ++ (number, turn) :: later ∧
      (∀ entry ∈ earlier, entry.1 ≠ number) ∧ turnsOf number later = more := by
  obtain ⟨earlier, ⟨own, taken⟩, later, rfl, others, here, left⟩ :=
    List.filterMap_eq_cons_iff.mp takes
  obtain ⟨rfl, rfl⟩ : own = number ∧ taken = turn := by simpa using here
  exact ⟨earlier, later, rfl, fun entry member => by simpa using others entry member, left⟩

/-- The first turn of an attempt can be brought before the turns of others. -/
theorem foldl_take_first {numbers : List Nat} {entry : Nat × Turn}
    {earlier : List (Nat × Turn)} (apart : scene.Apart numbers) (own : entry.1 ∈ numbers)
    (among : ∀ other ∈ earlier, other.1 ∈ numbers) (others : ∀ other ∈ earlier, other.1 ≠ entry.1) :
    (earlier.foldl take scene).take entry = earlier.foldl take (scene.take entry) := by
  induction earlier generalizing scene with
  | nil => rfl
  | cons head rest ih =>
    have different : head.1 ≠ entry.1 := others head List.mem_cons_self
    have swapped : (scene.take head).take entry = (scene.take entry).take head :=
      take_comm different (apart _ (among head List.mem_cons_self) _ own different)
    rw [List.foldl_cons, List.foldl_cons, ← swapped]
    exact ih (apart.take head) (fun other member => among other (List.mem_cons_of_mem _ member))
      fun other member => others other (List.mem_cons_of_mem _ member)

/-- Schedules that let every attempt take the same turns end alike, if attempts are apart. -/
theorem foldl_take_eq {numbers : List Nat} {left right : List (Nat × Turn)}
    (apart : scene.Apart numbers) (among : ∀ entry ∈ left, entry.1 ∈ numbers)
    (amongRight : ∀ entry ∈ right, entry.1 ∈ numbers)
    (same : ∀ number, turnsOf number left = turnsOf number right) :
    left.foldl take scene = right.foldl take scene := by
  induction left generalizing scene right with
  | nil =>
    cases right with
    | nil => rfl
    | cons entry rest =>
      have taken := same entry.1
      simp [turnsOf] at taken
  | cons entry rest ih =>
    -- On the right, the same attempt takes the same turn at some point, and none before.
    obtain ⟨earlier, later, rfl, others, left⟩ :=
      turnsOf_eq_cons ((same entry.1).symm.trans (turnsOf_cons_self entry rest))
    have member : ∀ other ∈ earlier ++ later, other ∈ earlier ++ entry :: later := by
      intro other member
      rcases List.mem_append.mp member with before | after
      · exact List.mem_append_left _ before
      · exact List.mem_append_right _ (List.mem_cons_of_mem _ after)
    have first := foldl_take_first apart (among entry List.mem_cons_self)
      (fun other before => amongRight other (List.mem_append_left _ before)) others
    calc
      (entry :: rest).foldl take scene = rest.foldl take (scene.take entry) := rfl
      _ = (earlier ++ later).foldl take (scene.take entry) := by
        apply ih (apart.take entry)
        · exact fun other after => among other (List.mem_cons_of_mem _ after)
        · exact fun other there => amongRight other (member other there)
        · intro number
          have taken := same number
          rw [turnsOf_append] at taken ⊢
          by_cases own : entry.1 = number
          · subst own
            rw [turnsOf_eq_nil_iff.mpr others, left]
            rfl
          · rwa [turnsOf_cons_of_ne own, turnsOf_cons_of_ne own] at taken
      _ = (earlier ++ entry :: later).foldl take scene := by
        rw [List.foldl_append, List.foldl_append, List.foldl_cons, first]

end Scene

namespace System

variable {system : System}

/-- What attempts that take turns have to do with. -/
def scene (system : System) : Scene := ⟨system.flights, system.store⟩

private theorem scene_ask (system : System) (spared : system.world.backend.faults = [])
    (number : Nat) (settings : Settings) (reply : HostReply) :
    (system.step (.ask number settings reply)).scene =
        system.scene.take (number, .ask system.now settings reply) ∧
      (system.step (.ask number settings reply)).world.backend.faults = [] := by
  cases under : system.flights number with
  | none =>
    rw [show system.scene.take (number, .ask system.now settings reply) = _ from
      Scene.take_of_none under]
    simp only [step, under]
    exact ⟨trivial, spared⟩
  | some flight =>
    rw [show system.scene.take (number, .ask system.now settings reply) = _ from
      Scene.take_of_some under]
    simp only [step, under, ask, Turn.act]
    cases asks : flight.attempt.next with
    | settled failure =>
      refine ⟨?_, spared⟩
      simp only [scene, Scene.mk.injEq, and_true]
      exact (Function.update_eq_self_iff.mpr under.symm).symm
    | ask question resume =>
      obtain ⟨world, answered, backend⟩ :=
        Question.answer_eq_replied settings reply question system.world spared
      rw [Action.Ends] at answered
      simp only [answered]
      rcases replied : question.replied system.world.clock.now settings reply
        system.world.backend.store with ⟨answer | answer, store⟩ <;>
        simp [scene, replied, backend, System.store, System.now, Flight.goOn]

private theorem scene_conclude (system : System) (spared : system.world.backend.faults = [])
    (number : Nat) (policy : RetryPolicy) :
    (system.step (.conclude number policy)).scene =
        system.scene.take (number, .conclude system.now policy) ∧
      (system.step (.conclude number policy)).world.backend.faults = [] := by
  cases under : system.flights number with
  | none =>
    rw [show system.scene.take (number, .conclude system.now policy) = _ from
      Scene.take_of_none under]
    simp only [step, under]
    exact ⟨trivial, spared⟩
  | some flight =>
    rw [show system.scene.take (number, .conclude system.now policy) = _ from
      Scene.take_of_some under]
    simp only [step, under, conclude, Turn.act]
    cases stage : flight.attempt.next with
    | ask question resume =>
      refine ⟨?_, spared⟩
      simp only [scene, Scene.mk.injEq, and_true]
      exact (Function.update_eq_self_iff.mpr under.symm).symm
    | settled failure =>
      obtain ⟨⟨⟨store, faults⟩, clock, tokens, host⟩, flights, applications, deliveries⟩ := system
      cases spared
      simp only [Reconcile.conclude_world, Flight.writeBack, now]
      cases flight.attempt.row.settled? policy failure clock.now with
      | some outcome => exact ⟨rfl, rfl⟩
      | none => exact ⟨rfl, rfl⟩

/-- The events of a schedule: at each turn, the clock shows the time of the turn. -/
def events (schedule : List (Nat × Turn)) : List Event :=
  schedule.flatMap fun entry => entry.2.events entry.1

private theorem scene_turn (spared : system.world.backend.faults = []) (entry : Nat × Turn) :
    (system.run (entry.2.events entry.1)).scene = system.scene.take entry ∧
      (system.run (entry.2.events entry.1)).world.backend.faults = [] := by
  obtain ⟨number, turn⟩ := entry
  cases turn with
  | ask now settings reply =>
    exact scene_ask (system.step (.setClock now)) spared number settings reply
  | conclude now policy =>
    exact scene_conclude (system.step (.setClock now)) spared number policy

private theorem scene_run (spared : system.world.backend.faults = [])
    (schedule : List (Nat × Turn)) :
    (system.run (events schedule)).scene = schedule.foldl Scene.take system.scene := by
  induction schedule generalizing system with
  | nil => rfl
  | cons entry rest ih =>
    obtain ⟨taken, spares⟩ := scene_turn spared entry
    rw [events, List.flatMap_cons, run_append, ← events, ih spares, taken, List.foldl_cons]

/-- Workers on different changesets do not affect each other. Renewals and write-backs under leases
on different changesets, whether these stand, were lost or are on rows that do not exist any more,
return the same in either order and end in the same store. So do attempts under way that are on
different changesets, however their questions and write-backs are interleaved: if each attempt takes
the same turns, with the same readings of the clock and the same answers of the code host, then the
store is the same in the end, and so is what has become of each attempt. -/
theorem workers_independent :
    (∀ (store : Store) (first second : LeaseCall),
      first.lease.changesetId ≠ second.lease.changesetId →
        (first.perform (second.perform store).2).1 = (first.perform store).1 ∧
        (second.perform (first.perform store).2).1 = (second.perform store).1 ∧
        (second.perform (first.perform store).2).2 = (first.perform (second.perform store).2).2) ∧
    ∀ (system : System) (left right : List (Nat × Turn)),
      system.world.backend.faults = [] → system.scene.Apart (left.map Prod.fst) →
        (∀ number, Scene.turnsOf number left = Scene.turnsOf number right) →
          (system.run (events left)).store = (system.run (events right)).store ∧
          (system.run (events left)).flights = (system.run (events right)).flights := by
  refine ⟨fun store first second different => ?_, fun system left right spared apart same => ?_⟩
  · exact ⟨(first.confined.unaffected second.confined different store).1,
      (second.confined.unaffected first.confined different.symm store).1,
      first.confined.comm second.confined different store⟩
  · have amongRight : ∀ entry ∈ right, entry.1 ∈ left.map Prod.fst := by
      intro entry member
      by_contra absent
      have none : Scene.turnsOf entry.1 left = [] :=
        Scene.turnsOf_eq_nil_iff.mpr fun other taken here =>
          absent (List.mem_map.mpr ⟨other, taken, here⟩)
      exact Scene.turnsOf_eq_nil_iff.mp ((same entry.1).symm.trans none) entry member rfl
    have ends : (system.run (events left)).scene = (system.run (events right)).scene := by
      rw [scene_run spared, scene_run spared]
      exact Scene.foldl_take_eq apart (fun entry member => List.mem_map_of_mem member) amongRight
        same
    exact ⟨congrArg Scene.store ends, congrArg Scene.flights ends⟩

end System

namespace Sample

/-- What a worker found out about the second changeset. -/
def merged : Changeset where
  id := ⟨8⟩
  repoId := ⟨2⟩
  codeHost := .github
  externalState := some .merged
  publication := .published
  queueState := .completed
  createdAt := instant 0
  updatedAt := instant 30

/-- The turns of an attempt with one renewal, at times of its own. -/
def working (start : Nat) (answers : HostReply) : List Turn :=
  (List.range 5).map (fun question => .ask (instant (start + question)) {} answers) ++
    [.conclude (instant (start + 5)) {}]

/-- The second attempt begins when the first one is done. -/
def inSequence : List (Nat × Turn) :=
  (working 10 reply).map (0, ·) ++
    (working 12 { reply with request := .error .rateLimited }).map (1, ·)

/-- The attempts take turns, the second one first. -/
def alternating : List (Nat × Turn) :=
  ((working 12 { reply with request := .error .rateLimited }).zip (working 10 reply)).flatMap
    fun (second, first) => [(1, second), (0, first)]

end Sample

open Sample in
/-- One attempt renews its lease while the other one writes back. In either schedule, one attempt
completes its changeset and the other one fails. -/
theorem System.workers_independent_alternating :
    let both := (start [] (instant 0)).run begun
    let renewal := LeaseCall.renew ⟨⟨7⟩, "w", leaseToken 0, instant 60⟩ (instant 30) (.ofSeconds 60)
    let release := LeaseCall.finish ⟨⟨8⟩, "w", leaseToken 1, instant 60⟩ merged
    (release.perform (renewal.perform both.store).2).2 =
        (renewal.perform (release.perform both.store).2).2 ∧
      (both.run (events inSequence)).store = (both.run (events alternating)).store ∧
      ((both.run (events alternating)).store.changesets.rows.map (·.queueState)) =
        [.completed, .errored] ∧
      (both.run (events alternating)).store.leases = ∅ := by
  intro both renewal release
  have first : both.scene.changesetId? 0 = some ⟨7⟩ := by decide +kernel
  have second : both.scene.changesetId? 1 = some ⟨8⟩ := by decide +kernel
  have two : ∀ entry ∈ inSequence ++ alternating, entry.1 = 0 ∨ entry.1 = 1 := by decide
  have apart : both.scene.Apart (inSequence.map Prod.fst) := by
    intro number member other otherMember different id about same
    obtain ⟨entry, listed, rfl⟩ := List.mem_map.mp member
    obtain ⟨next, listedToo, rfl⟩ := List.mem_map.mp otherMember
    rcases two entry (List.mem_append_left _ listed) with here | here <;>
      rcases two next (List.mem_append_left _ listedToo) with there | there <;>
      rw [here] at about different <;> rw [there] at same different
    · exact different rfl
    · cases (about.symm.trans first).symm.trans (same.symm.trans second)
    · cases (about.symm.trans second).symm.trans (same.symm.trans first)
    · exact different rfl
  have turns : ∀ number, Scene.turnsOf number inSequence = Scene.turnsOf number alternating := by
    intro number
    by_cases zero : number = 0
    · cases zero
      rfl
    · by_cases one : number = 1
      · cases one
        rfl
      · have nobody : ∀ entry ∈ inSequence ++ alternating, entry.1 ≠ number := by
          intro entry member same
          exact (two entry member).elim (zero ∘ same.symm.trans) (one ∘ same.symm.trans)
        rw [Scene.turnsOf_eq_nil_iff.mpr fun entry member =>
            nobody entry (List.mem_append_left _ member),
          Scene.turnsOf_eq_nil_iff.mpr fun entry member =>
            nobody entry (List.mem_append_right _ member)]
  exact ⟨(workers_independent.1 both.store renewal release (by decide)).2.2,
    (workers_independent.2 both inSequence alternating (by decide +kernel) apart turns).1,
    by decide +kernel, by decide +kernel⟩

end BatchChanges
