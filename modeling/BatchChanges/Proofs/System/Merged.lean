import BatchChanges.Proofs.Attempt.Remaining
import BatchChanges.Proofs.System.OneWay
import BatchChanges.Proofs.System.Sequential

/-! # Pull requests that were merged

That a pull request was merged is looked at when a plan is made, and not again before the plan is
done. An attempt that hears of it on its way goes on with what is left of its plan, which is little:
the text may still be sent after the draft, and the branch after either. Once an attempt has written
back that the pull request was merged, no later attempt asks the code host anything.
-/

namespace BatchChanges

namespace System

variable {system : System} {event : Event} {number : Nat} {id : ChangesetId}
  {operations : List Operation}

/-- An attempt asks this of the code host, which answers that the pull request is in a state. -/
def Hears (number : Nat) (asked : HostRequest) (state : HostState) (system : System)
    (event : Event) : Prop :=
  ∃ settings reply flight repo resume view, event = .ask number settings reply ∧
    system.flights number = some flight ∧ flight.attempt.next = .ask (.request repo asked) resume ∧
    reply.request = .ok view ∧ view.state = state

/-- An attempt that has settled writes its outcome back, and its lease still stands. -/
def WritesBack (number : Nat) (system : System) (event : Event) : Prop :=
  ∃ policy flight failure outcome next, event = .conclude number policy ∧
    system.flights number = some flight ∧ flight.attempt.next = .settled failure ∧
    flight.attempt.row.settled? policy failure system.now = some outcome ∧
    system.store.finish flight.attempt.lease outcome = (.applied, next) ∧
    (system.step event).store = next

private theorem hears_of_stage {settings : Settings} {reply : HostReply} {flight : Flight}
    {repo : Repo} {operation : Operation} {asked : HostRequest} {rest : List Operation}
    {view : PullRequest} {state : HostState} (under : system.flights number = some flight)
    (stage : flight.attempt.stage = .acting repo operation (.request asked) rest)
    (replied : reply.request = .ok view) (told : view.state = state) :
    system.Hears number asked state (.ask number settings reply) := by
  obtain ⟨resume, asks⟩ := Attempt.asks_of_acting stage
  exact ⟨settings, reply, flight, repo, resume, view, rfl, under, asks, replied, told⟩

/-- An attempt that hears of its pull request gets on with what comes after the operation. -/
theorem Hears.acts {asked : HostRequest} {state : HostState} (sound : system.Sound)
    (hears : system.Hears number asked state event) :
    ∃ flight repo operation rest view told, system.flights number = some flight ∧
      flight.attempt.stage = .acting repo operation (.request asked) rest ∧ view.state = state ∧
      number < (system.step event).tokens ∧
      (system.step event).flights number = some ⟨flight.claimed, Attempt.proceed
        { flight.attempt with row := operation.answered view flight.attempt.row } repo rest,
        told⟩ := by
  obtain ⟨settings, reply, flight, repo, resume, view, rfl, under, asks, replied, same⟩ := hears
  have old := Nat.lt_of_lt_of_le (sound.flight under).number_lt
    (System.transition sound.numbered (.ask number settings reply)).tokens_le
  obtain ⟨here, operation, effect, rest, stage, question⟩ := Attempt.acting_of_asksHost asks rfl
  cases effect with
  | push branch => cases question
  | pause => cases question
  | request other =>
    cases question
    exact ⟨flight, repo, operation, rest, view, _, under, stage, same, old,
      flights_of_answered settings under stage replied⟩

/-- Whether an attempt that has settled without failure writes its outcome back, under its lease. -/
def writesBack (number : Nat) (policy : RetryPolicy) (system : System) : Bool :=
  (system.flights number).any fun flight =>
    let (verdict, next) := system.store.finish flight.attempt.lease
      (flight.attempt.row.completed system.now)
    flight.attempt.stage == .settled none && verdict == .applied &&
      (system.step (.conclude number policy)).store == next

private theorem writesBack_of_eq_true {policy : RetryPolicy}
    (writes : system.writesBack number policy = true) :
    system.WritesBack number (.conclude number policy) := by
  obtain ⟨flight, under, met⟩ := (Option.any_eq_true ..).mp writes
  simp only [Bool.and_eq_true, beq_iff_eq] at met
  obtain ⟨⟨stopped, applied⟩, stored⟩ := met
  exact ⟨policy, flight, none, _, _, rfl, under, Attempt.next_eq_settled_iff.mpr stopped, rfl,
    Prod.ext applied rfl, stored⟩

/-- The attempt of a number has at most some operations before it, if it is still under way. -/
structure Narrowed (number : Nat) (operations : List Operation) (system : System) : Prop where
  old : number < system.tokens
  within {flight : Flight} (under : system.flights number = some flight) :
    flight.attempt.stage.Within operations

private theorem Narrowed.step (narrowed : system.Narrowed number operations) (sound : system.Sound)
    (event : Event) : (system.step event).Narrowed number operations := by
  have happens := System.transition sound.numbered event
  refine ⟨Nat.lt_of_lt_of_le narrowed.old happens.tokens_le, ?_⟩
  intro flight under
  cases happens.flies under with
  | stays before => exact narrowed.within before
  | asked happened before asks moves answered deliveries same =>
    subst same
    exact moves.within (narrowed.within before)
  | claimed happened new below found begins stored leased =>
    exact absurd new (Nat.ne_of_lt narrowed.old)

private theorem Narrowed.run (narrowed : system.Narrowed number operations) (sound : system.Sound)
    (events : List Event) : (system.run events).Narrowed number operations :=
  sound.keeps (Narrowed number operations) narrowed events fun sound event narrowed =>
    narrowed.step sound event

/-- Once an attempt has heard of its pull request, it has a later part of its plan before it. -/
theorem narrowed_of_hears {asked : HostRequest} {state : HostState} (sound : system.Sound)
    (hears : system.Hears number asked state event) :
    ∃ flight operation rest, system.flights number = some flight ∧
      (∃ previous current plan run,
        Plan.Decides previous current flight.claimed plan ∧
        plan.operations = run ++ operation :: rest) ∧
      (∃ branch, operation.Performs branch flight.attempt.row (.request asked)) ∧
      (system.step event).Narrowed number rest := by
  obtain ⟨flight, repo, operation, rest, view, told, under, stage, -, old, later⟩ := hears.acts sound
  have left : (system.step event).Narrowed number rest := by
    refine ⟨old, ?_⟩
    intro after flying
    rw [later] at flying
    cases flying
    exact Attempt.within_proceed _ _ (List.suffix_refl _)
  cases (sound.flight under).course with
  | planned follows between acts =>
    have performs := Operation.performs_of_effect (acts stage)
    rw [stage] at between
    cases between
    exact ⟨flight, operation, rest, under, ⟨_, _, _, _, Plan.decides_of_between follows.planned,
      follows.split⟩, ⟨_, performs⟩, left⟩
  | _ => cases stage

/-- The attempt of a number is on a changeset and knows its pull request to be merged, if it is
still under way. -/
structure KnowsMerged (number : Nat) (id : ChangesetId) (system : System) : Prop where
  old : number < system.tokens
  known {flight : Flight} (under : system.flights number = some flight) :
    flight.claimed.id = id ∧ flight.attempt.row.externalState = some .merged

/-- It knows so until it hears of another state. -/
theorem KnowsMerged.step (knows : system.KnowsMerged number id) (sound : system.Sound)
    (still : ∀ asked state, system.Hears number asked state event → state = .merged) :
    (system.step event).KnowsMerged number id := by
  have happens := System.transition sound.numbered event
  refine ⟨Nat.lt_of_lt_of_le knows.old happens.tokens_le, ?_⟩
  intro flight under
  cases happens.flies under with
  | stays before => exact knows.known before
  | @asked before settings reply question answer attempt happened flying asks moves answered
      deliveries same =>
    subst same
    obtain ⟨here, merged⟩ := knows.known flying
    refine ⟨here, ?_⟩
    rcases moves.externalState with kept | ⟨view, said, heard⟩
    · exact kept.trans merged
    · obtain ⟨resume, asks⟩ := asks
      obtain ⟨repo, asked, rfl, replied⟩ := answered.view? said
      rw [heard, still asked view.state
        ⟨settings, reply, before, repo, resume, view, happened, flying, asks, replied, rfl⟩]
  | claimed happened new below found begins stored leased =>
    exact absurd new (Nat.ne_of_lt knows.old)

private theorem knowsMerged_of_hears {asked : HostRequest} {flight : Flight} (sound : system.Sound)
    (under : system.flights number = some flight)
    (hears : system.Hears number asked .merged event) :
    (system.step event).KnowsMerged number flight.claimed.id := by
  obtain ⟨before, repo, operation, rest, view, told, present, -, merged, old, later⟩ :=
    hears.acts sound
  rw [under] at present
  cases present
  refine ⟨old, ?_⟩
  intro after flying
  rw [later] at flying
  cases flying
  refine ⟨rfl, ?_⟩
  rw [Attempt.row_proceed]
  exact (Attempt.externalState_mark operation _).trans (congrArg some merged)

private theorem KnowsMerged.recorded (knows : system.KnowsMerged number id) (sound : system.Sound)
    (writes : system.WritesBack number event) :
    ∃ row, (system.step event).store.changesets.find? id = some row ∧
      row.externalState = some .merged := by
  obtain ⟨policy, flight, failure, outcome, next, rfl, under, stopped, settled, finished, stored⟩ :=
    writes
  obtain ⟨rfl, merged⟩ := knows.known under
  obtain ⟨record, leased, token⟩ := Store.holds_of_finish_applied (congrArg Prod.fst finished)
  rw [Store.finish_of_record leased token, (sound.flight under).changesetId] at finished
  rw [stored]
  split at finished
  · cases finished
  · cases finished
    refine ⟨_, by rw [Table.find?_insert, if_pos rfl], ?_⟩
    exact (congrArg (·.2.1.2) (Changeset.unedited_of_settled settled)).trans merged

/-- No attempt that begins after a changeset was recorded as merged asks the code host. -/
theorem silent_since_merged {row : Changeset} (sound : system.Sound)
    (guards : Guards Changeset.sight system)
    (found : system.store.changesets.find? id = some row)
    (merged : row.externalState = some .merged) (events : List Event) {flight : Flight}
    {question : Question} {resume : question.Answer → Attempt}
    (under : (system.run events).flights number = some flight) (here : flight.claimed.id = id)
    (new : system.tokens ≤ number) (asks : flight.attempt.next = .ask question resume) :
    question.asksHost = false := by
  have since : system.Since id row system.tokens := by
    refine ⟨(sound.numbered.changesets found).2.2, Nat.le_refl _, ?_, ?_⟩
    · intro later present
      rw [found] at present
      cases present
      exact .refl row
    · intro other flight flying later
      exact absurd (sound.flight flying).number_lt (Nat.not_lt.mpr later)
  have advances := (since.run sound guards events).claimed under new here
  refine ((sound.run events).flight under).course.silent_of_merged ?_ asks
  rw [Changeset.isMerged, advances.merged merged]
  rfl

/-- In every run that starts with the empty store, whatever failures of the store lie ahead: the
code host answers a request of an attempt that the pull request was merged. From then on the attempt
asks the code host to change something only if its plan asks for it after the request: to edit the
pull request or push its branch after it was to be ready, and to push its branch after it was to be
edited. If it hears of no other state before its write-back, and its lease stands then, no attempt
that begins later on the changeset asks the code host anything. -/
theorem merged_ends_requests (faults : List Fault) (now : Time) (before after : List Event)
    (event : Event) (number : Nat) (asked : HostRequest) (flight : Flight)
    (under : ((start faults now).run before).flights number = some flight)
    (merged : ((start faults now).run before).Hears number asked .merged event) :
    (∀ later question (resume : question.Answer → Attempt),
      ((start faults now).run (before ++ event :: after)).flights number = some later →
      later.attempt.next = .ask question resume → question.changesHost = true →
      asked.Precedes question) ∧
    ∀ between writing rest, after = between ++ writing :: rest →
      ((start faults now).run (before ++ [event])).Along (fun system event => ∀ asked state,
        system.Hears number asked state event → state = .merged) between →
      ((start faults now).run (before ++ event :: between)).WritesBack number writing →
      ∀ other later question (resume : question.Answer → Attempt),
        ((start faults now).run (before ++ event :: after)).flights other = some later →
        later.claimed.id = flight.claimed.id →
        ((start faults now).run (before ++ event :: (between ++ [writing]))).tokens ≤ other →
        later.attempt.next = .ask question resume → question.asksHost = false := by
  have sound := (sound_start faults now).run before
  have soundNext := sound.step event
  constructor
  · intro later question resume flying asks changes
    obtain ⟨first, operation, rest, -, ⟨previous, current, plan, run, decides, split⟩,
      ⟨branch, performs⟩, narrowed⟩ := narrowed_of_hears sound merged
    obtain ⟨repo, second, effect, left, stage, rfl⟩ :=
      Attempt.acting_of_asksHost asks (Question.asksHost_of_changesHost changes)
    rw [run_append, run_cons] at flying
    have within := (narrowed.run soundNext after).within flying
    have course := ((soundNext.run after).flight flying).course
    rw [stage] at within
    cases within with
    | acting suffix =>
      have member : second ∈ rest := suffix.subset List.mem_cons_self
      cases course with
      | planned follows between acts =>
        exact decides.precedes split member performs (Operation.performs_of_effect (acts stage))
          changes
      | _ => cases stage
  · rintro between writing rest rfl still writes other later question resume flying here new asks
    rw [run_append, run_cons, run_nil] at still
    rw [run_append, run_cons] at writes
    rw [run_append, run_cons, run_append, run_cons, run_nil] at new
    have knows := still.keeps soundNext (fun sound still knows => knows.step sound still)
      (knowsMerged_of_hears sound under merged)
    have soundLast := soundNext.run between
    obtain ⟨row, found, recorded⟩ := knows.recorded soundLast writes
    have guards := (guards_start faults now).run (sound_start faults now)
      (before ++ event :: (between ++ [writing]))
    rw [run_append, run_cons, run_append, run_cons, run_nil] at guards
    rw [run_append, run_cons, run_append, run_cons] at flying
    exact silent_since_merged (soundLast.step writing) guards found recorded rest flying here new
      asks

end System

-- The second generation wants the draft ready, with another text and another commit.
namespace Sample

/-- A code host that says of every pull request that it was merged. -/
def mergedReply : HostReply :=
  { reply with request := .ok ⟨"101", "tidy", .merged, "", none, instant 0⟩ }

/-- The first generation is a draft; the attempt on the second one is about to make it ready. -/
def undrafting : List Event :=
  [.putRepo repo, .addCampaignSpec (campaignSpec "a"),
    .addChangesetSpec { spec 1 "a" "a" with
      target := .branchPush { push "a" "a" with published := .draft } },
    .addCampaignSpec (campaignSpec "b"), .addChangesetSpec (spec 3 "b" "b"),
    .addCampaignSpec (campaignSpec "c"), .addChangesetSpec (spec 5 "c" "c")] ++
    apply "a" ++ attempt 0 4 ++ [.ask 0 {} { reply with
      request := .ok ⟨"101", "tidy", .draft, "", none, instant 0⟩ }, .conclude 0 {}] ++
    apply "b" ++ attempt 1 3

/-- What the code host says when the pull request is to be made ready. -/
def hearing : Event := .ask 1 {} mergedReply

/-- The rest of the plan up to the write-back. -/
def goingOn (answers : HostReply) : List Event := List.replicate 8 (.ask 1 {} answers)

/-- The third generation is applied, and an attempt on it has some of its questions answered. -/
def movingPast (questions : Nat) : List Event := apply "c" ++ attempt 2 questions

end Sample

namespace System

/-- An attempt on a changeset is under way and asks the code host to change something. -/
def Intervenes (system : System) (number : Nat) (id : ChangesetId) : Prop :=
  ∃ (flight : Flight) (question : Question) (resume : question.Answer → Attempt),
    system.flights number = some flight ∧ flight.claimed.id = id ∧
    flight.attempt.next = .ask question resume ∧ question.changesHost = true

private theorem intervenes_of_stage {system : System} {number : Nat} {flight : Flight} {repo : Repo}
    {operation : Operation} {effect : Effect} {rest : List Operation}
    (under : system.flights number = some flight)
    (stage : flight.attempt.stage = .acting repo operation effect rest)
    (changes : (effect.question repo).changesHost = true) :
    system.Intervenes number flight.claimed.id := by
  obtain ⟨resume, asks⟩ := Attempt.asks_of_acting stage
  exact ⟨flight, effect.question repo, resume, under, rfl, asks, changes⟩

end System

open Sample in
/-- The pull request was merged when it should become ready. Its text is edited all the same, and if
it stays merged, the attempt on the third generation leaves it alone. -/
theorem System.merged_ends_requests_undrafting :
    ((start [] (instant 0)).run undrafting).Hears 1 (.undraft "101") .merged hearing ∧
    (∃ (later : Flight) (question : Question) (resume : question.Answer → Attempt),
      ((start [] (instant 0)).run (undrafting ++ hearing :: [hearing])).flights 1 = some later ∧
      later.attempt.next = .ask question resume ∧ question.changesHost = true ∧
      HostRequest.Precedes (.undraft "101") question) ∧
    ∃ (later : Flight) (question : Question) (resume : question.Answer → Attempt),
      ((start [] (instant 0)).run (undrafting ++ hearing ::
        (goingOn mergedReply ++ .conclude 1 {} :: movingPast 0))).flights 2 = some later ∧
      later.attempt.next = .ask question resume ∧ question.asksHost = false := by
  obtain ⟨flight, under, known⟩ := Option.map_eq_some_iff.mp (show
    (((start [] (instant 0)).run undrafting).flights 1).map
      (fun flight => (flight.attempt.stage, flight.claimed.id)) =
      some (.acting repo .undraft (.request (.undraft "101")) [.update, .push, .sleep, .sync], ⟨8⟩)
    by decide +kernel)
  simp only [Prod.mk.injEq] at known
  obtain ⟨stage, here⟩ := known
  have hears : ((start [] (instant 0)).run undrafting).Hears 1 (.undraft "101") .merged hearing :=
    hears_of_stage under stage rfl rfl
  refine ⟨hears, ?_, ?_⟩
  · obtain ⟨later, flying, edits⟩ := Option.map_eq_some_iff.mp (show
      (((start [] (instant 0)).run (undrafting ++ hearing :: [hearing])).flights 1).map
        (·.attempt.stage) =
        some (.acting repo .update (.request (.update "101" (push "b" "b"))) [.push, .sleep, .sync])
      by decide +kernel)
    obtain ⟨later, question, resume, flying, -, asks, changes⟩ :=
      intervenes_of_stage flying edits rfl
    exact ⟨later, question, resume, flying, asks, changes,
      (merged_ends_requests [] (instant 0) undrafting [hearing] hearing 1 (.undraft "101") flight
        under hears).1 later question resume flying asks changes⟩
  · obtain ⟨later, flying, reads⟩ := Option.map_eq_some_iff.mp (show
      (((start [] (instant 0)).run (undrafting ++ hearing ::
        (goingOn mergedReply ++ .conclude 1 {} :: movingPast 0))).flights 2).map
        (fun flight => (flight.attempt.stage, flight.claimed.id)) =
        some (.readingPrevious ⟨4⟩, ⟨8⟩) by decide +kernel)
    simp only [Prod.mk.injEq] at reads
    obtain ⟨reading, there⟩ := reads
    obtain ⟨question, resume, asks⟩ : ∃ (question : Question) (resume : question.Answer → Attempt),
        later.attempt.next = .ask question resume := by
      simp only [Attempt.next, reading]
      exact ⟨_, _, rfl⟩
    have still : ((start [] (instant 0)).run (undrafting ++ [hearing])).Along
        (fun system event => ∀ asked state, system.Hears 1 asked state event → state = .merged)
        (goingOn mergedReply) := by
      refine along_of_mem fun event member => ?_
      rw [List.eq_of_mem_replicate member]
      rintro system asked state ⟨settings, reply, flight, repo, resume, view, ⟨⟩, -, -, ⟨⟩, rfl⟩
      rfl
    have writes : ((start [] (instant 0)).run (undrafting ++ hearing ::
        goingOn mergedReply)).WritesBack 1 (.conclude 1 {}) :=
      writesBack_of_eq_true (by decide +kernel)
    exact ⟨later, question, resume, flying, asks,
      (merged_ends_requests [] (instant 0) undrafting _ hearing 1 (.undraft "101") flight under
        hears).2 (goingOn mergedReply) (.conclude 1 {}) (movingPast 0) rfl still writes 2 later
        question resume flying (there.trans here.symm) (by decide +kernel) asks⟩

open Sample in
/-- The text of a pull request is edited right after the code host has said that it was merged. If
the code host then says that it is open, the attempt on the third generation edits it again. -/
theorem System.merged_pull_request_edited :
    ((start [] (instant 0)).run undrafting).Hears 1 (.undraft "101") .merged hearing ∧
    ((start [] (instant 0)).run (undrafting ++ hearing :: [hearing])).Intervenes 1 ⟨8⟩ ∧
    ((start [] (instant 0)).run (undrafting ++ hearing :: goingOn reply)).WritesBack 1
      (.conclude 1 {}) ∧
    ((start [] (instant 0)).run (undrafting ++ hearing ::
      (goingOn reply ++ .conclude 1 {} :: movingPast 3))).Intervenes 2 ⟨8⟩ := by
  have intervenes : ∀ {events : List Event} {number : Nat} {repo : Repo} {operation : Operation}
      {effect : Effect} {rest : List Operation},
      (((start [] (instant 0)).run events).flights number).map
        (fun flight => (flight.attempt.stage, flight.claimed.id)) =
        some (.acting repo operation effect rest, ⟨8⟩) →
      (effect.question repo).changesHost = true →
      ((start [] (instant 0)).run events).Intervenes number ⟨8⟩ := by
    intro events number repo operation effect rest acts changes
    obtain ⟨flight, under, known⟩ := Option.map_eq_some_iff.mp acts
    simp only [Prod.mk.injEq] at known
    exact known.2 ▸ intervenes_of_stage under known.1 changes
  obtain ⟨flight, under, stage⟩ := Option.map_eq_some_iff.mp (show
    (((start [] (instant 0)).run undrafting).flights 1).map (·.attempt.stage) =
      some (.acting repo .undraft (.request (.undraft "101")) [.update, .push, .sleep, .sync])
    by decide +kernel)
  have edits : (((start [] (instant 0)).run (undrafting ++ hearing :: [hearing])).flights 1).map
      (fun flight => (flight.attempt.stage, flight.claimed.id)) =
      some (.acting repo .update (.request (.update "101" (push "b" "b")))
        [.push, .sleep, .sync], ⟨8⟩) := by decide +kernel
  have editsAgain : (((start [] (instant 0)).run (undrafting ++ hearing ::
      (goingOn reply ++ .conclude 1 {} :: movingPast 3))).flights 2).map
      (fun flight => (flight.attempt.stage, flight.claimed.id)) =
      some (.acting repo .update (.request (.update "101" (push "c" "c")))
        [.push, .sleep, .sync], ⟨8⟩) := by decide +kernel
  exact ⟨hears_of_stage under stage rfl rfl, intervenes edits rfl,
    writesBack_of_eq_true (by decide +kernel), intervenes editsAgain rfl⟩

end BatchChanges
