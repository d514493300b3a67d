import BatchChanges.Proofs.Action
import BatchChanges.Proofs.Attempt.Plan

/-! # What a worker does to carry a plan out

Carrying a plan out consists of duties: the operations, and a renewal of the lease before each but
the first. A worker fulfils one after the other, and does nothing more once one has failed. What
it has done is told by its log, in which every entry is an actual call, made in the world that the
calls before it left behind. What the worker knows of the changeset is the claimed row with the
answers of the successful operations written into it, in their order.
-/

namespace BatchChanges

/-- What a successful operation brings in from outside. -/
inductive Reply where
  | nothing
  | pushed (branch : BranchPush)
  | view (view : PullRequest)
deriving DecidableEq

def Operation.recorded (operation : Operation) (row : Changeset) : Reply → Changeset
  | .nothing => operation.mark row
  | .pushed branch => Operation.pushed branch row
  | .view view => operation.answered view row

/-- What is to be done to carry a plan out. -/
inductive Duty where
  /-- Renew the lease before an operation. -/
  | renewal (next : Operation)
  | run (operation : Operation)
deriving DecidableEq

namespace Duty

def renewed (operation : Operation) : List Duty := [.renewal operation, .run operation]

/-- The duties of a plan: its operations, with a renewal before each but the first. -/
def schedule : List Operation → List Duty
  | [] => []
  | first :: rest => .run first :: rest.flatMap renewed

def operation? : Duty → Option Operation
  | .renewal _ => none
  | .run operation => some operation

private theorem filterMap_renewed (operations : List Operation) :
    (operations.flatMap renewed).filterMap operation? = operations := by
  induction operations with
  | nil => rfl
  | cons first rest ih => exact congrArg (first :: ·) ih

private theorem filterMap_schedule (operations : List Operation) :
    (schedule operations).filterMap operation? = operations := by
  cases operations with
  | nil => rfl
  | cons first rest => exact congrArg (first :: ·) (filterMap_renewed rest)

variable {operation : Operation} {operations : List Operation} {before after : List Duty}

private theorem renewal_of_renewed
    (split : operations.flatMap renewed = before ++ .run operation :: after) :
    ∃ earlier, before = earlier ++ [.renewal operation] := by
  induction operations generalizing before with
  | nil => cases before <;> cases split
  | cons next rest ih =>
    rcases before with _ | ⟨renewal, _ | ⟨run, before⟩⟩
    · cases split
    · cases split
      exact ⟨[], rfl⟩
    · simp only [List.flatMap_cons, renewed, List.cons_append, List.nil_append,
        List.cons.injEq] at split
      obtain ⟨earlier, rfl⟩ := ih split.2.2
      exact ⟨renewal :: run :: earlier, rfl⟩

/-- Directly before an operation that is not the first one, the lease is renewed for it. -/
theorem renewal_of_schedule (split : schedule operations = before ++ .run operation :: after)
    (later : before ≠ []) : ∃ earlier, before = earlier ++ [.renewal operation] := by
  cases operations with
  | nil => cases before <;> cases split
  | cons first rest =>
    cases before with
    | nil => exact absurd rfl later
    | cons duty before =>
      obtain ⟨earlier, rfl⟩ := renewal_of_renewed (List.cons.inj split).2
      exact ⟨duty :: earlier, rfl⟩

end Duty

/-- A duty that a worker has set about, and how that ended. -/
structure Deed where
  duty : Duty
  result : Except ReconcileError Reply

namespace Deed

def error? (deed : Deed) : Option ReconcileError :=
  match deed.result with
  | .ok _ => none
  | .error error => some error

def record (row : Changeset) (deed : Deed) : Changeset :=
  match deed.duty, deed.result with
  | .run operation, .ok reply => operation.recorded row reply
  | _, _ => row

end Deed

section Logs

variable {σ : Type} (host : Host σ) (settings : Settings) (repo : Repo) (push : Option BranchPush)

/-- How an operation ends on a row: it misses something that it needs, it has nothing to do, the
code host takes or refuses what it is asked, or some time passes. -/
inductive Operation.Ends (operation : Operation) (row : Changeset) (world : World σ) :
    Except ReconcileError Reply → World σ → Prop
  | unfit {error : ReconcileError} (misses : operation.effect push row = .error error) :
      Ends operation row world (.error error) world
  | idle (rests : operation.effect push row = .ok none) :
      Ends operation row world (.ok .nothing) world
  | pushed {branch : BranchPush} {next : World σ}
      (acts : operation.effect push row = .ok (some (.push branch)))
      (asked : (host.push repo branch).Ends world (.ok ()) next) :
      Ends operation row world (.ok (.pushed branch)) next
  | unpushed {branch : BranchPush} {error : HostError} {next : World σ}
      (acts : operation.effect push row = .ok (some (.push branch)))
      (asked : (host.push repo branch).Ends world (.error (.failed error)) next) :
      Ends operation row world (.error (.host operation error)) next
  | told {request : HostRequest} {view : PullRequest} {next : World σ}
      (acts : operation.effect push row = .ok (some (.request request)))
      (asked : (host.request repo request).Ends world (.ok view) next) :
      Ends operation row world (.ok (.view view)) next
  | refused {request : HostRequest} {error : HostError} {next : World σ}
      (acts : operation.effect push row = .ok (some (.request request)))
      (asked : (host.request repo request).Ends world (.error (.failed error)) next) :
      Ends operation row world (.error (.host operation error)) next
  | slept {next : World σ} (acts : operation.effect push row = .ok (some .pause))
      (waited : Action.Ends (Action.sleep settings.sleepAfterPush : Action σ ReconcileError Unit)
        world (.ok ()) next) :
      Ends operation row world (.ok .nothing) next

/-- How a duty ends: the store takes or refuses a renewal of the lease, or fails; or an operation
ends. -/
inductive Duty.Ends (row : Changeset) (lease : Lease) (world : World σ) :
    Duty → Except ReconcileError Reply → Lease → World σ → Prop
  | renewed {next : Operation} {renewed : Lease} {after : World σ}
      (asked : Action.Ends (Action.timedAccess
        (Access.renew lease world.clock.now settings.leaseDuration)) world
        (.ok (.applied, renewed)) after) :
      Ends row lease world (.renewal next) (.ok .nothing) renewed after
  | lost {next : Operation} {verdict : Verdict} {told : Lease} {after : World σ}
      (asked : Action.Ends (Action.timedAccess
        (Access.renew lease world.clock.now settings.leaseDuration)) world
        (.ok (verdict, told)) after)
      (refused : verdict ≠ .applied) :
      Ends row lease world (.renewal next) (.error (.leaseLost lease.changesetId next)) lease after
  | failed {next : Operation} {error : StoreError} {after : World σ}
      (asked : Action.Ends (Action.timedAccess
        (Access.renew lease world.clock.now settings.leaseDuration)) world
        (.error (.failed error)) after) :
      Ends row lease world (.renewal next) (.error (.store error)) lease after
  | run {operation : Operation} {result : Except ReconcileError Reply} {after : World σ}
      (ended : operation.Ends host settings repo push row world result after) :
      Ends row lease world (.run operation) result lease after

/-- One deed after the other, each in the world that the one before it left behind. -/
inductive Log : Changeset → Lease → World σ → List Deed → Lease → World σ → Prop
  | nothing {row : Changeset} {lease : Lease} {world : World σ} : Log row lease world [] lease world
  | entry {row : Changeset} {lease renewed last : Lease} {world middle ended : World σ}
      {deed : Deed} {later : List Deed}
      (done : deed.duty.Ends host settings repo push row lease world deed.result renewed middle)
      (rest : Log (deed.record row) renewed middle later last ended) :
      Log row lease world (deed :: later) last ended

/-- The first of some duties are seen to, up to the one that fails or to the last. -/
structure Carried (duties : List Duty) (row : Changeset) (lease : Lease) (world : World σ)
    (log : List Deed) (failure : Option ReconcileError) (last : Lease) (ended : World σ) :
    Prop where
  happened : Log host settings repo push row lease world log last ended
  scheduled : log.map Deed.duty <+: duties
  /-- Nothing is done after a failure. -/
  stops : log.Pairwise fun earlier _ => earlier.error? = none
  cause : failure = log.findSome? Deed.error?
  /-- Without a failure all is done. -/
  finished : failure = none → log.map Deed.duty = duties

end Logs

namespace Carried

variable {σ : Type} {host : Host σ} {settings : Settings} {repo : Repo} {push : Option BranchPush}
  {duty : Duty} {duties : List Duty} {row : Changeset} {lease renewed last : Lease}
  {world middle ended : World σ} {log : List Deed} {failure : Option ReconcileError}

private theorem nothing :
    Carried host settings repo push [] row lease world [] none lease world where
  happened := .nothing
  scheduled := List.prefix_rfl
  stops := .nil
  cause := rfl
  finished _ := rfl

private theorem cons {reply : Reply}
    (done : duty.Ends host settings repo push row lease world (.ok reply) renewed middle)
    (rest : Carried host settings repo push duties (Deed.record row ⟨duty, .ok reply⟩) renewed
      middle log failure last ended) :
    Carried host settings repo push (duty :: duties) row lease world (⟨duty, .ok reply⟩ :: log)
      failure last ended where
  happened := .entry done rest.happened
  scheduled := List.prefix_cons_inj duty |>.mpr rest.scheduled
  stops := .cons (fun _ _ => rfl) rest.stops
  cause := rest.cause
  finished none := congrArg (duty :: ·) (rest.finished none)

private theorem stop {error : ReconcileError}
    (done : duty.Ends host settings repo push row lease world (.error error) renewed middle) :
    Carried host settings repo push (duty :: duties) row lease world [⟨duty, .error error⟩]
      (some error) renewed middle where
  happened := .entry done .nothing
  scheduled := ⟨duties, rfl⟩
  stops := List.pairwise_singleton _ _
  cause := rfl
  finished none := by cases none

/-- What is run is a first part of the plan, in its order. -/
theorem ordered {operations : List Operation}
    (carried : Carried host settings repo push (Duty.schedule operations) row lease world log
      failure last ended) : log.filterMap (·.duty.operation?) <+: operations := by
  have first := carried.scheduled.filterMap Duty.operation?
  rwa [List.filterMap_map, Duty.filterMap_schedule] at first

/-- Every operation but the first is run directly after its lease was renewed for it. -/
theorem guarded {operations : List Operation} {operation : Operation} {deed : Deed}
    {before after : List Deed}
    (carried : Carried host settings repo push (Duty.schedule operations) row lease world log
      failure last ended) (split : log = before ++ deed :: after) (runs : deed.duty = .run operation)
    (later : before ≠ []) :
    ∃ earlier renewal, before = earlier ++ [renewal] ∧ renewal.duty = .renewal operation ∧
      renewal.error? = none := by
  obtain ⟨left, scheduled⟩ := carried.scheduled
  rw [split, List.map_append, List.map_cons, runs, List.append_assoc, List.cons_append] at scheduled
  obtain ⟨duties, same⟩ :=
    Duty.renewal_of_schedule scheduled.symm (mt List.map_eq_nil_iff.mp later)
  obtain ⟨earlier, rest, rfl, -, last⟩ := List.map_eq_append_iff.mp same
  obtain ⟨renewal, none, rfl, renews, nothing⟩ := List.map_eq_cons_iff.mp last
  cases List.map_eq_nil_iff.mp nothing
  have stops := carried.stops
  rw [split, List.pairwise_append] at stops
  exact ⟨earlier, renewal, rfl, renews,
    stops.2.2 renewal (List.mem_append_right _ List.mem_cons_self) deed List.mem_cons_self⟩

/-- Without a failure nothing has failed. -/
theorem successes
    (carried : Carried host settings repo push duties row lease world log none last ended) :
    ∀ deed ∈ log, deed.error? = none :=
  List.findSome?_eq_none_iff.mp carried.cause.symm

/-- A failure is that of the last deed. -/
theorem failed {error : ReconcileError}
    (carried : Carried host settings repo push duties row lease world log (some error) last ended) :
    ∃ earlier deed, log = earlier ++ [deed] ∧ deed.error? = some error := by
  obtain ⟨earlier, deed, later, split, fails, -⟩ :=
    List.findSome?_eq_some_iff.mp carried.cause.symm
  have stops := carried.stops
  rw [split, List.pairwise_append, List.pairwise_cons] at stops
  cases later with
  | nil => exact ⟨earlier, deed, split, fails⟩
  | cons next later => cases fails.symm.trans (stops.2.1.1 next List.mem_cons_self)

end Carried

namespace Reconcile

variable {σ : Type} {host : Host σ} {settings : Settings} {repo : Repo} {operation : Operation}
  {rest : List Operation} {attempt : Attempt} {world middle ended : World σ}
  {result : Except (Interrupt ReconcileError) (Attempt × Option ReconcileError)}

/-- An attempt that has settled is over. -/
theorem ends_run_settled {failure : Option ReconcileError}
    (stopped : attempt.stage = .settled failure)
    (runs : Action.Ends (run host settings attempt) world result ended) :
    result = .ok (attempt, failure) ∧ ended = world := by
  rw [run_eq, Attempt.next_eq_settled_iff.mpr stopped] at runs
  obtain ⟨same, stays⟩ := Action.ends_pure.mp runs
  exact ⟨same.symm, stays.symm⟩

/-- Any other one goes on with the answer to its question, unless the calendar ends. -/
theorem ends_run_ask {question : Question} {resume : question.Answer → Attempt}
    (asks : attempt.next = .ask question resume)
    (runs : Action.Ends (run host settings attempt) world result ended)
    (timely : result ≠ .error .overflow) :
    ∃ answer middle, Action.Ends (Action.answer host settings question : Action σ ReconcileError _)
        world (.ok answer) middle ∧
      Action.Ends (run host settings (resume answer)) middle result ended := by
  rw [run_eq, asks] at runs
  obtain ⟨answer, middle, answered, goes⟩ | ⟨interrupt, rfl, failed⟩ := Action.ends_bind.mp runs
  · exact ⟨answer, middle, answered, goes⟩
  · exact absurd (congrArg Except.error (Action.interrupt_of_answer failed)) timely

/-- An attempt fulfils duties until it has settled. -/
def Carries (host : Host σ) (settings : Settings) (repo : Repo) (duties : List Duty)
    (attempt : Attempt) (world : World σ)
    (result : Except (Interrupt ReconcileError) (Attempt × Option ReconcileError))
    (ended : World σ) : Prop :=
  ∃ log failure final, result = .ok (final, failure) ∧
    Carried host settings repo attempt.push duties attempt.row attempt.lease world log failure
      final.lease ended ∧
    final.row = log.foldl Deed.record attempt.row ∧ final.planned = attempt.planned

variable {duties : List Duty} {duty : Duty}

private theorem Carries.stop {error : ReconcileError}
    (done : duty.Ends host settings repo attempt.push attempt.row attempt.lease world (.error error)
      attempt.lease middle)
    (runs : Action.Ends (run host settings (attempt.settle (some error))) middle result ended) :
    Carries host settings repo (duty :: duties) attempt world result ended := by
  obtain ⟨rfl, rfl⟩ := ends_run_settled rfl runs
  refine ⟨_, _, _, rfl, .stop done, ?_, rfl⟩
  cases duty <;> rfl

private theorem Carries.cons {reply : Reply} {lease : Lease} {row : Changeset}
    (done : duty.Ends host settings repo attempt.push attempt.row attempt.lease world (.ok reply)
      lease middle)
    (recorded : Deed.record attempt.row ⟨duty, .ok reply⟩ = row)
    (later : Carries host settings repo duties { attempt with row, lease } middle result ended) :
    Carries host settings repo (duty :: duties) attempt world result ended := by
  obtain ⟨log, failure, final, told, carried, known, planned⟩ := later
  subst recorded
  exact ⟨_, failure, final, told, .cons done carried, known, planned⟩

/-- An attempt that goes on with some operations renews its lease before each. -/
def Proceeds (host : Host σ) (settings : Settings) (repo : Repo) (rest : List Operation) : Prop :=
  ∀ {attempt : Attempt} {world ended : World σ}
    {result : Except (Interrupt ReconcileError) (Attempt × Option ReconcileError)},
    Action.Ends (run host settings (attempt.proceed repo rest)) world result ended →
    result ≠ .error .overflow →
    Carries host settings repo (rest.flatMap Duty.renewed) attempt world result ended

/-- What an operation asks is answered by its effect. -/
theorem answer_question (host : Host σ) (settings : Settings) (repo : Repo) (effect : Effect) :
    (Action.answer host settings (effect.question repo) : Action σ ReconcileError _) =
      act host settings.sleepAfterPush repo effect := by
  cases effect <;> rfl

/-- An attempt that begins an operation runs it by itself and goes on with what comes of it. -/
theorem run_begin (host : Host σ) (settings : Settings) (attempt : Attempt) (repo : Repo)
    (operation : Operation) (rest : List Operation) :
    (run host settings (attempt.begin repo operation rest) :
        Action σ ReconcileError (Attempt × Option ReconcileError)) =
      execute host settings.sleepAfterPush operation repo attempt.push attempt.row >>=
          fun (failure, row) =>
        run host settings <| match failure with
          | some failure => attempt.settle (some failure)
          | none => Attempt.proceed { attempt with row } repo rest := by
  simp only [Attempt.begin, execute]
  generalize operation.effect attempt.push attempt.row = sought
  rcases sought with error | _ | effect
  · simp only [pure_bind]
  · simp only [pure_bind]
  · simp only [bind_assoc]
    rw [run_eq]
    simp only [Attempt.next]
    rw [answer_question]
    congr 1
    funext answer
    generalize operation.absorb repo effect attempt.row answer = absorbed
    cases absorbed with
    | error error =>
      simp only [pure_bind]
      rfl
    | ok row =>
      simp only [pure_bind]
      cases rest <;> rfl

/-- An operation by itself ends as any operation of an attempt does, and hands the record of its
deed over. -/
theorem ends_of_execute {push : Option BranchPush} {row : Changeset}
    {told : Except (Interrupt ReconcileError) (Option ReconcileError × Changeset)}
    (ran : Action.Ends (execute host settings.sleepAfterPush operation repo push row) world told
      middle)
    (timely : told ≠ .error .overflow) :
    ∃ deed : Deed, deed.duty = .run operation ∧
      operation.Ends host settings repo push row world deed.result middle ∧
      told = .ok (deed.error?, deed.record row) := by
  simp only [execute] at ran
  split at ran
  · next error misses =>
    obtain ⟨rfl, rfl⟩ := Action.ends_pure.mp ran
    exact ⟨⟨.run operation, .error error⟩, rfl, .unfit misses, rfl⟩
  · next rests =>
    obtain ⟨rfl, rfl⟩ := Action.ends_pure.mp ran
    exact ⟨⟨.run operation, .ok .nothing⟩, rfl, .idle rests, rfl⟩
  · next effect acts =>
    obtain ⟨answer, after, answered, goes⟩ | ⟨interrupt, rfl, failed⟩ := Action.ends_bind.mp ran
    · cases effect with
      | push branch =>
        have asked := Action.ends_attempt.mp answered
        rcases answer with error | ⟨⟨⟩⟩
        · obtain ⟨rfl, rfl⟩ := Action.ends_pure.mp goes
          exact ⟨⟨.run operation, .error (.host operation error)⟩, rfl, .unpushed acts asked, rfl⟩
        · obtain ⟨rfl, rfl⟩ := Action.ends_pure.mp goes
          exact ⟨⟨.run operation, .ok (.pushed branch)⟩, rfl, .pushed acts asked, rfl⟩
      | request request =>
        have asked := Action.ends_attempt.mp answered
        rcases answer with error | view
        · obtain ⟨rfl, rfl⟩ := Action.ends_pure.mp goes
          exact ⟨⟨.run operation, .error (.host operation error)⟩, rfl, .refused acts asked, rfl⟩
        · obtain ⟨rfl, rfl⟩ := Action.ends_pure.mp goes
          exact ⟨⟨.run operation, .ok (.view view)⟩, rfl, .told acts asked, rfl⟩
      | pause =>
        cases Operation.performs_of_effect acts
        obtain ⟨rfl, rfl⟩ := Action.ends_pure.mp goes
        exact ⟨⟨.run .sleep, .ok .nothing⟩, rfl, .slept acts answered, rfl⟩
    · rw [← answer_question] at failed
      exact absurd (congrArg Except.error (Action.interrupt_of_answer failed)) timely

/-- So it does the operation first, and goes on unless it fails. -/
theorem carries_of_begin (proceeds : Proceeds host settings repo rest)
    (runs : Action.Ends (run host settings (attempt.begin repo operation rest)) world result ended)
    (timely : result ≠ .error .overflow) :
    Carries host settings repo (.run operation :: rest.flatMap Duty.renewed) attempt world result
      ended := by
  rw [run_begin] at runs
  obtain ⟨told, middle, ran, goes⟩ | ⟨interrupt, rfl, failed⟩ := Action.ends_bind.mp runs
  · obtain ⟨⟨duty, outcome⟩, rfl, done, same⟩ := ends_of_execute ran (by simp)
    cases same
    cases outcome with
    | error error => exact .stop (.run done) goes
    | ok reply => exact .cons (.run done) rfl (proceeds goes timely)
  · obtain ⟨_, -, -, same⟩ := ends_of_execute failed
      fun same => timely (by rw [Except.error.inj same])
    cases same

/-- It renews its lease first if it goes on with an operation. -/
theorem proceeds (host : Host σ) (settings : Settings) (repo : Repo) (rest : List Operation) :
    Proceeds host settings repo rest := by
  induction rest with
  | nil =>
    intro attempt world ended result runs timely
    obtain ⟨rfl, rfl⟩ := ends_run_settled rfl runs
    exact ⟨_, _, _, rfl, .nothing, rfl, rfl⟩
  | cons operation rest ih =>
    intro attempt world ended result runs timely
    obtain ⟨answer, middle, answered, goes⟩ := ends_run_ask rfl runs timely
    have asked := Action.ends_attempt.mp
      ((Action.answer_renewal host settings attempt.lease world).symm.trans answered)
    rcases answer with error | ⟨_ | _ | _, lease⟩
    · exact .stop (.failed asked) goes
    · exact .cons (.renewed asked) rfl (carries_of_begin ih goes timely)
    · exact .stop (.lost asked (by decide)) goes
    · exact .stop (.lost asked (by decide)) goes

end Reconcile

end BatchChanges
