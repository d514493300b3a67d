import BatchChanges.Proofs.Queue.History

/-! # Leases are exclusive

A lease that was granted keeps its changeset from being claimed again until it is released, by a
write-back under its token or by a reset that is not before its latest expiry. From then on its
token opens nothing any more. Both follow from one invariant: the record that the store has for a
changeset is the one that following the lease through the history predicts (`Store.Tracks`). Each
call keeps it, and so does a whole history.
-/

namespace BatchChanges

namespace QueueEvent

private theorem replay?_eq_some_iff {store next : Store} {event : QueueEvent} :
    event.replay? store = some next ↔ event.call.perform store = (event.reply, next) := by
  simp only [replay?, Prod.ext_iff]
  split <;> simp_all

end QueueEvent

namespace Store

variable {store next : Store} {lease : Lease} {standing : Option Time} {reply : QueueReply}

/-- A claim finds the changeset of a lease that stands under a lease, and gives out a token that is
not this lease's. -/
private theorem tracks_claim {worker token : String} {now : Time} {length : Duration}
    (tracks : store.Tracks lease standing)
    (done : (QueueCall.claim worker token now length).perform store = (reply, next))
    (other : QueueEvent.token? ⟨.claim worker token now length, reply⟩ ≠ some lease.token) :
    next.Tracks lease standing := by
  simp only [QueueCall.perform] at done
  split at done
  · next row granted middle claimed =>
    cases done
    obtain ⟨⟨⟩, -⟩ | ⟨candidate, expiresAt, found, same, rfl⟩ := leaseNext_eq_ok claimed
    cases same
    have free := (candidate?_eq_some found).2.2
    by_cases here : candidate.id = lease.changesetId
    · cases standing with
      | some expiry =>
        obtain ⟨record, held, -⟩ := tracks
        rw [← here, free] at held
        cases held
      | none =>
        rintro ⟨record, held, same⟩
        simp only [Table.find?_insert, here, if_pos] at held
        cases held
        exact other (congrArg some same)
    · exact tracks.congr (by simp [here])
  · next middle claimed =>
    cases done
    obtain ⟨-, rfl⟩ | ⟨_, _, _, ⟨⟩, _⟩ := leaseNext_eq_ok claimed
    exact tracks
  · cases done
    exact tracks

/-- A renewal that is accepted moves the expiry of the lease whose token it shows, and of no other
one. -/
private theorem tracks_renew {presented : Lease} {now : Time} {length : Duration}
    (tracks : store.Tracks lease standing)
    (done : (QueueCall.renew presented now length).perform store = (reply, next)) :
    next.Tracks lease
      (QueueEvent.follow lease standing ⟨.renew presented now length, reply⟩) := by
  have unmoved : ∀ {told : QueueReply}, (∀ renewed, told ≠ .verdict .applied renewed) →
      QueueEvent.follow lease standing ⟨.renew presented now length, told⟩ = standing := by
    intro told refused
    apply QueueEvent.follow_eq_self (fun expiry => rfl)
    intro expiry
    simp only [QueueEvent.expiryAfter]
    split
    · exact absurd rfl (refused _)
    · rfl
  simp only [QueueCall.perform] at done
  split at done
  · next verdict renewed middle answered =>
    cases done
    obtain ⟨refused, -, rfl⟩ | ⟨record, expiresAt, rfl, found, same, rfl, rfl⟩ :=
      renew_eq_ok answered
    · rw [unmoved fun _ told => refused (by cases told; rfl)]
      exact tracks
    · by_cases here : presented.changesetId = lease.changesetId
      · cases standing with
        | some expiry =>
          obtain ⟨held, foundHeld, sameHeld, -⟩ := tracks
          rw [here, foundHeld] at found
          cases found
          have tokens : presented.token = lease.token := same.symm.trans sameHeld
          simp only [QueueEvent.follow, Option.bind_some, QueueEvent.releases, Bool.false_eq_true,
            if_false, QueueEvent.expiryAfter, here, tokens, and_self, if_true]
          exact ⟨{ record with lease := { record.lease with expiresAt } },
            by simp only [Table.find?_insert, if_true], sameHeld, rfl⟩
        | none =>
          rintro ⟨held, foundHeld, sameHeld⟩
          simp only [Table.find?_insert, here, if_true] at foundHeld
          cases foundHeld
          exact tracks ⟨record, here ▸ found, sameHeld⟩
      · have away : QueueEvent.follow lease standing
            ⟨.renew presented now length, .verdict .applied { presented with expiresAt }⟩ =
              standing :=
          QueueEvent.follow_eq_self (fun expiry => rfl) fun expiry => by
            simp [QueueEvent.expiryAfter, here]
        rw [away]
        exact tracks.congr (by simp [here])
  · cases done
    rw [unmoved fun _ told => by cases told]
    exact tracks

/-- A write-back ends exactly the lease whose token it shows. -/
private theorem tracks_finish {presented : Lease} {outcome : Changeset}
    (tracks : store.Tracks lease standing) :
    (store.finish presented outcome).2.Tracks lease
      (QueueEvent.follow lease standing ⟨.finish presented outcome, reply⟩) := by
  by_cases held : store.Holds presented
  · by_cases here : presented.changesetId = lease.changesetId
    · have gone : (store.finish presented outcome).2.Tracks lease none := by
        rintro ⟨record, found, -⟩
        rw [finish_leases held, Table.find?_erase, if_pos here] at found
        cases found
      cases standing with
      | none => exact gone
      | some expiry =>
        obtain ⟨record, found, same⟩ := held
        obtain ⟨mine, foundMine, sameMine, -⟩ := tracks
        rw [here, foundMine] at found
        cases found
        have tokens : presented.token = lease.token := same.symm.trans sameMine
        simpa [QueueEvent.follow, QueueEvent.releases, here, tokens] using gone
    · have away : QueueEvent.follow lease standing ⟨.finish presented outcome, reply⟩ =
          standing :=
        QueueEvent.follow_eq_self (fun expiry => by simp [QueueEvent.releases, here])
          fun expiry => rfl
      rw [away]
      exact tracks.congr (by rw [finish_leases held, Table.find?_erase, if_neg here])
  · rw [finish_of_not_holds held]
    cases standing with
    | none => exact tracks
    | some expiry =>
      have other : ¬(presented.changesetId = lease.changesetId ∧
          presented.token = lease.token) := by
        rintro ⟨here, same⟩
        obtain ⟨record, found, token⟩ := tracks.holds
        exact held ⟨record, here ▸ found, token.trans same.symm⟩
      simpa [QueueEvent.follow, QueueEvent.releases, QueueEvent.expiryAfter, other] using tracks

/-- A reset ends a lease exactly if it is not before its expiry. -/
private theorem tracks_resetExpired {now : Time} (tracks : store.Tracks lease standing) :
    (store.resetExpired now).2.Tracks lease
      (QueueEvent.follow lease standing ⟨.resetExpired now, reply⟩) := by
  cases standing with
  | none =>
    rintro ⟨record, found, same⟩
    rw [find?_leases_resetExpired, Option.filter_eq_some_iff] at found
    exact tracks ⟨record, found.1, same⟩
  | some expiry =>
    obtain ⟨record, found, same, rfl⟩ := tracks
    simp only [QueueEvent.follow, Option.bind_some, QueueEvent.releases, decide_eq_true_eq,
      QueueEvent.expiryAfter]
    split
    · next ended =>
      rintro ⟨other, foundOther, -⟩
      rw [find?_leases_resetExpired, found] at foundOther
      simp [Option.filter, Lease.isExpired, ended] at foundOther
    · next standing =>
      refine ⟨record, ?_, same, rfl⟩
      rw [find?_leases_resetExpired, found]
      simp [Option.filter, Lease.isExpired, standing]

/-- One call keeps the records in step with a lease, unless it grants the token of the lease. -/
theorem Tracks.follow {event : QueueEvent} (tracks : store.Tracks lease standing)
    (happened : event.replay? store = some next) (other : event.token? ≠ some lease.token) :
    next.Tracks lease (event.follow lease standing) := by
  obtain ⟨call, reply⟩ := event
  have done := QueueEvent.replay?_eq_some_iff.mp happened
  cases call with
  | claim worker token now length =>
    rw [QueueEvent.follow_eq_self (fun _ => rfl) (fun _ => rfl)]
    exact tracks_claim tracks done other
  | renew presented now length => exact tracks_renew tracks done
  | finish presented outcome =>
    cases done
    exact tracks_finish tracks
  | resetExpired now =>
    cases done
    exact tracks_resetExpired tracks
  | requeueDue now maxAttempts =>
    cases done
    rw [QueueEvent.follow_eq_self (fun _ => rfl) (fun _ => rfl)]
    exact tracks.congr (by rw [leases_requeueDue])
  | cancelQueued campaign =>
    cases done
    rw [QueueEvent.follow_eq_self (fun _ => rfl) (fun _ => rfl)]
    exact tracks.congr (by rw [leases_cancelQueued])
  | commit edits =>
    cases done
    rw [QueueEvent.follow_eq_self (fun _ => rfl) (fun _ => rfl)]
    exact tracks.congr (by rw [leases_edits])

/-- A whole history keeps the records in step with a lease, unless its token is granted again. -/
theorem Tracks.replay {events : List QueueEvent} (tracks : store.Tracks lease standing)
    (replayed : store.replay? events = some next)
    (others : lease.token ∉ events.filterMap QueueEvent.token?) :
    next.Tracks lease (events.foldl (QueueEvent.follow lease) standing) := by
  induction events generalizing store standing with
  | nil =>
    cases replayed
    exact tracks
  | cons event rest ih =>
    obtain ⟨middle, happened, replayed⟩ := Option.bind_eq_some_iff.mp replayed
    have other : event.token? ≠ some lease.token := fun same =>
      others (List.mem_filterMap.mpr ⟨event, List.mem_cons_self, same⟩)
    refine ih (tracks.follow happened other) replayed fun member => others ?_
    obtain ⟨later, present, same⟩ := List.mem_filterMap.mp member
    exact List.mem_filterMap.mpr ⟨later, List.mem_cons_of_mem _ present, same⟩

/-- Only a claim grants a lease: nothing was on record for its changeset, and now it is. -/
theorem records_of_granted {event : QueueEvent} (happened : event.replay? store = some next)
    (granted : event.reply = .granted lease) :
    store.leases.find? lease.changesetId = none ∧
      ∃ closing, next.leases.find? lease.changesetId = some ⟨lease, closing⟩ := by
  obtain ⟨call, reply⟩ := event
  cases granted
  have done := QueueEvent.replay?_eq_some_iff.mp happened
  cases call with
  | claim worker token now length =>
    simp only [QueueCall.perform] at done
    split at done
    · next row given middle claimed =>
      cases done
      obtain ⟨⟨⟩, -⟩ | ⟨candidate, expiresAt, found, same, rfl⟩ := leaseNext_eq_ok claimed
      cases same
      exact ⟨(candidate?_eq_some found).2.2, candidate.closing, by simp⟩
    · cases done
    · cases done
  | renew presented now length =>
    simp only [QueueCall.perform] at done
    split at done <;> cases done
  | finish presented outcome => cases done
  | resetExpired now => cases done
  | requeueDue now maxAttempts => cases done
  | cancelQueued campaign => cases done
  | commit edits => cases done

/-- A lease that was just granted stands until the expiry it was granted with. -/
theorem tracks_granted {event : QueueEvent} (happened : event.replay? store = some next)
    (granted : event.reply = .granted lease) : next.Tracks lease (some lease.expiresAt) := by
  obtain ⟨-, closing, found⟩ := records_of_granted happened granted
  exact ⟨_, found, rfl, rfl⟩

private theorem not_granted_of_tracks {event : QueueEvent} {expiry : Time} {other : Lease}
    (tracks : store.Tracks lease (some expiry)) (happened : event.replay? store = some next)
    (granted : event.reply = .granted other) : other.changesetId ≠ lease.changesetId := by
  intro here
  obtain ⟨free, -⟩ := records_of_granted happened granted
  obtain ⟨record, held, -⟩ := tracks
  rw [here, held] at free
  cases free

/-- The store accepts a renewal or a write-back that shows the token of this lease. -/
def Accepts (store : Store) (lease : Lease) : Prop :=
  ∃ presented, presented.changesetId = lease.changesetId ∧ presented.token = lease.token ∧
    ((∃ now length renewed next,
      store.renew presented now length = .ok ((.applied, renewed), next)) ∨
    ∃ outcome, (store.finish presented outcome).1 = .applied)

private theorem Accepts.holds (accepts : store.Accepts lease) : store.Holds lease := by
  obtain ⟨presented, here, same, ⟨now, length, renewed, next, answered⟩ | ⟨outcome, applied⟩⟩ :=
    accepts
  · obtain ⟨refused, -⟩ | ⟨record, expiresAt, -, found, token, -⟩ := renew_eq_ok answered
    · exact absurd rfl refused
    · exact ⟨record, here ▸ found, token.trans same⟩
  · obtain ⟨record, found, token⟩ := holds_of_finish_applied applied
    exact ⟨record, here ▸ found, token.trans same⟩

end Store

namespace QueueEvent

variable {lease : Lease}

@[simp] theorem foldl_follow_none (events : List QueueEvent) :
    events.foldl (follow lease) none = none := by
  induction events with
  | nil => rfl
  | cons event rest ih => exact ih

/-- As long as a lease stands, its expiry is the one that it got last. -/
theorem foldl_follow_some {events : List QueueEvent} {expiry last : Time}
    (stands : events.foldl (follow lease) (some expiry) = some last) :
    last = events.foldl (expiryAfter lease) expiry := by
  induction events generalizing expiry with
  | nil =>
    cases stands
    rfl
  | cons event rest ih =>
    rw [List.foldl_cons, follow, Option.bind_some] at stands
    split at stands
    · rw [foldl_follow_none] at stands
      cases stands
    · exact ih stands

/-- A lease stands no more exactly if one of the events released it. -/
theorem foldl_follow_eq_none_iff {events : List QueueEvent} {expiry : Time} :
    events.foldl (follow lease) (some expiry) = none ↔
      ∃ earlier release later, events = earlier ++ release :: later ∧
        release.releases lease (earlier.foldl (expiryAfter lease) expiry) = true := by
  constructor
  · intro ended
    induction events generalizing expiry with
    | nil => cases ended
    | cons event rest ih =>
      rw [List.foldl_cons, follow, Option.bind_some] at ended
      split at ended
      · next released => exact ⟨[], event, rest, rfl, released⟩
      · obtain ⟨earlier, release, later, rfl, released⟩ := ih ended
        exact ⟨event :: earlier, release, later, rfl, released⟩
  · rintro ⟨earlier, release, later, rfl, released⟩
    rw [List.foldl_append, List.foldl_cons]
    cases stands : earlier.foldl (follow lease) (some expiry) with
    | none => exact foldl_follow_none _
    | some last =>
      obtain rfl := foldl_follow_some stands
      simp [follow, released]

end QueueEvent

/-- The expiry that a lease has after events that did not end it: the one that it was granted with,
or the one of the last renewal that was accepted. -/
def Lease.latestExpiry (lease : Lease) (events : List QueueEvent) : Time :=
  events.foldl (QueueEvent.expiryAfter lease) lease.expiresAt

/-- A token that was granted once only is not granted again. -/
private theorem token_not_regranted {before after : List QueueEvent} {grant : QueueEvent}
    {lease : Lease} (granted : grant.reply = .granted lease)
    (distinct : ((before ++ grant :: after).filterMap QueueEvent.token?).Nodup) :
    lease.token ∉ after.filterMap QueueEvent.token? := by
  have told : grant.token? = some lease.token := by simp [QueueEvent.token?, granted]
  rw [List.filterMap_append, List.filterMap_cons_some told] at distinct
  exact (List.nodup_cons.mp (List.nodup_append.mp distinct).2.1).1

/-- Grants of one token are one grant. -/
private theorem grant_unique {events : List QueueEvent} {first second : QueueEvent}
    {lease other : Lease} (distinct : (events.filterMap QueueEvent.token?).Nodup)
    (one : first ∈ events) (two : second ∈ events) (granted : first.reply = .granted lease)
    (grantedToo : second.reply = .granted other) (same : lease.token = other.token) :
    lease = other := by
  have told : first.token? = some other.token := by simp [QueueEvent.token?, granted, same]
  have toldToo : second.token? = some lease.token := by
    simp [QueueEvent.token?, grantedToo, same]
  obtain ⟨before, after, rfl⟩ := List.append_of_mem one
  rcases List.mem_append.mp two with earlier | later
  · obtain ⟨start, between, rfl⟩ := List.append_of_mem earlier
    rw [List.append_assoc, List.cons_append] at distinct
    refine absurd (List.mem_filterMap.mpr ⟨first, ?_, told⟩)
      (token_not_regranted grantedToo distinct)
    exact List.mem_append_right _ List.mem_cons_self
  · rcases List.mem_cons.mp later with rfl | later
    · rw [granted] at grantedToo
      cases grantedToo
      rfl
    · exact absurd (List.mem_filterMap.mpr ⟨second, later, toldToo⟩)
        (token_not_regranted granted distinct)

/-- In every history that starts with the empty store and gives out distinct tokens: a changeset is
granted again only after its lease was released, by a write-back under its token or by a reset that
was not before its latest expiry; of all leases ever granted on a changeset the store accepts at
most one; and a lease that was released is refused for ever, without any effect. -/
theorem Store.lease_exclusive {events : List QueueEvent} {store : Store}
    (replayed : (∅ : Store).replay? events = some store)
    (distinct : (events.filterMap QueueEvent.token?).Nodup) :
    (∀ before grant between regrant after lease other,
      events = before ++ grant :: (between ++ regrant :: after) →
      grant.reply = .granted lease → regrant.reply = .granted other →
      other.changesetId = lease.changesetId →
      ∃ earlier release later, between = earlier ++ release :: later ∧
        release.releases lease (lease.latestExpiry earlier) = true) ∧
    (∀ first ∈ events, ∀ second ∈ events, ∀ lease other,
      first.reply = .granted lease → second.reply = .granted other →
      lease.changesetId = other.changesetId → store.Accepts lease → store.Accepts other →
      lease = other) ∧
    (∀ before grant between release after lease,
      events = before ++ grant :: (between ++ release :: after) →
      grant.reply = .granted lease →
      release.releases lease (lease.latestExpiry between) = true →
      ∀ presented, presented.changesetId = lease.changesetId → presented.token = lease.token →
        (∀ now length, ∃ verdict, verdict ≠ .applied ∧
          store.renew presented now length = .ok ((verdict, presented), store)) ∧
        ∀ outcome, store.finish presented outcome = (.leaseLost, store)) := by
  refine ⟨?_, ?_, ?_⟩
  · rintro before grant between regrant after lease other rfl granted regranted here
    obtain ⟨_, first, -, happened, replayed⟩ := replay?_cut replayed
    obtain ⟨middle, second, earlier, regrantHappened, -⟩ := replay?_cut replayed
    have fresh := token_not_regranted granted distinct
    rw [List.filterMap_append] at fresh
    have tracks := (tracks_granted happened granted).replay earlier
      fun member => fresh (List.mem_append_left _ member)
    cases standing : between.foldl (QueueEvent.follow lease) (some lease.expiresAt) with
    | none => exact QueueEvent.foldl_follow_eq_none_iff.mp standing
    | some expiry =>
      rw [standing] at tracks
      exact absurd here (not_granted_of_tracks tracks regrantHappened regranted)
  · intro first one second two lease other granted grantedToo here accepts acceptsToo
    obtain ⟨record, found, token⟩ := accepts.holds
    obtain ⟨recordToo, foundToo, tokenToo⟩ := acceptsToo.holds
    rw [← here, found] at foundToo
    cases foundToo
    exact grant_unique distinct one two granted grantedToo (token.symm.trans tokenToo)
  · rintro before grant between release after lease rfl granted released presented here same
    obtain ⟨_, first, -, happened, replayed⟩ := replay?_cut replayed
    have tracks := (tracks_granted happened granted).replay replayed
      (token_not_regranted granted distinct)
    have ended : (between ++ release :: after).foldl (QueueEvent.follow lease)
        (some lease.expiresAt) = none :=
      QueueEvent.foldl_follow_eq_none_iff.mpr ⟨between, release, after, rfl, released⟩
    rw [ended] at tracks
    have lost : ¬ store.Holds presented := fun ⟨record, found, token⟩ =>
      tracks ⟨record, here ▸ found, token.trans same⟩
    exact ⟨renew_of_not_holds lost, finish_of_not_holds lost⟩

namespace Regrant

def instant (seconds : Nat) : Time := (Time.epoch.add? (.ofSeconds seconds)).getD .epoch

def row : Changeset where
  id := .unsaved
  repoId := ⟨1⟩
  codeHost := .github
  createdAt := instant 0
  updatedAt := instant 0

/-- The first lease, as it was granted. -/
def early : Lease := ⟨⟨1⟩, "first", "a", instant 10⟩

def late : Lease := ⟨⟨1⟩, "second", "b", instant 25⟩

def grant : QueueEvent := ⟨.claim "first" "a" (instant 0) (.ofSeconds 10), .granted early⟩

def regrant : QueueEvent := ⟨.claim "second" "b" (instant 15) (.ofSeconds 10), .granted late⟩

/-- A transaction queues the row again, but it is not granted before a reset that is late enough for
the renewed lease. -/
def between : List QueueEvent :=
  [⟨.commit [.upsertChangeset { row with id := ⟨1⟩ }], .silent⟩,
    ⟨.claim "second" "b" (instant 1) (.ofSeconds 10), .silent⟩,
    ⟨.renew early (instant 5) (.ofSeconds 10),
      .verdict .applied { early with expiresAt := instant 15 }⟩,
    ⟨.resetExpired (instant 12), .silent⟩]

def reset : QueueEvent := ⟨.resetExpired (instant 15), .silent⟩

def history : List QueueEvent :=
  ⟨.commit [.upsertChangeset row], .silent⟩ :: grant :: (between ++ reset :: [regrant])

end Regrant

open Regrant in
/-- The worker that held the first lease comes too late, and the second grant was in order. -/
theorem Store.lease_exclusive_regrant : ∃ store,
    (∅ : Store).replay? history = some store ∧
      (history.filterMap QueueEvent.token?).Nodup ∧
      (∃ earlier release later, between ++ [reset] = earlier ++ release :: later ∧
        release.releases early (early.latestExpiry earlier) = true) ∧
      (store.Accepts early → store.Accepts late → early = late) ∧
      store.finish early row = (.leaseLost, store) := by
  obtain ⟨store, replayed⟩ : ∃ store, (∅ : Store).replay? history = some store :=
    Option.isSome_iff_exists.mp (by decide)
  have distinct : (history.filterMap QueueEvent.token?).Nodup := by decide
  obtain ⟨guarded, single, dead⟩ := lease_exclusive replayed distinct
  refine ⟨store, replayed, distinct, ?_, ?_, ?_⟩
  · exact guarded [⟨.commit [.upsertChangeset row], .silent⟩] grant (between ++ [reset]) regrant []
      early late (by simp [history]) rfl rfl rfl
  · exact single grant (by simp [history]) regrant (by simp [history]) early late rfl rfl rfl
  · exact (dead [⟨.commit [.upsertChangeset row], .silent⟩] grant between reset [regrant] early
      rfl rfl (by decide) early rfl rfl).2 row

end BatchChanges
