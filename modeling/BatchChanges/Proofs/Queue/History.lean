import BatchChanges.Proofs.Queue.Effect

/-! # Histories of the queue

A history lists the calls that were made to the queue, in any order and at any times, together with
the replies, and the transactions that were committed between them. A lease is followed through a
history by its token: it stands from its grant on, renewals move its expiry, and it ends with the
first write-back under its token or the first reset that is not before its expiry. What the store
has on record for its changeset agrees with that at every point, whatever transactions do to the
row.
-/

namespace BatchChanges

namespace Store

/-- A write inside of a transaction. -/
inductive Edit where
  | createCampaign (campaign : Campaign)
  | updateCampaign (campaign : Campaign)
  | upsertChangeset (changeset : Changeset)
  | deleteChangeset (id : ChangesetId)

/-- Makes a write; one that fails changes nothing. -/
def edit (store : Store) : Edit → Store
  | .createCampaign campaign =>
    match store.insertCampaign campaign with
    | .ok (_, next) => next
    | .error _ => store
  | .updateCampaign campaign =>
    match store.replaceCampaign campaign with
    | .ok next => next
    | .error _ => store
  | .upsertChangeset changeset =>
    match store.upsertChangeset changeset with
    | .ok (_, next) => next
    | .error _ => store
  | .deleteChangeset id =>
    match store.deleteChangeset id with
    | .ok next => next
    | .error _ => store

private theorem leases_upsertChangeset {store next : Store} {changeset stored : Changeset}
    (done : store.upsertChangeset changeset = .ok (stored, next)) : next.leases = store.leases := by
  simp only [upsertChangeset] at done
  split_ifs at done <;> cases done <;> rfl

private theorem leases_deleteChangeset {store next : Store} {id : ChangesetId}
    (done : store.deleteChangeset id = .ok next) : next.leases = store.leases := by
  simp only [deleteChangeset] at done
  split_ifs at done
  cases done
  rfl

private theorem leases_insertCampaign {store next : Store} {campaign stored : Campaign}
    (done : store.insertCampaign campaign = .ok (stored, next)) : next.leases = store.leases := by
  simp only [insertCampaign] at done
  split_ifs at done
  cases done
  rfl

private theorem leases_replaceCampaign {store next : Store} {campaign : Campaign}
    (done : store.replaceCampaign campaign = .ok next) : next.leases = store.leases := by
  simp only [replaceCampaign] at done
  split_ifs at done
  cases done
  rfl

/-- No write of a transaction touches a lease. -/
@[simp] theorem leases_edit (store : Store) (edit : Edit) :
    (store.edit edit).leases = store.leases := by
  cases edit with
  | createCampaign campaign =>
    simp only [Store.edit]
    split
    · next done => exact leases_insertCampaign done
    · rfl
  | updateCampaign campaign =>
    simp only [Store.edit]
    split
    · next done => exact leases_replaceCampaign done
    · rfl
  | upsertChangeset changeset =>
    simp only [Store.edit]
    split
    · next done => exact leases_upsertChangeset done
    · rfl
  | deleteChangeset id =>
    simp only [Store.edit]
    split
    · next done => exact leases_deleteChangeset done
    · rfl

@[simp] theorem leases_edits (store : Store) (edits : List Edit) :
    (edits.foldl Store.edit store).leases = store.leases := by
  induction edits generalizing store with
  | nil => rfl
  | cons edit rest ih => rw [List.foldl_cons, ih, leases_edit]

end Store

/-- A call to the queue, or a transaction that is committed. -/
inductive QueueCall where
  | claim (worker token : String) (now : Time) (length : Duration)
  | renew (lease : Lease) (now : Time) (length : Duration)
  | finish (lease : Lease) (outcome : Changeset)
  | resetExpired (now : Time)
  | requeueDue (now : Time) (maxAttempts : UInt32)
  | cancelQueued (campaign : CampaignId)
  | commit (edits : List Store.Edit)

/-- What a caller learns about leases. -/
inductive QueueReply where
  /-- A lease was granted. -/
  | granted (lease : Lease)
  /-- What became of something written under a lease, and the lease afterwards. -/
  | verdict (verdict : Verdict) (lease : Lease)
  /-- Nothing about leases; the call may have failed. -/
  | silent
deriving DecidableEq

namespace QueueCall

def perform (store : Store) : QueueCall → QueueReply × Store
  | claim worker token now length =>
    match store.leaseNext worker token now length with
    | .ok (some (_, lease), next) => (.granted lease, next)
    | .ok (none, next) => (.silent, next)
    | .error _ => (.silent, store)
  | renew lease now length =>
    match store.renew lease now length with
    | .ok ((verdict, renewed), next) => (.verdict verdict renewed, next)
    | .error _ => (.silent, store)
  | finish lease outcome =>
    (.verdict (store.finish lease outcome).1 lease, (store.finish lease outcome).2)
  | resetExpired now => (.silent, (store.resetExpired now).2)
  | requeueDue now maxAttempts => (.silent, (store.requeueDue now maxAttempts).2)
  | cancelQueued campaign => (.silent, (store.cancelQueued campaign).2)
  | commit edits => (.silent, edits.foldl Store.edit store)

end QueueCall

/-- A call and its reply. -/
structure QueueEvent where
  call : QueueCall
  reply : QueueReply

namespace QueueEvent

def replay? (store : Store) (event : QueueEvent) : Option Store :=
  if (event.call.perform store).1 = event.reply then some (event.call.perform store).2 else none

/-- The token of the lease that was granted. -/
def token? (event : QueueEvent) : Option String :=
  match event.reply with
  | .granted lease => some lease.token
  | _ => none

/-- Whether an event ends a lease that stands until `expiry`: a write-back under its token, or a
reset that is not before its expiry. -/
def releases (lease : Lease) (expiry : Time) (event : QueueEvent) : Bool :=
  match event.call with
  | .finish presented _ =>
    presented.changesetId == lease.changesetId && presented.token == lease.token
  | .resetExpired now => decide (expiry ≤ now)
  | _ => false

/-- The expiry of a lease that stands after an event that does not end it: a renewal under its token
that was accepted sets it. -/
def expiryAfter (lease : Lease) (expiry : Time) (event : QueueEvent) : Time :=
  match event.call, event.reply with
  | .renew presented _ _, .verdict .applied renewed =>
    if presented.changesetId = lease.changesetId ∧ presented.token = lease.token then
      renewed.expiresAt
    else expiry
  | _, _ => expiry

/-- Follows a lease through an event: its expiry as long as it stands. -/
def follow (lease : Lease) (standing : Option Time) (event : QueueEvent) : Option Time :=
  standing.bind fun expiry =>
    if event.releases lease expiry then none else some (event.expiryAfter lease expiry)

/-- A lease stays as it is at an event that neither ends it nor moves its expiry. -/
theorem follow_eq_self {lease : Lease} {standing : Option Time} {event : QueueEvent}
    (lasting : ∀ expiry, event.releases lease expiry = false)
    (unmoved : ∀ expiry, event.expiryAfter lease expiry = expiry) :
    event.follow lease standing = standing := by
  cases standing with
  | none => rfl
  | some expiry =>
    simp only [follow, Option.bind_some, lasting, unmoved, Bool.false_eq_true, if_false]

end QueueEvent

namespace Store

/-- The store after a history, if its replies are what the store answers. -/
def replay? : Store → List QueueEvent → Option Store
  | store, [] => some store
  | store, event :: rest => (event.replay? store).bind fun next => replay? next rest

private theorem replay?_append (store : Store) (first second : List QueueEvent) :
    store.replay? (first ++ second) =
      (store.replay? first).bind fun middle => middle.replay? second := by
  induction first generalizing store with
  | nil => rfl
  | cons event rest ih => simp only [List.cons_append, replay?, ih, Option.bind_assoc]

/-- A history that goes on with an event passes the store in which the event happens. -/
theorem replay?_cut {store final : Store} {first rest : List QueueEvent} {event : QueueEvent}
    (replayed : store.replay? (first ++ event :: rest) = some final) :
    ∃ middle next, store.replay? first = some middle ∧
      event.replay? middle = some next ∧ next.replay? rest = some final := by
  rw [replay?_append] at replayed
  obtain ⟨middle, earlier, later⟩ := Option.bind_eq_some_iff.mp replayed
  obtain ⟨next, happened, later⟩ := Option.bind_eq_some_iff.mp later
  exact ⟨middle, next, earlier, happened, later⟩

/-- What the store has on record agrees with a lease that stands until an expiry, or stands no
more. -/
def Tracks (store : Store) (lease : Lease) : Option Time → Prop
  | some expiry => ∃ record, store.leases.find? lease.changesetId = some record ∧
      record.lease.token = lease.token ∧ record.lease.expiresAt = expiry
  | none => ¬ store.Holds lease

theorem Tracks.holds {store : Store} {lease : Lease} {expiry : Time}
    (tracks : store.Tracks lease (some expiry)) : store.Holds lease := by
  obtain ⟨record, found, same, -⟩ := tracks
  exact ⟨record, found, same⟩

/-- Only the record of its own changeset matters for a lease. -/
theorem Tracks.congr {store next : Store} {lease : Lease} {standing : Option Time}
    (same : next.leases.find? lease.changesetId = store.leases.find? lease.changesetId)
    (tracks : store.Tracks lease standing) : next.Tracks lease standing := by
  cases standing with
  | some expiry => simpa only [Tracks, same] using tracks
  | none => simpa only [Tracks, Holds, same] using tracks

end Store

end BatchChanges
