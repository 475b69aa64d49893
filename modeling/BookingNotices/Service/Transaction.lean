import BookingNotices.Event.Topics
import BookingNotices.Service.World

/-!
# Transactions of the service

* `Transaction`     : work on an own copy of the store, in the world around it, that may fail;
* `Transaction.run` : begins, works, and commits or rolls back.

The copy replaces the store only when the transaction commits. What the work did to the rest of the
world stays done in any case: an event that was published cannot be taken back.
-/

namespace BookingNotices

/-- Work on an own copy of the store that may fail. -/
abbrev Transaction := StateT Store (ExceptT Notice.Error (StateM World))

namespace Transaction

/-- Makes a call on the store, which does nothing if it is made to fail. -/
def call (c : StoreCall) : Transaction Unit := fun s w =>
  match w.storeFails c with
  | (true, w) => (.error (.ofFailure c.failure), w)
  | (false, w) => (.ok ((), s), w)

/-- Reads the clock. -/
def now : Transaction Timestamp := fun s w =>
  let (t, w) := w.now
  (.ok (t, s), w)

/-- Takes a fresh identity. -/
def freshId : Transaction String := fun s w =>
  let (id, w) := w.freshId
  (.ok (id, s), w)

/-- Publishes an event. -/
def publish (e : Event) : Transaction Unit := fun s w =>
  match w.publish e with
  | (.error f, w) => (.error (.ofFailure f), w)
  | (.ok (), w) => (.ok ((), s), w)

/-- How many notices there are about a booking. -/
def count (booking : BookingId) : Transaction Nat := do
  call .count
  return (← get).count booking

/-- Stores a notice under the next identity. -/
def insert (n : Notice) : Transaction Notice := do
  call .create
  let (stored, s) := (← get).insert n
  set s
  return stored

/-- Reads a row, which nobody else can change before the transaction ends. -/
def lock (id : NoticeId) : Transaction Notice := do
  call .lock
  match (← get).get id with
  | .ok n => return n
  | .error f => throw (.ofFailure f)

/-- Replaces a row. -/
def overwrite (n : Notice) : Transaction Notice := do
  call .update
  match (← get).overwrite n with
  | .ok s => do
    set s
    return n
  | .error f => throw (.ofFailure f)

/-- Announces that a notice waits for a worker. -/
def announce (id : NoticeId) (cause : Option String) : Transaction Unit := do
  let eventId ← freshId
  let now ← now
  let e := (Event.Created.mk id).envelope eventId now
  publish (match cause with
    | some cause => e.causedBy cause
    | none => e)

/-- Runs a transaction, which is committed if `keep` says so of its result. An error of the work
comes before an error of the rollback that follows it. -/
def run {α : Type} (t : Transaction α) (keep : α → Bool) (w : World) :
    Except Notice.Error α × World :=
  match w.storeFails .begin with
  | (true, w) => (.error (.ofFailure StoreCall.begin.failure), w)
  | (false, w) =>
    match t w.store w with
    | (.error e, w) => (.error e, (w.storeFails .rollback).2)
    | (.ok (a, staged), w) =>
      let ending := if keep a then StoreCall.commit else .rollback
      match w.storeFails ending with
      | (true, w) => (.error (.ofFailure ending.failure), w)
      | (false, w) => (.ok a, if keep a then { w with store := staged } else w)

end Transaction

end BookingNotices
