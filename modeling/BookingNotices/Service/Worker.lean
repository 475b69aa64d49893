import BookingNotices.Service.Delivery
import BookingNotices.Service.Transaction

/-!
# Workers

* `Worker`           : how far a worker has come with a notice;
* `Worker.step`      : its next step, which no other worker can divide;
* `Worker.run`       : all its steps, with nobody in between;
* `World.process`, `World.resume` : a worker that takes up a waiting notice, or one left behind.

A worker claims the row, or renews the claim, in one transaction; from there on it works on its own
copy. It looks up the records, stores an invoice if the booking is confirmed, and then writes the
outcome, which succeeds only if the claim is still its own. Only then it sends mail.
-/

namespace BookingNotices

/-- How a worker ends when nothing fails. -/
inductive Worker.Outcome where
  /-- somebody else has taken the notice up, or there is nothing to do -/
  | alreadyHandled
  | completed (n : Notice)
  deriving DecidableEq, Repr

/-- How far a worker has come. -/
inductive Worker where
  | claiming (id : NoticeId)
  /-- the threshold is in nanoseconds -/
  | renewing (id : NoticeId) (threshold : Nat)
  | findingBooking (claimed : Notice)
  | findingUser (claimed : Notice) (booking : Booking)
  | findingShowtime (claimed : Notice) (booking : Booking) (user : User)
  | findingSeat (claimed : Notice) (booking : Booking) (user : User) (showtime : Showtime)
  | storing (claimed : Notice) (booking : Booking) (user : User) (invoice : Invoice.Params)
  /-- the row is to become `outcome`, if it is still claimed at the given instant -/
  | resolving (claimedAt : Timestamp) (outcome : Notice) (booking : Booking) (user : User)
  | composing (resolved : Notice) (user : User) (email : Notice.Email)
  | sending (resolved : Notice) (mail : Mail.Message)
  | ended (result : Except Notice.Error Worker.Outcome)

/-- Claims a row that waits, and announces that again. Nothing to keep if it does not wait. -/
def Transaction.claim (id : NoticeId) : Transaction (Option Notice) := do
  let n ← lock id
  if n.status ≠ .pending then return none
  match n.claim (← now) with
  | .error e => throw e
  | .ok n => do
    let n ← overwrite n
    announce id none
    return some n

/-- Renews the claim on a row whose worker was lost. Nothing to keep if it is not overdue. -/
def Transaction.renew (id : NoticeId) (threshold : Nat) : Transaction (Option Notice) := do
  let n ← lock id
  if !n.isStale (← now) threshold then return none
  match n.touch (← now) with
  | .error e => throw e
  | .ok n => do
    let n ← overwrite n
    return some n

namespace Worker

/-- How the worker has ended, if it has. -/
def result? : Worker → Option (Except Notice.Error Outcome)
  | .ended result => some result
  | _ => none

/-- A worker that fails. -/
def failing (e : Notice.Error) : Worker := .ended (.error e)

/-- Goes on behind the transaction that takes a row. -/
def afterTaking : Except Notice.Error (Option Notice) → Worker
  | .error e => failing e
  | .ok none => .ended (.ok .alreadyHandled)
  | .ok (some n) => .findingBooking n

/-- Goes on with the notice as it is to be stored. -/
def towards (claimed : Notice) (booking : Booking) (user : User) :
    Except Notice.Error Notice → Worker
  | .error e => failing e
  | .ok outcome => .resolving claimed.updated outcome booking user

/-- Goes on when booking and user are known: only a confirmed booking has an invoice. -/
def afterUser (claimed : Notice) (booking : Booking) (user : User) (w : World) : Worker × World :=
  match booking.status with
  | .confirmed => (.findingShowtime claimed booking user, w)
  | .cancelled =>
    let (now, w) := w.now
    (towards claimed booking user (claimed.complete now), w)
  | .initializing | .pending =>
    let (now, w) := w.now
    (towards claimed booking user (claimed.fail now), w)

/-- Goes on when the outcome is stored. -/
def afterResolving (resolved : Notice) (booking : Booking) (user : User) : Worker :=
  match Notice.Email.forBooking booking with
  | none => .ended (.ok (.completed resolved))
  | some email => .composing resolved user email

/-- Renders the invoice and stores it under the name of its booking. -/
def storeInvoice (booking : Booking) (invoice : Invoice.Params) (w : World) :
    Except Failure String × World :=
  match w.render invoice with
  | (.error f, w) => (.error f, w)
  | (.ok bytes, w) =>
    let name := Notice.documentName booking.id
    match w.shelf.put name bytes with
    | (.error e, shelf) => (.error e.toFailure, { w with shelf := shelf })
    | (.ok (), shelf) => (.ok name, { w with shelf := shelf })

/-- The next step of a worker. -/
def step : Worker → World → Worker × World
  | .claiming id, w =>
    let (taken, w) := (Transaction.claim id).run Option.isSome w
    (afterTaking taken, w)
  | .renewing id threshold, w =>
    let (taken, w) := (Transaction.renew id threshold).run Option.isSome w
    (afterTaking taken, w)
  | .findingBooking claimed, w =>
    match w.registry.booking claimed.booking with
    | (.error f, registry) => (failing (.ofFailure f), { w with registry := registry })
    | (.ok booking, registry) => (.findingUser claimed booking, { w with registry := registry })
  | .findingUser claimed booking, w =>
    match w.registry.user booking.user with
    | (.error f, registry) => (failing (.ofFailure f), { w with registry := registry })
    | (.ok user, registry) => afterUser claimed booking user { w with registry := registry }
  | .findingShowtime claimed booking user, w =>
    match w.registry.showtime booking.showtime with
    | (.error f, registry) => (failing (.ofFailure f), { w with registry := registry })
    | (.ok showtime, registry) =>
      (.findingSeat claimed booking user showtime, { w with registry := registry })
  | .findingSeat claimed booking user showtime, w =>
    match w.registry.seat booking.seat with
    | (.error f, registry) => (failing (.ofFailure f), { w with registry := registry })
    | (.ok seat, registry) =>
      (.storing claimed booking user (.ofBooking booking user showtime seat),
        { w with registry := registry })
  | .storing claimed booking user invoice, w =>
    match storeInvoice booking invoice w with
    | (.error f, w) => (failing (.ofFailure f), w)
    | (.ok name, w) =>
      let (now, w) := w.now
      (towards claimed booking user (claimed.completeWith name now), w)
  | .resolving claimedAt outcome booking user, w =>
    match w.storeFails .resolve with
    | (true, w) => (failing (.ofFailure StoreCall.resolve.failure), w)
    | (false, w) =>
      match w.store.resolve outcome claimedAt with
      | .error f => (failing (.ofFailure f), w)
      | .ok none => (.ended (.ok .alreadyHandled), w)
      | .ok (some store) => (afterResolving outcome booking user, { w with store := store })
  | .composing resolved user email, w =>
    match resolved.compose user email w.shelf with
    | (.error e, shelf) => (failing e, { w with shelf := shelf })
    | (.ok mail, shelf) => (.sending resolved mail, { w with shelf := shelf })
  | .sending resolved mail, w =>
    match w.outbox.send mail with
    | (.error f, outbox) => (failing (.ofFailure f), { w with outbox := outbox })
    | (.ok (), outbox) => (.ended (.ok (.completed resolved)), { w with outbox := outbox })
  | .ended result, w => (.ended result, w)

/-- How many steps a worker has at most before it. -/
def stepsLeft : Worker → Nat
  | .claiming _ => 10
  | .renewing _ _ => 10
  | .findingBooking _ => 9
  | .findingUser _ _ => 8
  | .findingShowtime _ _ _ => 7
  | .findingSeat _ _ _ _ => 6
  | .storing _ _ _ _ => 5
  | .resolving _ _ _ _ => 4
  | .composing _ _ _ => 3
  | .sending _ _ => 2
  | .ended _ => 0

/-- Every step of a worker that has not ended leaves fewer of them. -/
theorem stepsLeft_step_lt {worker : Worker} (h : worker.result? = none) (w : World) :
    (worker.step w).1.stepsLeft < worker.stepsLeft := by
  have taking (r : Except Notice.Error (Option Notice)) : (afterTaking r).stepsLeft < 10 := by
    rcases r with _ | _ | _ <;> simp [afterTaking, failing, stepsLeft]
  have going (c b u) (r : Except Notice.Error Notice) : (towards c b u r).stepsLeft ≤ 4 := by
    cases r <;> simp [towards, failing, stepsLeft]
  cases worker with
  | claiming => exact taking _
  | renewing => exact taking _
  | findingBooking => simp only [step]; split <;> simp [failing, stepsLeft]
  | findingUser c b =>
    simp only [step]
    split
    · simp [failing, stepsLeft]
    · simp only [afterUser]
      split
      · simp [stepsLeft]
      all_goals exact Nat.lt_of_le_of_lt (going ..) (by simp [stepsLeft])
  | findingShowtime => simp only [step]; split <;> simp [failing, stepsLeft]
  | findingSeat => simp only [step]; split <;> simp [failing, stepsLeft]
  | storing =>
    simp only [step]
    split
    · simp [failing, stepsLeft]
    · exact Nat.lt_of_le_of_lt (going ..) (by simp [stepsLeft])
  | resolving =>
    simp only [step]
    split
    · simp [failing, stepsLeft]
    · split
      · simp [failing, stepsLeft]
      · simp [stepsLeft]
      · simp only [afterResolving]; split <;> simp [stepsLeft]
  | composing => simp only [step]; split <;> simp [failing, stepsLeft]
  | sending => simp only [step]; split <;> simp [failing, stepsLeft]
  | ended => simp [result?] at h

/-- All steps of a worker, with nobody in between. -/
def run (worker : Worker) (w : World) : Except Notice.Error Outcome × World :=
  match h : worker.result? with
  | some result => (result, w)
  | none =>
    have := stepsLeft_step_lt h w
    run (worker.step w).1 (worker.step w).2
termination_by worker.stepsLeft

end Worker

namespace World

/-- A worker takes up a waiting notice. -/
def process (w : World) (id : NoticeId) : Except Notice.Error Worker.Outcome × World :=
  (Worker.claiming id).run w

/-- A worker takes up a notice that was left behind for so many nanoseconds. -/
def resume (w : World) (id : NoticeId) (threshold : Nat) :
    Except Notice.Error Worker.Outcome × World :=
  (Worker.renewing id threshold).run w

end World

end BookingNotices
