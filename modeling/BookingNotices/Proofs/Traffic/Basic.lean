import BookingNotices.Proofs.Worker
import BookingNotices.Service.Consumer
import BookingNotices.Service.Sweep

/-!
# Calls that work side by side

* `Dispatch`          : how far a delivery of what waits on the bus has come;
* `Call`, `Call.step` : one call of the service under way, and its next step, which no other call
  can divide; `Call.deeds` is what others can see of that step;
* `Request`           : the calls that can be started;
* `Surroundings`      : all that may change at any time by itself;
* `Traffic`           : a world, the calls in it, and a log of what was seen of them;
* `Move`, `Traffic.step`, `Traffic.run` : somebody starts a call, a call takes a step, somebody else
  publishes an event, the surroundings change; any number of these in any order;
* `World.oneBooking`, `Traffic.takeOver` : a small world, and something that can happen in it; in
  `World.oneConfirmed` the booking is confirmed.

A call that never gets another step stands for one that was lost.
-/

namespace BookingNotices

/-! ## Deliveries -/

/-- Where the delivery of what waits on the bus stands. -/
inductive Dispatch.Phase where
  | taking
  /-- a delivery, with this attempt counted -/
  | handing (d : Bus.Delivery Consumer)
  | working (d : Bus.Delivery Consumer) (worker : Worker)
  | settling (d : Bus.Delivery Consumer) (outcome : Except Failure Unit)
  | ended

/-- The delivery of what waits on the bus, under way. -/
structure Dispatch where
  report : Bus.Report := {}
  phase : Dispatch.Phase := .taking

namespace Dispatch

/-- The next step of a delivery. -/
def step (d : Dispatch) (w : World) : Dispatch × World :=
  match d.phase with
  | .taking =>
    match w.bus.queue with
    | [] => ({ d with phase := .ended }, w)
    | e :: rest =>
      ({ d with phase := .handing { e with attempts := e.attempts + 1 } },
        { w with bus := { w.bus with queue := rest } })
  | .handing e =>
    match e.handler with
    | .noticeCreated =>
      match Event.Created.ofEvent (e.event.delivered e.attempts) with
      | .error f => ({ d with phase := .settling e (.error f) }, w)
      | .ok created => ({ d with phase := .working e (.claiming created.id) }, w)
    | .paymentCompleted =>
      match Event.PaymentCompleted.ofEvent (e.event.delivered e.attempts) with
      | .error f => ({ d with phase := .settling e (.error f) }, w)
      | .ok payment =>
        let (result, w) := w.create payment.booking (some (e.event.delivered e.attempts).id)
        ({ d with phase := .settling e (acknowledge result) }, w)
  | .working e worker =>
    match worker.result? with
    | some result => ({ d with phase := .settling e (acknowledge result) }, w)
    | none =>
      let (worker, w) := worker.step w
      ({ d with phase := .working e worker }, w)
  | .settling e outcome =>
    let (ending, bus) := Bus.settle e outcome w.bus
    ({ report := d.report.add ending, phase := .taking }, { w with bus := bus })
  | .ended => (d, w)

/-- The creation that the next step is, with the event that causes it. -/
def creation? (d : Dispatch) : Option (BookingId × Option String) :=
  match d.phase with
  | .handing e =>
    match e.handler with
    | .noticeCreated => none
    | .paymentCompleted =>
      (Event.PaymentCompleted.ofEvent (e.event.delivered e.attempts)).toOption.map fun payment =>
        (payment.booking, some e.event.id)
  | _ => none

end Dispatch

/-! ## Calls -/

/-- One call of the service, under way. -/
inductive Call where
  /-- a notice is to be created, perhaps because of an event -/
  | creation (booking : BookingId) (cause : Option String)
  | created (result : Except Notice.Error Notice)
  | worker (k : Worker)
  | sweep (s : Sweep)
  | dispatch (d : Dispatch)

namespace Call

/-- The next step of a call. -/
def step : Call → World → Call × World
  | .creation booking cause, w =>
    let (result, w) := w.create booking cause
    (.created result, w)
  | .created result, w => (.created result, w)
  | .worker k, w =>
    let (k, w) := k.step w
    (.worker k, w)
  | .sweep s, w =>
    let (s, w) := s.step w
    (.sweep s, w)
  | .dispatch d, w =>
    let (d, w) := d.step w
    (.dispatch d, w)

/-- The creation that the next step of a call is. -/
def creation? : Call → Option (BookingId × Option String)
  | .creation booking cause => some (booking, cause)
  | .dispatch d => d.creation?
  | _ => none

/-- The worker that works for a call. -/
def worker? : Call → Option Worker
  | .worker k => some k
  | .sweep s =>
    match s.phase with
    | .working _ k _ => some k
    | _ => none
  | .dispatch d =>
    match d.phase with
    | .working _ k => some k
    | _ => none
  | _ => none

/-- What others can see of a creation. -/
def creationDeed (w : World) (booking : BookingId) (cause : Option String) : Deed :=
  .created booking (w.create booking cause).1
    (w.bus.published.length < (w.create booking cause).2.bus.published.length)

/-- What others can see of the next step of a call. -/
def deeds (c : Call) (w : World) : List Deed :=
  match c.creation?, c.worker? with
  | some (booking, cause), _ => [creationDeed w booking cause]
  | none, some k => k.deeds (k.step w).1
  | none, none => []

/-- Whether a call is over. -/
def isDone : Call → Bool
  | .creation _ _ => false
  | .created _ => true
  | .worker k => k.result?.isSome
  | .sweep s =>
    match s.phase with
    | .ended _ => true
    | _ => false
  | .dispatch d =>
    match d.phase with
    | .ended => true
    | _ => false

end Call

/-! ## Requests and surroundings -/

/-- The calls that can be started. -/
inductive Request where
  | create (booking : BookingId) (cause : Option String)
  | process (id : NoticeId)
  /-- the threshold is in nanoseconds -/
  | resume (id : NoticeId) (threshold : Nat)
  | sweep (threshold : Nat)
  | dispatch

/-- A call that begins. -/
def Request.start : Request → World → Call × World
  | .create booking cause, w => (.creation booking cause, w)
  | .process id, w => (.worker (.claiming id), w)
  | .resume id threshold, w => (.worker (.renewing id threshold), w)
  | .sweep threshold, w =>
    let (s, w) := Sweep.start w threshold
    (.sweep s, w)
  | .dispatch, w => (.dispatch {}, w)

/-- All that may change at any time by itself. -/
structure Surroundings where
  registry : Registry
  renderers : Supply Invoice.Renderer
  clock : Supply Timestamp
  ids : Supply String
  storeFaults : StoreCall → List Nat
  /-- which events the bus refuses -/
  refusals : Supply Bool
  shelf : Shelf
  /-- which mails the mailer refuses -/
  mailFaults : Supply Bool

/-- The world in other surroundings. -/
def Surroundings.around (s : Surroundings) (w : World) : World :=
  { w with
    registry := s.registry
    renderers := s.renderers
    clock := s.clock
    ids := s.ids
    storeFaults := s.storeFaults
    shelf := s.shelf
    bus := { w.bus with refusals := s.refusals }
    outbox := { w.outbox with faults := s.mailFaults } }

/-! ## Traffic -/

/-- A deed, with the place of the call whose step it was part of. -/
structure Traffic.Entry where
  call : Nat
  deed : Deed

/-- A world, the calls in it, and what was seen of them. -/
structure Traffic where
  world : World
  calls : List Call := []
  log : List Traffic.Entry := []

/-- What can happen next. -/
inductive Move where
  | start (r : Request)
  | advance (call : Nat)
  | publish (e : Event)
  | change (s : Surroundings)

namespace Traffic

/-- The log of one step of a call. -/
def entries (call : Nat) (ds : List Deed) : List Entry := ds.map fun d => ⟨call, d⟩

/-- What happens next. Nothing if there is no such call. -/
def step (t : Traffic) : Move → Traffic
  | .start r =>
    let (c, w) := r.start t.world
    { t with world := w, calls := t.calls ++ [c] }
  | .advance i =>
    match t.calls[i]? with
    | none => t
    | some c =>
      let (c', w) := c.step t.world
      ⟨w, t.calls.set i c', t.log ++ entries i (c.deeds t.world)⟩
  | .publish e => { t with world := (t.world.publish e).2 }
  | .change s => { t with world := s.around t.world }

/-- All that happens, one after the other. -/
def run (t : Traffic) (moves : List Move) : Traffic := moves.foldl step t

/-- What one step keeps, a run keeps. -/
theorem run_induction {P : Traffic → Prop} {Q : Move → Prop}
    (hstep : ∀ t m, P t → Q m → P (t.step m)) (moves : List Move) (t : Traffic) (ht : P t)
    (hmoves : ∀ m ∈ moves, Q m) : P (t.run moves) := by
  induction moves generalizing t with
  | nil => exact ht
  | cons m moves ih =>
    have hm : P (t.step m) := hstep t m ht (hmoves m List.mem_cons_self)
    exact ih (t.step m) hm fun m' hm' => hmoves m' (List.mem_cons_of_mem m hm')

/-- Whether every call is over. -/
def isQuiet (t : Traffic) : Bool := t.calls.all Call.isDone

/-- How many deeds of a kind were seen. -/
def tally (kind : Deed → Bool) (t : Traffic) : Nat := t.log.countP fun e => kind e.deed

end Traffic

/-! ## A small world -/

namespace World

/-- A world that knows one cancelled booking and its user, and has no notice yet. Its clock goes on
by a second at every reading. -/
def oneBooking : World where
  clock := ⟨fun i => ⟨i, 0⟩, 0⟩
  ids := .constant ""
  registry :=
    { users := [(⟨3⟩, ⟨⟨3⟩, "ada@example.org", "Ada"⟩)]
      bookings := [(⟨7⟩, ⟨⟨7⟩, .cancelled, ⟨3⟩, ⟨11⟩, ⟨12⟩, 9000, "USD"⟩)] }

/-- The same world, but the booking is confirmed, and its showtime and seat are known. -/
def oneConfirmed : World :=
  { oneBooking with
    registry :=
      { users := [(⟨3⟩, ⟨⟨3⟩, "ada@example.org", "Ada"⟩)]
        bookings := [(⟨7⟩, ⟨⟨7⟩, .confirmed, ⟨3⟩, ⟨11⟩, ⟨12⟩, 9000, "USD"⟩)]
        showtimes := [(⟨11⟩, ⟨"Metropolis", "Odeon", "Berlin", "1", 0, 9180000⟩)]
        seats := [(⟨12⟩, ⟨⟨12⟩, "C4"⟩)] } }

/-- The world of the cancelled booking, with a notice about it that waits. -/
def oneWaiting : World :=
  { oneBooking with store := (Store.insert {} (.pending ⟨7⟩ ⟨0, 0⟩)).2 }

end World

/-- Two workers take up the only notice: one claims it, and the other renews that claim. -/
def Traffic.takeOver : List Move :=
  [.start (.process ⟨1⟩), .start (.resume ⟨1⟩ 1), .advance 0, .advance 1]

end BookingNotices
