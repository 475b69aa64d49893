import BookingNotices.Numeric.Total
import BookingNotices.Service.Create
import BookingNotices.Service.Worker

/-!
# Consumers of events

* `acknowledge`       : what the end of the work means for the event that led to it;
* `World.consume`     : what a consumer does with an event;
* `World.register`    : subscribes both consumers to their topics;
* `World.dispatchAll` : delivers until nothing waits.

An error that may pass is reported, so that the event is delivered again. Any other error drops the
event; so does the discovery that the work is done already. A payload that cannot be read is
reported.
-/

namespace BookingNotices

/-- What the end of the work means for the event that led to it. -/
def acknowledge {α : Type} : Except Notice.Error α → Except Failure Unit
  | .ok _ => .ok ()
  | .error e => if e.isRetryable then .error e.toFailure else .ok ()

namespace World

/-- What a consumer does with an event. -/
def consume (c : Consumer) (e : Event) (w : World) : Except Failure Unit × World :=
  match c with
  | .noticeCreated =>
    match Event.Created.ofEvent e with
    | .error f => (.error f, w)
    | .ok created =>
      let (result, w) := w.process created.id
      (acknowledge result, w)
  | .paymentCompleted =>
    match Event.PaymentCompleted.ofEvent e with
    | .error f => (.error f, w)
    | .ok payment =>
      let (result, w) := w.create payment.booking (some e.id)
      (acknowledge result, w)

/-- The topic of a consumer. -/
def topicOf : Consumer → String
  | .noticeCreated => Event.Created.topic
  | .paymentCompleted => Event.PaymentCompleted.topic

/-- Subscribes both consumers to their topics. -/
def register (w : World) : World :=
  let subscribe (b : Bus Consumer) (c : Consumer) : Bus Consumer := b.subscribe (topicOf c) c
  { w with bus := subscribe (subscribe w.bus .paymentCompleted) .noticeCreated }

/-! ## Dispatch ends -/

/-- How many deliveries an announcement can lead to. -/
def announcementCost (w : World) : Nat :=
  (w.bus.handlersOf Event.Created.topic).length * w.bus.attemptLimit

/-- How many deliveries an attempt of a consumer can lead to, itself included: one that creates a
row announces it, and the claim of that row announces it once more. -/
def attemptCost (w : World) : Consumer → Nat
  | .noticeCreated => 1
  | .paymentCompleted => 1 + 2 * w.announcementCost

/-- More deliveries than can follow. A row is claimed once, which announces it; a claim or a
creation whose commit fails has announced in vain, and such failures are finite in number. -/
def deliveryBound (w : World) : Nat :=
  Numeric.total (w.bus.queue.map fun d =>
      max 1 (w.bus.attemptLimit - d.attempts) * w.attemptCost d.handler) +
    (w.store.rows.values.countP (·.status = .pending) + (w.storeFaults .commit).length) *
      w.announcementCost + 1

/-- Delivers until nothing waits. -/
def dispatchAll (w : World) : Bus.Report × World := Bus.dispatch consume w.deliveryBound w

end World

end BookingNotices
