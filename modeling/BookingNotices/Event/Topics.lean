import BookingNotices.Event.Envelope
import BookingNotices.Id

/-!
# The two kinds of event that notices are made of

* `Event.Created`          : a notice waits for a worker;
* `Event.PaymentCompleted` : another service has finished a payment for a booking;
* for each its topic, the envelope it travels in, and its shape as a payload.
-/

namespace BookingNotices.Event

open Json

/-- A notice waits for a worker. -/
structure Created where
  id : NoticeId
  deriving DecidableEq, Repr, Inhabited

namespace Created

def topic : String := "notification_service_notification_created"

abbrev shape : Shape := .record "NotificationCreated" <| .cons "id" .required .i64 .nil

def ofValue (v : shape.Value) : Created :=
  match v with
  | (id, ()) => ⟨.ofInt id⟩

def toJson (c : Created) : Json := .object [("id", .integer c.id.toInt)]

/-- The event in its envelope. -/
def envelope (c : Created) (id : String) (now : Timestamp) : Event :=
  { id := id, topic := topic, aggregate := c.id.toText, occurred := now, payload := c.toJson }

/-- Reads the payload of an event. -/
def ofEvent (e : Event) : Except Failure Created := (e.payloadAs shape).map ofValue

end Created

/-- How a payment ended. -/
inductive PaymentStatus where
  | pending
  | success
  | cancel
  deriving DecidableEq, Repr, Inhabited

namespace PaymentStatus

/-- The kind of value that an unknown code is reported as. -/
def kind : String := "payment transaction status"

/-- How many codes there are. -/
def codeCount : Nat := 3

/-- The number that stands for a status. -/
def code : PaymentStatus → Nat
  | .pending => 0
  | .success => 1
  | .cancel => 2

/-- The status that a number stands for. -/
def ofCode : Nat → Except Rejection PaymentStatus
  | 0 => .ok .pending
  | 1 => .ok .success
  | 2 => .ok .cancel
  | n => .error (.unknownVariant kind (toString n))

@[simp] theorem ofCode_code (s : PaymentStatus) : ofCode s.code = .ok s := by cases s <;> rfl

/-- The status with a code that is known to stand for one. -/
def ofKnownCode (n : Nat) : PaymentStatus := (ofCode n).toOption.getD .pending

def name : PaymentStatus → String
  | .pending => "pending"
  | .success => "success"
  | .cancel => "cancel"

end PaymentStatus

/-- Another service has finished a payment for a booking. -/
structure PaymentCompleted where
  booking : BookingId
  status : PaymentStatus
  deriving DecidableEq, Repr, Inhabited

namespace PaymentCompleted

def topic : String := "payment_service_payment_transaction_completed"

abbrev shape : Shape := .record "PaymentTransactionCompleted" <|
  .cons "ofBookingId" .required .u32 <|
  .cons "paymentTransactionStatus" .required
    (.code PaymentStatus.codeCount PaymentStatus.kind) .nil

def ofValue (v : shape.Value) : PaymentCompleted :=
  match v with
  | (booking, status, ()) => ⟨.ofInt booking, .ofKnownCode status⟩

def toJson (p : PaymentCompleted) : Json := .object [
  ("ofBookingId", .ofNat p.booking.toNat),
  ("paymentTransactionStatus", .ofNat p.status.code)]

/-- The event in its envelope. -/
def envelope (p : PaymentCompleted) (id : String) (now : Timestamp) : Event :=
  { id := id, topic := topic, aggregate := p.booking.toText, occurred := now, payload := p.toJson }

/-- Reads the payload of an event. -/
def ofEvent (e : Event) : Except Failure PaymentCompleted := (e.payloadAs shape).map ofValue

end PaymentCompleted

end BookingNotices.Event
