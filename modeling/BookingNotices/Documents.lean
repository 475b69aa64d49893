import BookingNotices.Event.Topics
import BookingNotices.Invoice.Params
import BookingNotices.Notice.Basic

/-!
# The documents of the service

* `Document`       : a kind of document: its name, its shape, and how its values are written;
* `Document.all`   : all kinds of document that the service reads or writes;
* `Document.find?` : the kind of a name.
-/

namespace BookingNotices

open Json

/-- A kind of document. -/
structure Document where
  name : String
  shape : Shape
  write : shape.Value → Json

namespace Document

/-- All kinds of document. -/
def all : List Document := [
  ⟨"NotificationId", .i64, .integer⟩,
  ⟨"BookingId", .u32, .integer⟩,
  ⟨"NotificationStatus", .choice "NotificationStatus" (Notice.Status.all.map Notice.Status.text),
    .text⟩,
  ⟨"BookingStatus", .code Booking.Status.codeCount Booking.Status.kind, .ofNat⟩,
  ⟨"PaymentTransactionStatus", .code Event.PaymentStatus.codeCount Event.PaymentStatus.kind,
    .ofNat⟩,
  ⟨"NotificationCreated", Event.Created.shape, fun v => (Event.Created.ofValue v).toJson⟩,
  ⟨"PaymentTransactionCompleted", Event.PaymentCompleted.shape,
    fun v => (Event.PaymentCompleted.ofValue v).toJson⟩,
  ⟨"UserProfile", User.shape, fun v => (User.ofValue v).toJson⟩,
  ⟨"Booking", Booking.shape, fun v => (Booking.ofValue v).toJson⟩,
  ⟨"ShowtimeMetadata", Showtime.shape, fun v => (Showtime.ofValue v).toJson⟩,
  ⟨"Seat", Seat.shape, fun v => (Seat.ofValue v).toJson⟩,
  ⟨"InvoiceParams", Invoice.Params.shape, fun v => (Invoice.Params.ofValue v).toJson⟩,
  ⟨"Notification", Notice.shape, fun v => (Notice.ofValue v).toJson⟩,
  ⟨"Timestamp", .instant, fun t => .text t.text⟩,
  ⟨"EventMetadata", Event.Metadata.shape, fun v => (Event.Metadata.ofValue v).toJson⟩,
  ⟨"EventEnvelope", Event.shape, fun v => (Event.ofValue v).toJson⟩]

/-- The kind of document of a name. -/
def find? (name : String) : Option Document := all.find? fun d => d.name == name

/-- What a value says, written again. -/
def rewriting (d : Document) (j : Json) : Except Json.Problem Json := (d.shape.ofJson j).map d.write

/-- What a text says, written again. -/
def rewritingText (d : Document) (s : String) : Except Json.Fault Json :=
  (d.shape.ofText s).map d.write

end Document

end BookingNotices
