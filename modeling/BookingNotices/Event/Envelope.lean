import BookingNotices.Failure
import BookingNotices.Json.Shape
import BookingNotices.Json.Text

/-!
# Events

* `Event.Metadata` : what a channel and a publisher add to an event;
* `Event`          : an event as it travels: identity, topic, aggregate, instant, payload, metadata;
* `Event.payloadAs` : the payload under a shape, or the failure that names the event;
* `freshId`        : the text of a random identity.
-/

namespace BookingNotices

open Json

/-- What a channel and a publisher add to an event. -/
structure Event.Metadata where
  correlation : Option String := none
  causation : Option String := none
  deliveries : Option UInt32 := none
  deriving DecidableEq, Repr, Inhabited

/-- An event as it travels. -/
structure Event where
  id : String
  topic : String
  aggregate : String
  occurred : Timestamp
  payload : Json
  metadata : Event.Metadata := {}
  deriving Inhabited

namespace Event

/-- The text of an identity with these 122 random bits: five groups of lower-case hexadecimal
digits, with the version and the variant in their places. -/
def freshId (bits : Nat) : String :=
  let group (width n : Nat) : String :=
    let ds := Text.hex (n % Nat.pow 16 width)
    String.ofList (List.replicate (width - ds.length) '0') ++ ds
  group 8 (bits >>> 90) ++ "-" ++ group 4 (bits >>> 74) ++ "-4" ++ group 3 (bits >>> 62) ++ "-" ++
    group 4 (0x8000 + bits >>> 48 % 0x4000) ++ "-" ++ group 12 bits

/-- The event with its cause. -/
def causedBy (e : Event) (cause : String) : Event :=
  { e with metadata := { e.metadata with causation := some cause } }

/-- The event with the request that it belongs to. -/
def correlatedWith (e : Event) (request : String) : Event :=
  { e with metadata := { e.metadata with correlation := some request } }

/-- The event as handed over for the n-th time. -/
def delivered (e : Event) (count : Nat) : Event :=
  { e with metadata := { e.metadata with deliveries := some (UInt32.ofNat count) } }

/-- The payload under a shape. -/
def payloadAs (e : Event) (shape : Shape) : Except Failure shape.Value :=
  (shape.ofJson e.payload).mapError fun p =>
    (Failure.mk .serializationError
      ("Malformed " ++ e.topic ++ " payload: " ++ p.message) []).withDetail
      "event_id" e.id

/-! ## As a document -/

namespace Metadata

abbrev shape : Shape := .record "EventMetadata" <|
  .cons "correlation_id" .nullable .string <|
  .cons "causation_id" .nullable .string <|
  .cons "delivery_count" .nullable .u32 .nil

def ofValue (v : shape.Value) : Metadata :=
  match v with
  | (correlation, causation, deliveries, ()) =>
    ⟨correlation, causation, deliveries.map fun n => UInt32.ofNat (Int.toNat n)⟩

def toJson (m : Metadata) : Json :=
  .ofFields (
    (m.correlation.toList.map fun s => ("correlation_id", Json.text s)) ++
    (m.causation.toList.map fun s => ("causation_id", Json.text s)) ++
    (m.deliveries.toList.map fun n => ("delivery_count", Json.ofNat n.toNat)))

end Metadata

abbrev shape : Shape := .record "EventEnvelope" <|
  .cons "event_id" .required .string <|
  .cons "event_type" .required .string <|
  .cons "aggregate_id" .required .string <|
  .cons "occurred_at" .required .instant <|
  .cons "payload" .required .any <|
  .cons "metadata" .required Metadata.shape .nil

def ofValue (v : shape.Value) : Event :=
  match v with
  | (id, topic, aggregate, occurred, payload, metadata, ()) =>
    ⟨id, topic, aggregate, occurred, payload, .ofValue metadata⟩

def toJson (e : Event) : Json := .ofFields [
  ("event_id", .text e.id),
  ("event_type", .text e.topic),
  ("aggregate_id", .text e.aggregate),
  ("occurred_at", .text e.occurred.text),
  ("payload", e.payload),
  ("metadata", e.metadata.toJson)]

end Event

end BookingNotices
