import BookingNotices.Bytes
import BookingNotices.Event.Envelope
import BookingNotices.Json.Document
import BookingNotices.Time.Rfc3339

/-!
# Events as entries of a stream

* `Stream.Value`       : a value as a stream server hands it over; `Value.text?` is the text in it;
* `Stream.Fields`      : the named values of an entry; the last value of a name counts;
* `Event.streamFields` : the texts under which an event is added to a stream;
* `Event.ofFields`     : the event that an entry holds.

The payload travels as a document. What an entry leaves out has a default, except the payload: the
entry's own identity, no aggregate, the instant of reading. Of the metadata only the correlation
travels.
-/

namespace BookingNotices

/-- A value as a stream server hands it over. -/
inductive Stream.Value where
  | bytes (b : Bytes)
  | status (s : String)
  | integer (n : Int)
  | nothing
  deriving DecidableEq

/-- The text in a value. A number is not one, nor are bytes that spell none. -/
def Stream.Value.text? : Stream.Value → Option String
  | .bytes b => b.text?
  | .status s => some s
  | .integer _ | .nothing => none

/-- The value that spells a text. -/
def Stream.Value.ofText (s : String) : Stream.Value := .bytes s.toUTF8

/-- The named values of an entry, in the order in which they were written. -/
abbrev Stream.Fields := List (String × Stream.Value)

/-- The text under a name; of values under one name the last counts. -/
def Stream.Fields.text? (fields : Stream.Fields) (name : String) : Option String :=
  (fields.findRev? fun (n, _) => n = name).bind fun (_, v) => v.text?

/-- The fields that spell these texts. -/
def Stream.Fields.ofTexts (texts : List (String × String)) : Stream.Fields :=
  texts.map fun (name, s) => (name, .ofText s)

namespace Event

/-- The texts under which an event is added to a stream. -/
def streamFields (e : Event) : List (String × String) :=
  [("payload", e.payload.compact), ("event_id", e.id), ("aggregate_id", e.aggregate),
    ("occurred_at", e.occurred.offsetText)] ++
  e.metadata.correlation.toList.map fun s => ("correlation_id", s)

/-- The event that an entry of a topic's stream holds, if it is read now. -/
def ofFields (topic entry : String) (fields : Stream.Fields) (now : Timestamp) :
    Except Failure Event :=
  let problem (s : String) : Failure := ⟨.serializationError, "Stream entry " ++ entry ++ s, []⟩
  match fields.text? "payload" with
  | none => .error (problem " has no payload")
  | some document =>
    match Json.ofText document with
    | .error p => .error (problem (" payload is not JSON: " ++ p.message))
    | .ok payload => .ok {
        id := (fields.text? "event_id").getD entry
        topic := topic
        aggregate := (fields.text? "aggregate_id").getD ""
        occurred := ((fields.text? "occurred_at").bind fun s =>
          (Time.Rfc3339.readStrict s.toList).toOption).getD now
        payload := payload
        metadata := { correlation := fields.text? "correlation_id" } }

end Event

end BookingNotices
