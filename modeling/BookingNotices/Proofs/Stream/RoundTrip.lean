import BookingNotices.Proofs.Json.RoundTrip
import BookingNotices.Proofs.Payload
import BookingNotices.Proofs.Time.Rfc3339
import BookingNotices.Stream.Fields

/-!
# Events read back from a stream

* `Stream.Fields.text?_ofTexts` : a text is found under its name as it was written;
* `Event.ofFields_streamFields` : an entry holds the event that it was written for, if the payload
  is a document that reads back;
* `entries_read_back`  : so every event with such a payload and an instant of a year of four digits
  comes back whole, but for what does not travel, and the two kinds of event that notices are made
  of come back whatever they are.
-/

namespace BookingNotices

open Json

/-- A text is found under its name as it was written. -/
theorem Stream.Fields.text?_ofTexts (texts : List (String × String)) (name : String) :
    (Stream.Fields.ofTexts texts).text? name =
      (texts.findRev? fun f => f.1 = name).map (·.2) := by
  unfold Fields.text? Fields.ofTexts
  rw [List.findRev?_eq_find?_reverse, List.findRev?_eq_find?_reverse, ← List.map_reverse,
    List.find?_map, Option.bind_map]
  -- a text is read back from the bytes that spell it
  have htext (s : String) : (Value.ofText s).text? = some s := dif_pos s.isValidUTF8
  simp only [Function.comp_def, htext]
  cases texts.reverse.find? _ <;> rfl

namespace Event

variable {e : Event}

/-- The texts of an event under their names. -/
theorem text?_streamFields (e : Event) :
    let fields := Stream.Fields.ofTexts e.streamFields
    fields.text? "payload" = some e.payload.compact ∧ fields.text? "event_id" = some e.id ∧
      fields.text? "aggregate_id" = some e.aggregate ∧
      fields.text? "occurred_at" = some e.occurred.offsetText ∧
      fields.text? "correlation_id" = e.metadata.correlation := by
  simp only [Stream.Fields.text?_ofTexts, streamFields]
  cases e.metadata.correlation <;> exact ⟨rfl, rfl, rfl, rfl, rfl⟩

/-- What an entry that was written for an event holds: all of it, but that an instant which its text
does not give back is the one of reading. -/
theorem ofFields_streamFields (hpayload : Json.ofText e.payload.compact = .ok e.payload)
    (entry : String) (now : Timestamp) :
    Event.ofFields e.topic entry (.ofTexts e.streamFields) now = .ok { e with
      occurred := (Time.Rfc3339.readStrict e.occurred.offsetText.toList).toOption.getD now
      metadata := { correlation := e.metadata.correlation } } := by
  obtain ⟨hdocument, hid, haggregate, hoccurred, hcorrelation⟩ := text?_streamFields e
  simp only [Event.ofFields, hdocument, hid, haggregate, hoccurred, hcorrelation, hpayload,
    Option.getD_some, Option.bind_some]

/-- The payload of an announcement reads back from its text. -/
theorem Created.ofText_compact (c : Created) : Json.ofText c.toJson.compact = .ok c.toJson := by
  have hword : IsWord c.id.toInt := by
    have hlow := c.id.value.le_toInt
    have hhigh := c.id.value.toInt_lt
    constructor
    · exact hlow
    · exact Int.lt_trans hhigh (by decide)
  have hnesting : c.toJson.nesting < depthLimit := by
    simp [toJson, nesting, nestingFields, depthLimit]
  refine Json.ofText_compact (.object (List.pairwise_singleton _ _) ?_) hnesting
  intro f hf
  rw [List.mem_singleton.mp hf]
  exact .integer hword

/-- The payload of a payment reads back from its text. -/
theorem PaymentCompleted.ofText_compact (p : PaymentCompleted) :
    Json.ofText p.toJson.compact = .ok p.toJson := by
  have hbooking : IsWord (p.booking.toNat : Int) := by
    have hlt : p.booking.toNat < Nat.pow 2 32 := p.booking.value.toNat_lt
    have hword : Nat.pow 2 32 < Nat.pow 2 64 := by decide
    unfold IsWord
    omega
  have hstatus : IsWord (p.status.code : Int) := by cases p.status <;> decide
  have hsorted : Table.Sorted [("ofBookingId", Json.ofNat p.booking.toNat),
      ("paymentTransactionStatus", Json.ofNat p.status.code)] := .pair (by decide) _ _
  have hnesting : p.toJson.nesting < depthLimit := by
    simp [toJson, nesting, nestingFields, Json.ofNat, depthLimit]
  refine Json.ofText_compact (.object hsorted ?_) hnesting
  intro f hf
  rcases List.mem_cons.mp hf with rfl | hf
  · exact .integer hbooking
  · rw [List.mem_singleton.mp hf]
    exact .integer hstatus

end Event

/-- Events travel over a stream unchanged, whatever the entry's own identity is and whenever it is
read. An event whose payload is a document without floats, with less than 128 brackets open at once,
and whose instant is of a year of four digits, comes back with all that is written; what is not
written is its cause and its count of deliveries. A notice that waits and a payment that has ended
are read back from their entries as they were, whatever the instant. -/
theorem entries_read_back (entry : String) (now : Timestamp) :
    (∀ e : Event, e.payload.Exact → e.payload.nesting < 128 → e.occurred.Common →
      Event.ofFields e.topic entry (.ofTexts e.streamFields) now =
        .ok { e with metadata := { correlation := e.metadata.correlation } }) ∧
    (∀ (c : Event.Created) (id : String) (occurred : Timestamp),
      (Event.ofFields Event.Created.topic entry
        (.ofTexts (c.envelope id occurred).streamFields) now).bind Event.Created.ofEvent = .ok c) ∧
    (∀ (p : Event.PaymentCompleted) (id : String) (occurred : Timestamp),
      (Event.ofFields Event.PaymentCompleted.topic entry
        (.ofTexts (p.envelope id occurred).streamFields) now).bind Event.PaymentCompleted.ofEvent =
          .ok p) := by
  refine ⟨fun e hexact hnesting hoccurred => ?_, fun c id occurred => ?_, fun p id occurred => ?_⟩
  · rw [Event.ofFields_streamFields (Json.ofText_compact hexact hnesting),
      Timestamp.readStrict_offsetText hoccurred]
    rfl
  · show (Event.ofFields (c.envelope id occurred).topic entry _ now).bind _ = _
    rw [Event.ofFields_streamFields (e := c.envelope id occurred) c.ofText_compact]
    exact Event.Created.ofEvent_envelope c id _
  · show (Event.ofFields (p.envelope id occurred).topic entry _ now).bind _ = _
    rw [Event.ofFields_streamFields (e := p.envelope id occurred) p.ofText_compact]
    exact Event.PaymentCompleted.ofEvent_envelope p id _

/-- An event in the middle of a leap second, with an empty identity, a text that is escaped, and the
least of all integers. -/
def Rehearsal.reading : Event where
  id := ""
  topic := "meter"
  aggregate := "été"
  occurred := ⟨1483228799, 1123456789⟩
  payload := .object [
    ("at", .array [.integer (-9223372036854775808), .text "\x01\"é", .array []]),
    ("ok", .bool true)]
  metadata := { correlation := some "" }

/-- Such an event comes back as it was. -/
theorem reading_reads_back :
    Rehearsal.reading.payload.Exact ∧ Rehearsal.reading.payload.nesting < 128 ∧
    Rehearsal.reading.occurred.Common ∧
    Event.ofFields "meter" "7-0" (.ofTexts Rehearsal.reading.streamFields) ⟨0, 0⟩ =
      .ok Rehearsal.reading := by
  have hexact : Rehearsal.reading.payload.Exact := by
    have hitems : Exact (.array [.integer (-9223372036854775808), .text "\x01\"é", .array []]) := by
      refine .array ?_
      simp only [List.forall_mem_cons]
      exact ⟨.integer (by decide), .text _, .array (fun _ h => nomatch h), fun _ h => nomatch h⟩
    refine .object (.pair (by decide) _ _) ?_
    simp only [List.forall_mem_cons]
    exact ⟨hitems, .bool _, fun _ h => nomatch h⟩
  have hnesting : Rehearsal.reading.payload.nesting < 128 := by decide
  have hcommon : Rehearsal.reading.occurred.Common := ⟨by decide, by decide⟩
  exact ⟨hexact, hnesting, hcommon,
    (entries_read_back "7-0" ⟨0, 0⟩).1 Rehearsal.reading hexact hnesting hcommon⟩

end BookingNotices
