import BookingNotices.Proofs.Consumption
import BookingNotices.Proofs.Stream.RoundTrip
import BookingNotices.Stream.Consumer

/-!
# Causes on the two channels

* `Transaction.bus_of_announce` : an announcement is published with its cause;
* `World.bus_of_create`         : so is that of a creation;
* `Event.handed_over`           : what a stream hands over of an event is what the bus in memory
  does, but for its cause and its instant;
* `announced_causes`            : the announcement that a payment leads to names the payment in
  memory, and nothing on a stream.
-/

namespace BookingNotices

open Event

/-! ## What is published -/

/-- An announcement that is not refused is published with its cause. -/
theorem Transaction.bus_of_announce {id : NoticeId} {cause : Option String} {s s' : Store}
    {w w' : World} (h : announce id cause s w = (.ok ((), s'), w')) :
    ∃ eventId now, w'.bus = w.bus.accept (Created.announcement id cause eventId now) := by
  refine ⟨w.freshId.1, w.freshId.2.now.1, ?_⟩
  rw [announce_eq] at h
  unfold publish World.publish at h
  rw [show w.freshId.2.now.2.bus = w.bus from rfl] at h
  cases hrefuses : w.bus.refuses with
  | true =>
    obtain ⟨f, hpublish, -⟩ := Bus.publish_of_refuses hrefuses
      (Created.announcement id cause w.freshId.1 w.freshId.2.now.1)
    rw [hpublish] at h
    cases h
  | false =>
    rw [Bus.publish_of_not_refuses hrefuses] at h
    cases h
    rfl

/-- A row that is created is announced with its cause. -/
theorem World.bus_of_create {w : World} {booking : BookingId} {cause : Option String} {n : Notice}
    (h : (w.create booking cause).1 = .ok n) :
    ∃ eventId now, (w.create booking cause).2.bus =
      w.bus.accept (Created.announcement n.id cause eventId now) := by
  unfold create at h ⊢
  rcases Transaction.run_cases (Transaction.aside_create booking cause) (fun _ => true) w with
    ⟨e, w', hrun, -⟩ | ⟨w₀, a, staged, w₂, w', hbegun, hwork, hended, -, hrun⟩
  · rw [hrun] at h
    cases h
  · rw [hrun] at h ⊢
    obtain rfl : a = n := Except.ok.inj h
    obtain ⟨-, -, w₁, hcalls, hann⟩ := Transaction.create_eq_ok hwork
    obtain ⟨eventId, now, hbus⟩ := Transaction.bus_of_announce hann
    rw [(hbegun.now.trans hcalls).bus] at hbus
    exact ⟨eventId, now, hended.bus.trans hbus⟩

theorem Event.Created.payload_announcement (id : NoticeId) (cause : Option String)
    (eventId : String) (now : Timestamp) :
    (Created.announcement id cause eventId now).payload = (Created.mk id).toJson := by
  cases cause <;> rfl

/-- An event announces what its topic, its payload and its identity say. -/
theorem Event.AnnouncesOnly.congr {id : NoticeId} {e event : Event} (h : e.AnnouncesOnly id)
    (hid : event.id = e.id) (htopic : event.topic = e.topic)
    (hpayload : event.payload = e.payload) : event.AnnouncesOnly id := by
  obtain ⟨htopics, hread⟩ := h
  refine ⟨htopic.trans htopics, ?_⟩
  rw [← hread]
  unfold Created.ofEvent payloadAs
  rw [hid, htopic, hpayload]

/-! ## What is handed over -/

/-- A consumer that has read the entry of an event hands its handlers this event. -/
def Stream.Member.HandsOver {σ η : Type} (m : Member η) (handle : Handle σ η) (s : Site σ)
    (e : Event) (count : Nat) (event : Event) : Prop :=
  ∀ number, ∃ s', m.perform handle s (.deliver e.topic ⟨number, .ofTexts e.streamFields⟩ count) =
    (.ok { jobs := [.handle e.topic number event (m.handlersOf e.topic) true] }, s')

section

variable {σ η : Type} (m : Stream.Member η) (handle : Stream.Handle σ η) (s : Stream.Site σ)
  (count : Nat)

/-- Of an event whose payload reads back a stream hands over what the bus in memory does, but for
the cause, and for an instant that its text does not give back. -/
theorem Event.handed_over {e : Event} (hpayload : Json.ofText e.payload.compact = .ok e.payload) :
    m.HandsOver handle s e count
      { e.delivered count with
        occurred := (Time.Rfc3339.readStrict e.occurred.offsetText.toList).toOption.getD s.now.1
        metadata := { (e.delivered count).metadata with causation := none } } := by
  intro number
  rcases hnow : s.now with ⟨now, s'⟩
  refine ⟨s', ?_⟩
  simp only [Stream.Member.perform, hnow, ofFields_streamFields hpayload, Event.delivered]

/-- An event that has no cause is handed over with the same metadata by a stream and by the bus in
memory; one that has a cause loses it on the stream, and nothing else. So it goes with the
announcement of every row that a payment leads to: in memory it names the payment that caused it,
on a stream none. -/
theorem cause_kept_in_memory_only :
    (∀ e : Event, Json.ofText e.payload.compact = .ok e.payload →
      ∃ event, m.HandsOver handle s e count event ∧
        event.metadata = { (e.delivered count).metadata with causation := none } ∧
        (event.metadata = (e.delivered count).metadata ↔ e.metadata.causation = none)) ∧
    ∀ (w : World) (e : Event) (p : PaymentCompleted) (n : Notice),
      PaymentCompleted.ofEvent e = .ok p → (w.create p.booking (some e.id)).1 = .ok n →
      ∃ announcement event, (w.consume .paymentCompleted e).2.bus = w.bus.accept announcement ∧
        announcement.AnnouncesOnly n.id ∧
        (announcement.delivered count).metadata =
          { causation := some e.id, deliveries := some (UInt32.ofNat count) } ∧
        m.HandsOver handle s announcement count event ∧ event.AnnouncesOnly n.id ∧
        event.metadata = { deliveries := some (UInt32.ofNat count) } := by
  constructor
  · intro e hpayload
    refine ⟨_, handed_over m handle s count hpayload, rfl, ?_⟩
    constructor
    · intro hsame
      exact (congrArg Metadata.causation hsame).symm
    · intro hcause
      have hdelivered : (e.delivered count).metadata.causation = none := hcause
      rw [← hdelivered]
  · intro w e p n hpayment hcreated
    obtain ⟨eventId, now, hbus⟩ := World.bus_of_create hcreated
    have hpayload := Created.payload_announcement n.id (some e.id) eventId now
    have hreads := Created.ofText_compact ⟨n.id⟩
    rw [← hpayload] at hreads
    have honly := AnnouncesOnly.announcement n.id (some e.id) eventId now
    refine ⟨_, _, ?_, honly, rfl, handed_over m handle s count hreads, honly.congr rfl rfl rfl, rfl⟩
    rw [World.consume_payment hpayment]
    exact hbus

end

/-- A payment that leads to the first row. -/
def Rehearsal.payment : Event :=
  (PaymentCompleted.mk ⟨7⟩ .success).envelope "p-1" ⟨0, 0⟩

/-- Its announcement on a stream whose consumer has one handler. -/
theorem cause_of_first_row :
    PaymentCompleted.ofEvent Rehearsal.payment = .ok ⟨⟨7⟩, .success⟩ ∧
      ∃ (n : Notice) (announcement event : Event),
        (World.bare.create ⟨7⟩ (some "p-1")).1 = .ok n ∧
        (World.bare.consume .paymentCompleted Rehearsal.payment).2.bus =
          World.bare.bus.accept announcement ∧
        (announcement.delivered 1).metadata = { causation := some "p-1", deliveries := some 1 } ∧
        event.metadata = { deliveries := some 1 } := by
  have hpayment : PaymentCompleted.ofEvent Rehearsal.payment = .ok ⟨⟨7⟩, .success⟩ :=
    PaymentCompleted.ofEvent_envelope ⟨⟨7⟩, .success⟩ "p-1" ⟨0, 0⟩
  obtain ⟨-, hcreations⟩ := cause_kept_in_memory_only
    ({ subscriptions := [(Created.topic, ())] } : Stream.Member Unit)
    (fun _ _ s => (.ok (), s)) { clock := .constant ⟨0, 0⟩, outside := () } 1
  obtain ⟨announcement, event, hbus, -, hmemory, -, -, hstream⟩ :=
    hcreations .bare Rehearsal.payment ⟨⟨7⟩, .success⟩ _ hpayment rfl
  exact ⟨hpayment, _, announcement, event, rfl, hbus, hmemory, hstream⟩

/-- The announcement of the first row names its payment, but its entry in a stream does not. -/
theorem cause_lost_on_stream :
    (World.bare.consume .paymentCompleted Rehearsal.payment).2.bus.published.map
        (fun e => e.metadata.causation) = [some "p-1"] ∧
      (World.bare.consume .paymentCompleted Rehearsal.payment).2.bus.published.map (fun e =>
        (Event.ofFields e.topic "1-0" (.ofTexts e.streamFields) ⟨0, 0⟩).toOption.map
          fun e => e.metadata.causation) = [some none] := by
  have hpayment : PaymentCompleted.ofEvent Rehearsal.payment = .ok ⟨⟨7⟩, .success⟩ :=
    PaymentCompleted.ofEvent_envelope ⟨⟨7⟩, .success⟩ "p-1" ⟨0, 0⟩
  have hpublished :
      (World.bare.consume .paymentCompleted Rehearsal.payment).2.bus.published =
        [Created.announcement ⟨1⟩ (some "p-1") "" ⟨0, 0⟩] := by
    rw [World.consume_payment hpayment]
    rfl
  rw [hpublished, List.map_singleton, List.map_singleton,
    ofFields_streamFields (Created.ofText_compact ⟨⟨1⟩⟩)]
  exact ⟨rfl, rfl⟩

end BookingNotices
