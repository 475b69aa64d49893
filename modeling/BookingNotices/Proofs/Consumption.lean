import BookingNotices.Proofs.Creation
import BookingNotices.Proofs.Inquiry

/-!
# What the consumers act on

* `Event.Creates`, `Event.Processes` : an event makes its consumer create a notice about a booking,
  or process a notice, whatever the world is like;
* `World.Rejects` : an event is refused by a consumer, and nothing changes;
* `Creates.booking_eq`, `Processes.id_eq` : no event makes them do two different things;
* `creates_iff`, `processes_iff` : they do what the payload says;
* `consumers_act_on_payload` : they do that, and refuse every payload that says nothing.

Two calls are told apart by a world in which they end differently: creations over an empty store
leave rows of their own bookings, and where no row can be written only the call for the row that is
there fails.
-/

namespace BookingNotices

open Event

/-! ## What an event does -/

/-- In every world the event makes its consumer create a notice about the booking. -/
def Event.Creates (e : Event) (booking : BookingId) : Prop :=
  ∀ w : World, w.consume .paymentCompleted e =
    (acknowledge (w.create booking (some e.id)).1, (w.create booking (some e.id)).2)

/-- In every world the event makes its consumer process the notice. -/
def Event.Processes (e : Event) (id : NoticeId) : Prop :=
  ∀ w : World, w.consume .noticeCreated e =
    (acknowledge (w.process id).1, (w.process id).2)

/-- The consumer reports that the payload of the event cannot be read, and nothing changes. -/
def World.Rejects (w : World) (c : Consumer) (e : Event) : Prop :=
  ∃ p : Json.Problem, w.consume c e = (.error ⟨.serializationError,
    "Malformed " ++ e.topic ++ " payload: " ++ p.message, [("event_id", e.id)]⟩, w)

variable {e : Event} {w : World}

namespace World

theorem consume_payment {e : Event} {p : Event.PaymentCompleted}
    (h : Event.PaymentCompleted.ofEvent e = .ok p) (w : World) :
    consume .paymentCompleted e w =
      (acknowledge (w.create p.booking (some e.id)).1, (w.create p.booking (some e.id)).2) := by
  unfold consume
  dsimp only
  rw [h]

theorem consume_created {e : Event} {c : Event.Created} (h : Event.Created.ofEvent e = .ok c)
    (w : World) : consume .noticeCreated e w =
      (acknowledge (w.process c.id).1, (w.process c.id).2) := by
  unfold consume
  dsimp only
  rw [h]

end World

theorem creates_of_ofEvent {p : PaymentCompleted} (h : PaymentCompleted.ofEvent e = .ok p) :
    e.Creates p.booking := World.consume_payment h

theorem processes_of_ofEvent {c : Created} (h : Created.ofEvent e = .ok c) : e.Processes c.id :=
  World.consume_created h

theorem rejects_payment {f : Failure} (h : PaymentCompleted.ofEvent e = .error f) (w : World) :
    w.Rejects .paymentCompleted e := by
  obtain ⟨p, rfl⟩ := payloadAs_map_eq_error h
  refine ⟨p, ?_⟩
  unfold World.consume
  rw [h]

theorem rejects_announcement {f : Failure} (h : Created.ofEvent e = .error f) (w : World) :
    w.Rejects .noticeCreated e := by
  obtain ⟨p, rfl⟩ := payloadAs_map_eq_error h
  refine ⟨p, ?_⟩
  unfold World.consume
  rw [h]

/-! ## What is reported -/

theorem acknowledge_of_retryable {α : Type} {r : Except Notice.Error α} {e : Notice.Error}
    (hr : r = .error e) (h : e.isRetryable = true) : ∃ f, acknowledge r = .error f := by
  rw [hr]
  unfold acknowledge
  dsimp only
  rw [h]
  exact ⟨_, rfl⟩

theorem acknowledge_of_not_retryable {α : Type} {r : Except Notice.Error α}
    (h : ∀ e, r = .error e → e.isRetryable = false) : acknowledge r = .ok () := by
  cases r with
  | ok => rfl
  | error e =>
    unfold acknowledge
    dsimp only
    rw [h e rfl]
    rfl

/-! ## Calls told apart -/

/-- A world without rows, bookings or anything else. -/
def World.bare : World := { clock := .constant ⟨0, 0⟩, ids := .constant "" }

theorem create_bare (booking : BookingId) (cause : Option String) :
    acknowledge (World.bare.create booking cause).1 = .ok () ∧
      (World.bare.create booking cause).2.store.bookings = [booking] := ⟨rfl, rfl⟩

/-- An event does not make its consumer create notices about two bookings. -/
theorem Event.Creates.booking_eq {a b : BookingId} (ha : e.Creates a) (hb : e.Creates b) :
    a = b := by
  have hsame := congrArg (fun r => r.2.store.bookings) ((ha .bare).symm.trans (hb .bare))
  dsimp only at hsame
  rw [(create_bare a _).2, (create_bare b _).2] at hsame
  exact (List.cons.inj hsame).1

/-- A world with one row, which waits and cannot be written. -/
def World.unwritable (id : NoticeId) : World :=
  { World.bare with
    store := { rows := [(id, { Notice.pending ⟨0⟩ ⟨0, 0⟩ with id := id })] }
    storeFaults := fun c => if c = .update then [0] else [] }

/-- A claim that fails ends its worker. -/
theorem process_of_claim_error {id : NoticeId} {err : Notice.Error}
    (hbegin : w.storeFaults .begin = [])
    (hclaim : (Transaction.claim id w.store w).1 = .error err) : (w.process id).1 = .error err := by
  have hrun : ((Transaction.claim id).run Option.isSome w).1 = .error err := by
    unfold Transaction.run
    rw [World.storeFails_of_nil hbegin]
    dsimp only
    rcases hwork : Transaction.claim id w.store w with ⟨r, w'⟩
    rw [hwork] at hclaim
    cases hclaim
    rfl
  have hstep : (Worker.step (.claiming id) w).1 = .ended (.error err) := by
    show Worker.afterTaking ((Transaction.claim id).run Option.isSome w).1 = _
    rw [hrun]
    rfl
  rw [World.process, Worker.run_of_ended rfl hstep]

theorem lock_unwritable (id other : NoticeId) :
    Transaction.lock other (World.unwritable id).store (World.unwritable id) =
      match (World.unwritable id).store.get other with
      | .ok n => (.ok (n, (World.unwritable id).store), World.unwritable id)
      | .error f => (.error (.ofFailure f), World.unwritable id) := by
  show (match (World.unwritable id).store.get other with
    | .ok n => pure n
    | .error f => throw (.ofFailure f) : Transaction Notice) _ _ = _
  cases (World.unwritable id).store.get other <;> rfl

/-- The row is there, but cannot be written. -/
theorem process_unwritable (id : NoticeId) :
    acknowledge ((World.unwritable id).process id).1 =
      .error (Notice.Error.ofFailure StoreCall.update.failure).toFailure := by
  have hget : (World.unwritable id).store.get id =
      .ok { Notice.pending ⟨0⟩ ⟨0, 0⟩ with id := id } := Store.get_eq_ok.mpr (if_pos rfl)
  have hclaim : (Transaction.claim id (World.unwritable id).store (World.unwritable id)).1 =
      .error (.ofFailure StoreCall.update.failure) := by
    unfold Transaction.claim
    rw [Transaction.bind_apply, lock_unwritable, hget]
    rfl
  rw [process_of_claim_error rfl hclaim]
  rfl

/-- Another row is not there, which is no reason to try again. -/
theorem process_unwritable_of_ne {id other : NoticeId} (hne : id ≠ other) :
    acknowledge ((World.unwritable id).process other).1 = .ok () := by
  have hget : (World.unwritable id).store.get other = .error (Store.notFound other) := by
    have hfind : (World.unwritable id).store.rows.find? other = none := if_neg hne
    unfold Store.get
    rw [hfind]
  have hclaim : (Transaction.claim other (World.unwritable id).store (World.unwritable id)).1 =
      .error (.ofFailure (Store.notFound other)) := by
    unfold Transaction.claim
    rw [Transaction.bind_apply, lock_unwritable, hget]
  refine acknowledge_of_not_retryable fun err herr => ?_
  rw [process_of_claim_error rfl hclaim] at herr
  cases herr
  rfl

/-- An event does not make its consumer process two notices. -/
theorem Event.Processes.id_eq {a b : NoticeId} (ha : e.Processes a) (hb : e.Processes b) :
    a = b := by
  refine Decidable.byContradiction fun hne => ?_
  have hsame := congrArg Prod.fst ((ha (.unwritable a)).symm.trans (hb (.unwritable a)))
  dsimp only at hsame
  rw [process_unwritable, process_unwritable_of_ne hne] at hsame
  cases hsame

/-! ## What the consumers act on -/

/-- The consumer of payments creates a notice about a booking exactly if the payload says that a
payment for it is finished. -/
theorem creates_iff (h : e.payload.Distinct) (booking : BookingId) :
    e.Creates booking ↔ ∃ status, PaymentCompleted.SaidBy ⟨booking, status⟩ e.payload := by
  constructor
  · intro hcreates
    cases hread : PaymentCompleted.ofEvent e with
    | error f =>
      obtain ⟨p, hrejects⟩ := rejects_payment hread .bare
      have hsame := congrArg Prod.fst (hrejects.symm.trans (hcreates .bare))
      dsimp only at hsame
      rw [(create_bare booking _).1] at hsame
      cases hsame
    | ok p =>
      obtain rfl := hcreates.booking_eq (creates_of_ofEvent hread)
      exact ⟨p.status, (PaymentCompleted.ofEvent_iff h p).mp hread⟩
  · rintro ⟨status, hsaid⟩
    have hread := (PaymentCompleted.ofEvent_iff h ⟨booking, status⟩).mpr hsaid
    exact creates_of_ofEvent (p := ⟨booking, status⟩) hread

/-- The consumer of announcements processes a notice exactly if the payload says that it waits. -/
theorem processes_iff (h : e.payload.Distinct) (id : NoticeId) :
    e.Processes id ↔ Created.SaidBy ⟨id⟩ e.payload := by
  constructor
  · intro hprocesses
    cases hread : Created.ofEvent e with
    | error f =>
      obtain ⟨p, hrejects⟩ := rejects_announcement hread (.unwritable id)
      have hsame := congrArg Prod.fst (hrejects.symm.trans (hprocesses (.unwritable id)))
      dsimp only at hsame
      rw [process_unwritable] at hsame
      have hcode := congrArg Failure.code (Except.error.inj hsame)
      cases hcode
    | ok c =>
      obtain rfl := hprocesses.id_eq (processes_of_ofEvent hread)
      exact (Created.ofEvent_iff h c).mp hread
  · intro hsaid
    have hread := (Created.ofEvent_iff h ⟨id⟩).mpr hsaid
    exact processes_of_ofEvent (c := ⟨id⟩) hread

/-- In every world the consumers act on what the payload says, as an object in which each name
stands for one field or as a list, and on nothing else. Whatever says nothing to a consumer is
reported to be malformed, with the identity of the event, and nothing changes. No payload that
travels has two fields of one name. -/
theorem consumers_act_on_payload (h : e.payload.Distinct) :
    (∀ booking, e.Creates booking ↔
      ∃ status, PaymentCompleted.SaidBy ⟨booking, status⟩ e.payload) ∧
    (∀ id, e.Processes id ↔ Created.SaidBy ⟨id⟩ e.payload) ∧
    ((∀ p : PaymentCompleted, ¬ p.SaidBy e.payload) →
      ∀ w : World, w.Rejects .paymentCompleted e) ∧
    ((∀ c : Created, ¬ c.SaidBy e.payload) → ∀ w : World, w.Rejects .noticeCreated e) := by
  refine ⟨creates_iff h, processes_iff h, fun hnone w => ?_, fun hnone w => ?_⟩
  · cases hread : PaymentCompleted.ofEvent e with
    | error f => exact rejects_payment hread w
    | ok p => exact absurd ((PaymentCompleted.ofEvent_iff h p).mp hread) (hnone p)
  · cases hread : Created.ofEvent e with
    | error f => exact rejects_announcement hread w
    | ok c => exact absurd ((Created.ofEvent_iff h c).mp hread) (hnone c)

/-- A payment for booking 7, with a field that nobody reads, has a notice about it created; it is
no announcement. -/
theorem consumers_act_on_extended_payment :
    let e : Event := ⟨"e", "t", "7", ⟨0, 0⟩, .object [("ofBookingId", .integer 7),
      ("paymentTransactionStatus", .integer 1), ("currency", .text "EUR")], {}⟩
    e.Creates ⟨7⟩ ∧ (∀ w : World, w.Rejects .noticeCreated e) := by
  intro e
  obtain ⟨hcreates, -, -, hrejects⟩ := consumers_act_on_payload (e := e)
    (by show List.Nodup ["ofBookingId", "paymentTransactionStatus", "currency"]; decide)
  refine ⟨(hcreates ⟨7⟩).mpr ⟨.success, Or.inl ⟨rfl, rfl⟩⟩, hrejects ?_⟩
  rintro c (hget | hlist)
  · cases hget
  · cases hlist

end BookingNotices
