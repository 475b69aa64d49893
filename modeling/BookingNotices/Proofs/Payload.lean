import BookingNotices.Event.Topics
import BookingNotices.Proofs.Json.Record

/-!
# Payloads

* `Created.SaidBy`, `PaymentCompleted.SaidBy` : how a payload says one of the two events, as an
  object or as a list;
* `Created.ofEvent_iff`, `PaymentCompleted.ofEvent_iff` : what is read from a payload is what it
  says;
* `Created.ofEvent_envelope`, `PaymentCompleted.ofEvent_envelope` : so an event reads as what was
  put into its envelope;
* `payloadAs_map_eq_error` : what reads as nothing is a failure that names the event.
-/

namespace BookingNotices

theorem NoticeId.toInt_ofInt {n : Int} (h : Text.Width.i64.holds n = true) :
    (NoticeId.ofInt n).toInt = n := by
  obtain ⟨hlow, hhigh⟩ := (Text.Width.holds_iff _ _).mp h
  have hlow : -2 ^ 63 ≤ n := hlow
  have hhigh : n ≤ 2 ^ 63 - 1 := hhigh
  exact Int64.toInt_ofInt_of_le hlow (by omega)

theorem NoticeId.ofInt_toInt (id : NoticeId) : NoticeId.ofInt id.toInt = id := by
  rw [NoticeId.ofInt, NoticeId.toInt, Int64.ofInt_toInt]

theorem BookingId.toNat_ofInt {n : Int} (h : Text.Width.u32.holds n = true) :
    ((BookingId.ofInt n).toNat : Int) = n := by
  obtain ⟨hlow, hhigh⟩ := (Text.Width.holds_iff _ _).mp h
  have hlow : 0 ≤ n := hlow
  have hhigh : n ≤ 2 ^ 32 - 1 := hhigh
  have hword : (UInt32.ofNat n.toNat).toNat = n.toNat :=
    UInt32.toNat_ofNat_of_lt' (show n.toNat < 2 ^ 32 by omega)
  show ((UInt32.ofNat n.toNat).toNat : Int) = n
  rw [hword, Int.toNat_of_nonneg hlow]

theorem BookingId.ofInt_toNat (id : BookingId) : BookingId.ofInt (id.toNat : Int) = id := by
  rw [BookingId.ofInt, BookingId.toNat, Int.toNat_natCast, UInt32.ofNat_toNat]

namespace Event

open Json

/-! ## What a payload says -/

/-- The payload says that the notice waits: as an object, or as the list of its only field. -/
def Created.SaidBy (c : Created) (payload : Json) : Prop :=
  payload.get? "id" = some (.integer c.id.toInt) ∨ payload = .array [.integer c.id.toInt]

/-- The payload says that the payment is finished: as an object, or as the list of its two
fields. -/
def PaymentCompleted.SaidBy (p : PaymentCompleted) (payload : Json) : Prop :=
  (payload.get? "ofBookingId" = some (.ofNat p.booking.toNat) ∧
    payload.get? "paymentTransactionStatus" = some (.ofNat p.status.code)) ∨
  payload = .array [.ofNat p.booking.toNat, .ofNat p.status.code]

/-! ## What is read from it -/

theorem payloadAs_eq_ok_iff {e : Event} {shape : Shape} {v : shape.Value} :
    e.payloadAs shape = .ok v ↔ shape.ofJson e.payload = .ok v := by
  unfold payloadAs
  cases shape.ofJson e.payload with
  | error p => exact ⟨nofun, nofun⟩
  | ok u => exact ⟨fun h => by cases h; rfl, fun h => by cases h; rfl⟩

/-- The failure of a payload from which nothing is read. -/
theorem payloadAs_map_eq_error {e : Event} {shape : Shape} {α : Type} {g : shape.Value → α}
    {f : Failure} (h : (e.payloadAs shape).map g = .error f) :
    ∃ p : Json.Problem, f = ⟨.serializationError,
      "Malformed " ++ e.topic ++ " payload: " ++ p.message, [("event_id", e.id)]⟩ := by
  unfold payloadAs at h
  cases hread : shape.ofJson e.payload with
  | error p =>
    rw [hread] at h
    cases h
    exact ⟨p, rfl⟩
  | ok u =>
    rw [hread] at h
    cases h

theorem Created.ofJson_iff {payload : Json} (hpayload : payload.Distinct) (n : Int) :
    Created.shape.ofJson payload = .ok (n, ()) ↔
      Text.Width.i64.holds n = true ∧
        (payload.get? "id" = some (.integer n) ∨ payload = .array [.integer n]) := by
  refine (Shape.ofJson_required_iff "NotificationCreated" [("id", .i64)] (by decide)
    hpayload (n, ())).trans ⟨?_, ?_⟩
  · rintro (⟨entries, rfl, ⟨j, hj, hn⟩, -⟩ | ⟨items, rfl, j, rest, rfl, hn, rfl⟩)
    all_goals obtain ⟨rfl, hholds⟩ := Shape.ofJson_integer_iff.mp hn
    · exact ⟨hholds, Or.inl hj⟩
    · exact ⟨hholds, Or.inr rfl⟩
  · rintro ⟨hholds, hsaid⟩
    have hn : Shape.i64.ofJson (.integer n) = .ok n := Shape.ofJson_integer_iff.mpr ⟨rfl, hholds⟩
    rcases hsaid with hget | rfl
    · cases payload with
      | object entries => exact Or.inl ⟨entries, rfl, ⟨_, hget, hn⟩, trivial⟩
      | null | bool | integer | float | text | array => cases hget
    · exact Or.inr ⟨_, rfl, _, [], rfl, hn, rfl⟩

/-- What is read as an announcement is what the payload says. -/
theorem Created.ofEvent_iff {e : Event} (h : e.payload.Distinct) (c : Created) :
    Created.ofEvent e = .ok c ↔ c.SaidBy e.payload := by
  have hread (n : Int) : e.payloadAs Created.shape = .ok (n, ()) ↔ _ :=
    payloadAs_eq_ok_iff.trans (Created.ofJson_iff h n)
  unfold Created.ofEvent
  constructor
  · intro hc
    cases hvalue : e.payloadAs Created.shape with
    | error f =>
      rw [hvalue] at hc
      cases hc
    | ok v =>
      obtain ⟨n, ⟨⟩⟩ := v
      rw [hvalue] at hc
      cases hc
      obtain ⟨hholds, hsaid⟩ := (hread n).mp hvalue
      unfold SaidBy
      rwa [show (ofValue (n, ())).id.toInt = n from NoticeId.toInt_ofInt hholds]
  · intro hsaid
    rw [(hread c.id.toInt).mpr ⟨Text.Width.holds_toInt c.id.value, hsaid⟩]
    show Except.ok (Created.mk (.ofInt c.id.toInt)) = _
    rw [NoticeId.ofInt_toInt]

theorem PaymentCompleted.ofJson_iff {payload : Json} (hpayload : payload.Distinct) (n : Int)
    (code : Nat) :
    PaymentCompleted.shape.ofJson payload = .ok (n, code, ()) ↔
      (Text.Width.u32.holds n = true ∧ code < PaymentStatus.codeCount) ∧
        ((payload.get? "ofBookingId" = some (.integer n) ∧
          payload.get? "paymentTransactionStatus" = some (.ofNat code)) ∨
        payload = .array [.integer n, .ofNat code]) := by
  refine (Shape.ofJson_required_iff "PaymentTransactionCompleted"
    [("ofBookingId", .u32),
      ("paymentTransactionStatus", .code PaymentStatus.codeCount PaymentStatus.kind)]
    (by decide) hpayload (n, code, ())).trans ⟨?_, ?_⟩
  · rintro (⟨entries, rfl, ⟨j, hj, hn⟩, ⟨i, hi, hcode⟩, -⟩ |
      ⟨items, rfl, j, rest, rfl, hn, i, rest, rfl, hcode, rfl⟩)
    all_goals
      obtain ⟨rfl, hholds⟩ := Shape.ofJson_integer_iff.mp hn
      obtain ⟨rfl, hlt⟩ := (Shape.ofJson_code_iff (by decide)).mp hcode
    · exact ⟨⟨hholds, hlt⟩, Or.inl ⟨hj, hi⟩⟩
    · exact ⟨⟨hholds, hlt⟩, Or.inr rfl⟩
  · rintro ⟨⟨hholds, hlt⟩, hsaid⟩
    have hn : Shape.u32.ofJson (.integer n) = .ok n := Shape.ofJson_integer_iff.mpr ⟨rfl, hholds⟩
    have hcode : (Shape.code PaymentStatus.codeCount PaymentStatus.kind).ofJson (.ofNat code) =
        .ok code := (Shape.ofJson_code_iff (by decide)).mpr ⟨rfl, hlt⟩
    rcases hsaid with ⟨hj, hi⟩ | rfl
    · cases payload with
      | object entries => exact Or.inl ⟨entries, rfl, ⟨_, hj, hn⟩, ⟨_, hi, hcode⟩, trivial⟩
      | null | bool | integer | float | text | array => cases hj
    · exact Or.inr ⟨_, rfl, _, _, rfl, hn, _, [], rfl, hcode, rfl⟩

theorem PaymentStatus.code_lt (s : PaymentStatus) : s.code < codeCount := by cases s <;> decide

theorem PaymentStatus.ofKnownCode_code (s : PaymentStatus) : ofKnownCode s.code = s := by
  cases s <;> rfl

theorem PaymentStatus.code_ofKnownCode {n : Nat} (h : n < codeCount) :
    (ofKnownCode n).code = n := by
  match n, h with
  | 0, _ => rfl
  | 1, _ => rfl
  | 2, _ => rfl

/-- What is read as a payment is what the payload says. -/
theorem PaymentCompleted.ofEvent_iff {e : Event} (h : e.payload.Distinct) (p : PaymentCompleted) :
    PaymentCompleted.ofEvent e = .ok p ↔ p.SaidBy e.payload := by
  have hread (n : Int) (code : Nat) :
      e.payloadAs PaymentCompleted.shape = .ok (n, code, ()) ↔ _ :=
    payloadAs_eq_ok_iff.trans (PaymentCompleted.ofJson_iff h n code)
  unfold PaymentCompleted.ofEvent
  constructor
  · intro hp
    cases hvalue : e.payloadAs PaymentCompleted.shape with
    | error f =>
      rw [hvalue] at hp
      cases hp
    | ok v =>
      obtain ⟨n, code, ⟨⟩⟩ := v
      rw [hvalue] at hp
      cases hp
      obtain ⟨⟨hholds, hlt⟩, hsaid⟩ := (hread n code).mp hvalue
      have hbooking : Json.ofNat (ofValue (n, code, ())).booking.toNat = .integer n :=
        congrArg Json.integer (BookingId.toNat_ofInt hholds)
      have hstatus : (ofValue (n, code, ())).status.code = code :=
        PaymentStatus.code_ofKnownCode hlt
      unfold SaidBy
      rwa [hbooking, hstatus]
  · intro hsaid
    rw [(hread p.booking.toNat p.status.code).mpr
      ⟨⟨Text.Width.holds_toNat p.booking.value, p.status.code_lt⟩, hsaid⟩]
    show Except.ok (PaymentCompleted.mk (.ofInt p.booking.toNat) (.ofKnownCode p.status.code)) = _
    rw [BookingId.ofInt_toNat, PaymentStatus.ofKnownCode_code]

/-! ## Envelopes -/

/-- An announcement reads as the notice that it is about. -/
theorem Created.ofEvent_envelope (c : Created) (id : String) (now : Timestamp) :
    Created.ofEvent (c.envelope id now) = .ok c := by
  have hdistinct : (c.envelope id now).payload.Distinct := show ["id"].Nodup by decide
  exact (Created.ofEvent_iff hdistinct c).mpr (Or.inl rfl)

/-- A payment that is published reads as it was. -/
theorem PaymentCompleted.ofEvent_envelope (p : PaymentCompleted) (id : String) (now : Timestamp) :
    PaymentCompleted.ofEvent (p.envelope id now) = .ok p := by
  have hdistinct : (p.envelope id now).payload.Distinct :=
    show ["ofBookingId", "paymentTransactionStatus"].Nodup by decide
  exact (PaymentCompleted.ofEvent_iff hdistinct p).mpr (Or.inl ⟨rfl, rfl⟩)

end Event

end BookingNotices
