import BookingNotices.Booking.Records
import BookingNotices.Supply

/-!
# The records of other services, in memory

* `Registry`     : users, bookings, showtimes and seats by identity, and how often one was looked
  up;
* `Registry.user`, `booking`, `showtime`, `seat` : the lookups, each of which may meet an outage;
* `Registry.Served` : what a lookup leaves of the registry (`served_booking`, ...);
* `Registry.asked`  : the registry behind so many lookups (`booking_snd`, ...);
* `code_of_booking`, ... : the kinds of failure that a lookup may answer;
* `booking_eq_ok`  : a booking that is looked up is kept under that identity;
* `Registry.Up`    : all services answer, so a record that is kept is found (`booking_of_up`, ...);
* `Registry.Keyed` : bookings are kept under their own identities (`Keyed.booking`,
  `Keyed.putBooking`).
-/

namespace BookingNotices

/-- What other services know. -/
structure Registry where
  users : Table UserId User := []
  bookings : Table BookingId Booking := []
  showtimes : Table ShowtimeId Showtime := []
  seats : Table SeatId Seat := []
  outages : Supply Bool := .constant false
  lookups : Nat := 0

namespace Registry

/-- One lookup of a kind of record. -/
private def lookUp {α : Type} (r : Registry) (kind id : String) (found : Option α) :
    Except Failure α × Registry :=
  let (out, outages) := r.outages.next
  let r := { r with outages := outages, lookups := r.lookups + 1 }
  if out then (.error ⟨.recordsUnavailable, kind ++ " service unavailable", []⟩, r)
  else
    match found with
    | some record => (.ok record, r)
    | none => (.error ⟨.recordNotFound, kind ++ " " ++ id ++ " not found", []⟩, r)

def user (r : Registry) (id : UserId) : Except Failure User × Registry :=
  r.lookUp "user" id.toText (r.users.find? id)

def booking (r : Registry) (id : BookingId) : Except Failure Booking × Registry :=
  r.lookUp "booking" id.toText (r.bookings.find? id)

def showtime (r : Registry) (id : ShowtimeId) : Except Failure Showtime × Registry :=
  r.lookUp "showtime" id.toText (r.showtimes.find? id)

def seat (r : Registry) (id : SeatId) : Except Failure Seat × Registry :=
  r.lookUp "seat" id.toText (r.seats.find? id)

/-! ## What a lookup does -/

/-- The same records, behind some lookups. -/
structure Served (r r' : Registry) : Prop where
  users : r'.users = r.users
  bookings : r'.bookings = r.bookings
  showtimes : r'.showtimes = r.showtimes
  seats : r'.seats = r.seats
  outages : r'.outages.answer = r.outages.answer

theorem Served.refl (r : Registry) : r.Served r := ⟨rfl, rfl, rfl, rfl, rfl⟩

theorem Served.trans {a b c : Registry} (h₁ : a.Served b) (h₂ : b.Served c) : a.Served c :=
  ⟨h₂.users.trans h₁.users, h₂.bookings.trans h₁.bookings, h₂.showtimes.trans h₁.showtimes,
    h₂.seats.trans h₁.seats, h₂.outages.trans h₁.outages⟩

private theorem served_lookUp {α : Type} (r : Registry) (kind id : String) (found : Option α) :
    r.Served (r.lookUp kind id found).2 := by
  unfold lookUp
  dsimp only
  split
  · exact ⟨rfl, rfl, rfl, rfl, rfl⟩
  · split <;> exact ⟨rfl, rfl, rfl, rfl, rfl⟩

theorem served_user (r : Registry) (id : UserId) : r.Served (r.user id).2 :=
  r.served_lookUp _ _ _

theorem served_booking (r : Registry) (id : BookingId) : r.Served (r.booking id).2 :=
  r.served_lookUp _ _ _

theorem served_showtime (r : Registry) (id : ShowtimeId) : r.Served (r.showtime id).2 :=
  r.served_lookUp _ _ _

theorem served_seat (r : Registry) (id : SeatId) : r.Served (r.seat id).2 :=
  r.served_lookUp _ _ _

/-- The registry behind so many lookups. -/
def asked (r : Registry) (count : Nat) : Registry :=
  { r with
    outages := { r.outages with used := r.outages.used + count }
    lookups := r.lookups + count }

theorem Served.asked (r : Registry) (count : Nat) : r.Served (r.asked count) :=
  ⟨rfl, rfl, rfl, rfl, rfl⟩

theorem asked_asked (r : Registry) (a b : Nat) : (r.asked a).asked b = r.asked (a + b) := by
  unfold asked
  simp only [Nat.add_assoc]

private theorem lookUp_snd {α : Type} (r : Registry) (kind id : String) (found : Option α) :
    (r.lookUp kind id found).2 = r.asked 1 := by
  unfold lookUp
  dsimp only
  split
  · rfl
  · split <;> rfl

theorem user_snd (r : Registry) (id : UserId) : (r.user id).2 = r.asked 1 := r.lookUp_snd _ _ _

theorem booking_snd (r : Registry) (id : BookingId) : (r.booking id).2 = r.asked 1 :=
  r.lookUp_snd _ _ _

theorem showtime_snd (r : Registry) (id : ShowtimeId) : (r.showtime id).2 = r.asked 1 :=
  r.lookUp_snd _ _ _

theorem seat_snd (r : Registry) (id : SeatId) : (r.seat id).2 = r.asked 1 := r.lookUp_snd _ _ _

private theorem code_of_lookUp {α : Type} {r : Registry} {kind id : String} {found : Option α}
    {f : Failure} (h : (r.lookUp kind id found).1 = .error f) :
    f.code = .recordsUnavailable ∨ f.code = .recordNotFound := by
  unfold lookUp at h
  dsimp only at h
  split at h
  · cases h
    exact Or.inl rfl
  · split at h
    · cases h
    · cases h
      exact Or.inr rfl

theorem code_of_user {r : Registry} {id : UserId} {f : Failure} (h : (r.user id).1 = .error f) :
    f.code = .recordsUnavailable ∨ f.code = .recordNotFound := code_of_lookUp h

theorem code_of_booking {r : Registry} {id : BookingId} {f : Failure}
    (h : (r.booking id).1 = .error f) :
    f.code = .recordsUnavailable ∨ f.code = .recordNotFound := code_of_lookUp h

theorem code_of_showtime {r : Registry} {id : ShowtimeId} {f : Failure}
    (h : (r.showtime id).1 = .error f) :
    f.code = .recordsUnavailable ∨ f.code = .recordNotFound := code_of_lookUp h

theorem code_of_seat {r : Registry} {id : SeatId} {f : Failure} (h : (r.seat id).1 = .error f) :
    f.code = .recordsUnavailable ∨ f.code = .recordNotFound := code_of_lookUp h

/-- A booking that is looked up is kept under that identity. -/
theorem booking_eq_ok {r : Registry} {id : BookingId} {b : Booking}
    (h : (r.booking id).1 = .ok b) : r.bookings.find? id = some b := by
  unfold booking lookUp at h
  dsimp only at h
  split at h
  · cases h
  · split at h
    · rename_i found
      cases h
      exact found
    · cases h

/-- All services answer. -/
def Up (r : Registry) : Prop := ∀ i, r.outages.answer i = false

theorem Up.served {r r' : Registry} (h : r.Up) (hserved : r.Served r') : r'.Up := by
  intro i
  rw [hserved.outages]
  exact h i

section Up

variable {r : Registry} (h : r.Up)

include h

private theorem lookUp_of_up {α : Type} (kind id : String) (record : α) :
    (r.lookUp kind id (some record)).1 = .ok record := by
  unfold lookUp Supply.next
  dsimp only
  rw [h]
  rfl

theorem user_of_up {id : UserId} {u : User} (hu : r.users.find? id = some u) :
    (r.user id).1 = .ok u := by
  unfold user
  rw [hu]
  exact lookUp_of_up h _ _ u

theorem booking_of_up {id : BookingId} {b : Booking} (hb : r.bookings.find? id = some b) :
    (r.booking id).1 = .ok b := by
  unfold booking
  rw [hb]
  exact lookUp_of_up h _ _ b

theorem showtime_of_up {id : ShowtimeId} {s : Showtime} (hs : r.showtimes.find? id = some s) :
    (r.showtime id).1 = .ok s := by
  unfold showtime
  rw [hs]
  exact lookUp_of_up h _ _ s

theorem seat_of_up {id : SeatId} {s : Seat} (hs : r.seats.find? id = some s) :
    (r.seat id).1 = .ok s := by
  unfold seat
  rw [hs]
  exact lookUp_of_up h _ _ s

end Up

/-- Bookings are kept under their own identities. -/
def Keyed (r : Registry) : Prop := ∀ id b, r.bookings.find? id = some b → b.id = id

theorem Keyed.empty : Keyed {} := fun _ _ h => nomatch h

theorem Keyed.served {r r' : Registry} (h : r.Keyed) (hserved : r.Served r') : r'.Keyed := by
  intro id b hb
  rw [hserved.bookings] at hb
  exact h id b hb

/-- A booking that is looked up is the one that was asked for. -/
theorem Keyed.booking {r : Registry} (h : r.Keyed) {id : BookingId} {b : Booking}
    (hb : (r.booking id).1 = .ok b) : b.id = id := h id b (booking_eq_ok hb)

/-! ## Changes -/

/-- Keeps a user, in the place of one with the same identity. -/
def putUser (r : Registry) (u : User) : Registry := { r with users := r.users.insert u.id u }

/-- Keeps a booking, in the place of one with the same identity. -/
def putBooking (r : Registry) (b : Booking) : Registry :=
  { r with bookings := r.bookings.insert b.id b }

theorem Keyed.putBooking {r : Registry} (h : r.Keyed) (b : Booking) : (r.putBooking b).Keyed := by
  intro id b' hb'
  unfold Registry.putBooking at hb'
  rw [Table.find?_insert] at hb'
  split at hb'
  · rename_i hid
    cases hb'
    exact hid
  · exact h id b' hb'

/-- Keeps a showtime, in the place of one with the same identity. -/
def putShowtime (r : Registry) (id : ShowtimeId) (s : Showtime) : Registry :=
  { r with showtimes := r.showtimes.insert id s }

/-- Keeps a seat, in the place of one with the same identity. -/
def putSeat (r : Registry) (s : Seat) : Registry := { r with seats := r.seats.insert s.id s }

/-- From now on no service answers, or all do. -/
def setOutage (r : Registry) (out : Bool) : Registry := { r with outages := .constant out }

end Registry

end BookingNotices
