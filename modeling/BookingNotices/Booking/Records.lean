import BookingNotices.Booking.Status
import BookingNotices.Id
import BookingNotices.Json.Shape

/-!
# What other services know of a booking

* `Booking`, `User`, `Showtime`, `Seat` : the records that a notice is made from;
* for each of them its `shape` as a document, `ofValue` from it, and `toJson`.
-/

namespace BookingNotices

open Json

/-- A booking of one seat of a showtime. -/
structure Booking where
  id : BookingId
  status : Booking.Status
  user : UserId
  showtime : ShowtimeId
  seat : SeatId
  amount : UInt64
  currency : String
  deriving DecidableEq, Repr, Inhabited

/-- A user, with the address that mail goes to. -/
structure User where
  id : UserId
  email : String
  name : String
  deriving DecidableEq, Repr, Inhabited

/-- A showtime: what is shown where, and when in milliseconds from 1970. -/
structure Showtime where
  movie : String
  theater : String
  location : String
  screen : String
  start : Int
  finish : Int
  deriving DecidableEq, Repr, Inhabited

/-- A seat of a screen. -/
structure Seat where
  id : SeatId
  number : String
  deriving DecidableEq, Repr, Inhabited

namespace Booking

/-- Whether the booking is paid for. -/
def isConfirmed (b : Booking) : Bool := b.status = .confirmed

/-- Whether the booking is given up. -/
def isCancelled (b : Booking) : Bool := b.status = .cancelled

/-- The status with a code that is known to stand for one. -/
def Status.ofKnownCode (n : Nat) : Status := (Status.ofCode n).toOption.getD .initializing

abbrev shape : Shape := .record "Booking" <|
  .cons "id" .required .u32 <|
  .cons "status" .required (.code Status.codeCount Status.kind) <|
  .cons "userId" .required .u32 <|
  .cons "showtimeId" .required .u32 <|
  .cons "seatId" .required .u32 <|
  .cons "amount" .required .u64 <|
  .cons "currency" .required .string .nil

def ofValue (v : shape.Value) : Booking :=
  match v with
  | (id, status, user, showtime, seat, amount, currency, ()) =>
    ⟨.ofInt id, .ofKnownCode status, .ofInt user, .ofInt showtime, .ofInt seat,
      UInt64.ofNat amount.toNat, currency⟩

def toJson (b : Booking) : Json := .ofFields [
  ("id", .ofNat b.id.toNat),
  ("status", .ofNat b.status.code),
  ("userId", .ofNat b.user.toNat),
  ("showtimeId", .ofNat b.showtime.toNat),
  ("seatId", .ofNat b.seat.toNat),
  ("amount", .ofNat b.amount.toNat),
  ("currency", .text b.currency)]

end Booking

namespace User

abbrev shape : Shape := .record "UserProfile" <|
  .cons "id" .required .u32 <|
  .cons "email" .required .string <|
  .cons "username" .required .string .nil

def ofValue (v : shape.Value) : User :=
  match v with
  | (id, email, name, ()) => ⟨.ofInt id, email, name⟩

def toJson (u : User) : Json := .ofFields [
  ("id", .ofNat u.id.toNat), ("email", .text u.email), ("username", .text u.name)]

end User

namespace Showtime

abbrev shape : Shape := .record "ShowtimeMetadata" <|
  .cons "movieTitle" .required .string <|
  .cons "theaterName" .required .string <|
  .cons "theaterLocation" .required .string <|
  .cons "screenName" .required .string <|
  .cons "timeStart" .required .i64 <|
  .cons "timeEnd" .required .i64 .nil

def ofValue (v : shape.Value) : Showtime :=
  match v with
  | (movie, theater, location, screen, start, finish, ()) =>
    ⟨movie, theater, location, screen, start, finish⟩

def toJson (s : Showtime) : Json := .ofFields [
  ("movieTitle", .text s.movie),
  ("theaterName", .text s.theater),
  ("theaterLocation", .text s.location),
  ("screenName", .text s.screen),
  ("timeStart", .integer s.start),
  ("timeEnd", .integer s.finish)]

/-- When the showtime starts, if that is an instant. -/
def startsAt (s : Showtime) : Option Timestamp := Timestamp.ofMillis? s.start

end Showtime

namespace Seat

abbrev shape : Shape := .record "Seat" <|
  .cons "id" .required .u32 <|
  .cons "number" .required .string .nil

def ofValue (v : shape.Value) : Seat :=
  match v with
  | (id, number, ()) => ⟨.ofInt id, number⟩

def toJson (s : Seat) : Json := .ofFields [
  ("id", .ofNat s.id.toNat), ("number", .text s.number)]

end Seat

end BookingNotices
