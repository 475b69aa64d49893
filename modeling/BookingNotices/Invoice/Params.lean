import BookingNotices.Booking.Records

/-!
# What an invoice says

* `Invoice.Params`    : all that an invoice is made from;
* `Params.ofBooking`  : the invoice of a booking;
* `Params.price`, `item`, `summary` : the texts that are put together from it.
-/

namespace BookingNotices.Invoice

open Json

/-- All that an invoice is made from. Times are in milliseconds from 1970. -/
structure Params where
  booking : BookingId
  userName : String
  email : String
  amount : UInt64
  currency : String
  movie : String
  seat : String
  theater : String
  location : String
  screen : String
  start : Int
  finish : Int
  deriving DecidableEq, Repr, Inhabited

/-- Showtimes are told in the time of the theaters, seven hours ahead of UTC. -/
def theaterOffset : Int := 7 * 3600

/-- The text of a showtime; one that is no instant has none. -/
def showtimeText (millis : Int) : String :=
  match Timestamp.ofMillis? millis with
  | some t => Time.localText theaterOffset t
  | none => ""

namespace Params

/-- The invoice of a booking. -/
def ofBooking (b : Booking) (u : User) (s : Showtime) (seat : Seat) : Params where
  booking := b.id
  userName := u.name
  email := u.email
  amount := b.amount
  currency := b.currency
  movie := s.movie
  seat := seat.number
  theater := s.theater
  location := s.location
  screen := s.screen
  start := s.start
  finish := s.finish

/-- The price with its currency. -/
def price (p : Params) : String := toString p.amount.toNat ++ " " ++ p.currency

/-- What is paid for. -/
def item (p : Params) : String :=
  " - ".intercalate [p.movie, p.theater, p.screen, showtimeText p.start, p.seat]

/-- What the ticket's code says. -/
def summary (p : Params) : String :=
  " - ".intercalate [p.theater, p.screen, p.movie, p.seat, "Showtime: " ++ showtimeText p.start]

/-! ## As a document -/

abbrev shape : Shape := .record "InvoiceParams" <|
  .cons "booking_id" .required .u32 <|
  .cons "username" .required .string <|
  .cons "email" .required .string <|
  .cons "amount" .required .u64 <|
  .cons "currency" .required .string <|
  .cons "movie_name" .required .string <|
  .cons "seat_no" .required .string <|
  .cons "theater_name" .required .string <|
  .cons "theater_location" .required .string <|
  .cons "screen_name" .required .string <|
  .cons "time_start" .required .i64 <|
  .cons "time_end" .required .i64 .nil

def ofValue (v : shape.Value) : Params :=
  match v with
  | (booking, userName, email, amount, currency, movie, seat, theater, location, screen, start,
      finish, ()) =>
    ⟨.ofInt booking, userName, email, UInt64.ofNat amount.toNat, currency, movie, seat, theater,
      location, screen, start, finish⟩

def toJson (p : Params) : Json := .ofFields [
  ("booking_id", .ofNat p.booking.toNat),
  ("username", .text p.userName),
  ("email", .text p.email),
  ("amount", .ofNat p.amount.toNat),
  ("currency", .text p.currency),
  ("movie_name", .text p.movie),
  ("seat_no", .text p.seat),
  ("theater_name", .text p.theater),
  ("theater_location", .text p.location),
  ("screen_name", .text p.screen),
  ("time_start", .integer p.start),
  ("time_end", .integer p.finish)]

end Params

end BookingNotices.Invoice
