import BookingNotices.Booking.Records

/-!
# The records of other services, over the network

* `Remote.url`         : where a record is asked for;
* `Remote.checkStatus` : which statuses mean that there is a record, and what the others mean;
* `Remote.Exchange`    : what became of a request;
* `Remote.answer`      : the record, or the failure to get it.
-/

namespace BookingNotices.Remote

open Json

/-- The text without the slashes at its end. -/
private def trimSlashes (s : String) : String :=
  String.ofList (s.toList.reverse.dropWhile fun c => c = '/').reverse

/-- Where a record of a collection is asked for. -/
def url (base collection id : String) : String := trimSlashes base ++ "/" ++ collection ++ "/" ++ id

/-- The standard phrase of a status. -/
def phrase? : Nat → Option String
  | 100 => "Continue"
  | 101 => "Switching Protocols"
  | 102 => "Processing"
  | 200 => "OK"
  | 201 => "Created"
  | 202 => "Accepted"
  | 203 => "Non Authoritative Information"
  | 204 => "No Content"
  | 205 => "Reset Content"
  | 206 => "Partial Content"
  | 207 => "Multi-Status"
  | 208 => "Already Reported"
  | 226 => "IM Used"
  | 300 => "Multiple Choices"
  | 301 => "Moved Permanently"
  | 302 => "Found"
  | 303 => "See Other"
  | 304 => "Not Modified"
  | 305 => "Use Proxy"
  | 307 => "Temporary Redirect"
  | 308 => "Permanent Redirect"
  | 400 => "Bad Request"
  | 401 => "Unauthorized"
  | 402 => "Payment Required"
  | 403 => "Forbidden"
  | 404 => "Not Found"
  | 405 => "Method Not Allowed"
  | 406 => "Not Acceptable"
  | 407 => "Proxy Authentication Required"
  | 408 => "Request Timeout"
  | 409 => "Conflict"
  | 410 => "Gone"
  | 411 => "Length Required"
  | 412 => "Precondition Failed"
  | 413 => "Payload Too Large"
  | 414 => "URI Too Long"
  | 415 => "Unsupported Media Type"
  | 416 => "Range Not Satisfiable"
  | 417 => "Expectation Failed"
  | 418 => "I'm a teapot"
  | 421 => "Misdirected Request"
  | 422 => "Unprocessable Entity"
  | 423 => "Locked"
  | 424 => "Failed Dependency"
  | 426 => "Upgrade Required"
  | 428 => "Precondition Required"
  | 429 => "Too Many Requests"
  | 431 => "Request Header Fields Too Large"
  | 451 => "Unavailable For Legal Reasons"
  | 500 => "Internal Server Error"
  | 501 => "Not Implemented"
  | 502 => "Bad Gateway"
  | 503 => "Service Unavailable"
  | 504 => "Gateway Timeout"
  | 505 => "HTTP Version Not Supported"
  | 506 => "Variant Also Negotiates"
  | 507 => "Insufficient Storage"
  | 508 => "Loop Detected"
  | 510 => "Not Extended"
  | 511 => "Network Authentication Required"
  | _ => none

/-- A status with its phrase. -/
def statusText (status : Nat) : String :=
  toString status ++ " " ++ (phrase? status).getD "<unknown status code>"

/-- A number that may be a status has three digits, none of them a leading zero. -/
def isStatus (n : Nat) : Bool := 100 ≤ n && n ≤ 999

/-- Whether a status means that the record is there. -/
def checkStatus (status : Nat) (kind : String) : Except Failure Unit :=
  if 200 ≤ status ∧ status < 300 then .ok ()
  else .error ⟨if status = 404 then .recordNotFound else .recordsUnavailable,
    kind ++ " lookup returned " ++ statusText status, []⟩

/-- What became of a request. -/
inductive Exchange where
  | answered (status : Nat) (body : String)
  | timedOut
  | failed
  deriving DecidableEq, Repr

/-- The record that an exchange brings, under its shape. -/
def answer (shape : Shape) (kind : String) : Exchange → Except Failure shape.Value
  | .timedOut => .error ⟨.recordsUnavailable, kind ++ " lookup timed out", []⟩
  | .failed => .error ⟨.recordsUnavailable, kind ++ " lookup request failed", []⟩
  | .answered status body =>
    match checkStatus status kind with
    | .error f => .error f
    | .ok () =>
      (shape.ofText body).mapError fun fault =>
        ⟨.recordsUnavailable, "Failed to decode " ++ kind ++
          " response: error decoding response body: " ++ fault.message, []⟩

/-- The kinds of record that are asked for over the network. -/
inductive Kind where
  | user
  | booking
  | showtime
  | seat
  deriving DecidableEq, Repr

namespace Kind

def name : Kind → String
  | .user => "user"
  | .booking => "booking"
  | .showtime => "showtime"
  | .seat => "seat"

/-- The shape of the answer. -/
abbrev shape : Kind → Shape
  | .user => User.shape
  | .booking => Booking.shape
  | .showtime => Showtime.shape
  | .seat => Seat.shape

/-- Where a record of the kind is asked for. -/
def url (k : Kind) (base id : String) : String :=
  match k with
  | .user => Remote.url base "users" id
  | .booking => Remote.url base "bookings" id
  | .showtime => Remote.url base "showtimes" id ++ "/metadata"
  | .seat => Remote.url base "seats" id

/-- The record that an exchange brings, as a document. -/
def fetch (k : Kind) (e : Exchange) : Except Failure Json :=
  match k with
  | .user => (answer User.shape "user" e).map fun v => (User.ofValue v).toJson
  | .booking => (answer Booking.shape "booking" e).map fun v => (Booking.ofValue v).toJson
  | .showtime => (answer Showtime.shape "showtime" e).map fun v => (Showtime.ofValue v).toJson
  | .seat => (answer Seat.shape "seat" e).map fun v => (Seat.ofValue v).toJson

end Kind

end BookingNotices.Remote
