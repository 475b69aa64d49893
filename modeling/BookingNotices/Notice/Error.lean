import BookingNotices.Booking.Status
import BookingNotices.Id

/-!
# Errors of the work on notices

* `Notice.Error`       : what can go wrong with a notice, in its own terms;
* `Error.isRetryable`  : whether the same work may succeed later;
* `Error.ofFailure`, `Error.toFailure` : the error that a collaborator's failure means, and the
  failure that an error is reported as; identities travel as details.
-/

namespace BookingNotices.Notice

/-- What can go wrong with a notice. -/
inductive Error where
  | alreadyExists (booking : BookingId)
  | notFound (id : NoticeId)
  /-- a record that another service does not know -/
  | recordNotFound (message : String)
  /-- a collaborator that cannot answer now -/
  | unavailable (message : String)
  | unsupportedStatus (status : Booking.Status)
  | invalid (message : String)
  | infrastructure (message : String)
  deriving DecidableEq, Repr

namespace Error

/-- The kind of failure that an error is reported as. -/
def code : Error → Failure.Code
  | .alreadyExists _ => .noticeExists
  | .notFound _ => .noticeNotFound
  | .recordNotFound _ => .recordNotFound
  | .unavailable _ => .recordsUnavailable
  | .unsupportedStatus _ => .unsupportedBookingStatus
  | .invalid _ => .validationFailed
  | .infrastructure _ => .internalError

def message : Error → String
  | .alreadyExists booking => "Notification already exists for booking " ++ booking.toText
  | .notFound id => "Notification not found: " ++ id.toText
  | .recordNotFound m => "Upstream entity not found: " ++ m
  | .unavailable m => "Upstream unavailable: " ++ m
  | .unsupportedStatus status => "Unsupported booking status: " ++ status.name
  | .invalid m => "Invalid request: " ++ m
  | .infrastructure m => "Error: " ++ m

/-- Whether the same work may succeed later. -/
def isRetryable : Error → Bool
  | .unavailable _ => true
  | .infrastructure _ => true
  | _ => false

/-- The detail that carries a notice's identity. -/
def noticeKey : String := "notification_id"

/-- The detail that carries a booking's identity. -/
def bookingKey : String := "booking_id"

/-- The error that a failure means for the work on a notice. -/
def ofFailure (f : Failure) : Error :=
  match f.code with
  | .noticeNotFound =>
    .notFound (((f.details.find? noticeKey).bind fun s => (NoticeId.read s).toOption).getD .unset)
  | .noticeExists =>
    match (f.details.find? bookingKey).bind fun s => (BookingId.read s).toOption with
    | some booking => .alreadyExists booking
    | none => .infrastructure f.describe
  | .recordNotFound => .recordNotFound f.message
  | .recordsUnavailable | .storageError | .deliveryError | .channelError => .unavailable f.message
  | .validationFailed | .invalidFormat | .invalidTransition => .invalid f.message
  | .unsupportedBookingStatus | .renderError | .databaseError | .serializationError
  | .internalError => .infrastructure f.describe

/-- The failure that an error is reported as. -/
def toFailure (e : Error) : Failure :=
  let f : Failure := ⟨e.code, e.message, []⟩
  match e with
  | .alreadyExists booking => f.withDetail bookingKey booking.toText
  | .notFound id => f.withDetail noticeKey id.toText
  | _ => f

end Error

end BookingNotices.Notice
