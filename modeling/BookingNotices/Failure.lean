import BookingNotices.Table

/-!
# Failures

* `Failure.Code` : the kinds of failure that callers tell apart, and their names;
* `Failure`      : a failure with its message and details;
* `Rejection`    : why a value is not accepted, before it is a failure of an operation.
-/

namespace BookingNotices

/-- The kinds of failure that callers tell apart. -/
inductive Failure.Code where
  | validationFailed
  | invalidFormat
  | noticeNotFound
  | recordNotFound
  | noticeExists
  | invalidTransition
  | unsupportedBookingStatus
  | recordsUnavailable
  | storageError
  | deliveryError
  | renderError
  | channelError
  | databaseError
  | serializationError
  | internalError
  deriving DecidableEq, Repr

namespace Failure.Code

/-- All kinds of failure. -/
def all : List Code :=
  [.validationFailed, .invalidFormat, .noticeNotFound, .recordNotFound, .noticeExists,
    .invalidTransition, .unsupportedBookingStatus, .recordsUnavailable, .storageError,
    .deliveryError, .renderError, .channelError, .databaseError, .serializationError,
    .internalError]

def name : Code → String
  | .validationFailed => "VALIDATION_FAILED"
  | .invalidFormat => "INVALID_FORMAT"
  | .noticeNotFound => "NOTIFICATION_NOT_FOUND"
  | .recordNotFound => "UPSTREAM_NOT_FOUND"
  | .noticeExists => "NOTIFICATION_EXISTS"
  | .invalidTransition => "INVALID_STATE_TRANSITION"
  | .unsupportedBookingStatus => "UNSUPPORTED_BOOKING_STATUS"
  | .recordsUnavailable => "UPSTREAM_UNAVAILABLE"
  | .storageError => "STORAGE_ERROR"
  | .deliveryError => "DELIVERY_ERROR"
  | .renderError => "RENDER_ERROR"
  | .channelError => "EVENT_CHANNEL_ERROR"
  | .databaseError => "DATABASE_ERROR"
  | .serializationError => "SERIALIZATION_ERROR"
  | .internalError => "INTERNAL_ERROR"

/-- The kind of failure with a name. -/
def ofName? (s : String) : Option Code := all.find? fun c => c.name == s

end Failure.Code

/-- A failure of an operation. -/
structure Failure where
  code : Failure.Code
  message : String
  details : Table String String := []
  deriving DecidableEq, Repr

namespace Failure

/-- The failure with one more detail. -/
def withDetail (f : Failure) (key value : String) : Failure :=
  { f with details := f.details.insert key value }

/-- A field that an operation does not accept. -/
def validation (field message : String) : Failure :=
  (Failure.mk .validationFailed message []).withDetail "field" field

/-- The failure in one line. -/
def describe (f : Failure) : String := "[" ++ f.code.name ++ "] " ++ f.message

end Failure

/-- Why a value is not accepted. -/
inductive Rejection where
  /-- a field that is not written as it must be -/
  | badFormat (field reason : String)
  /-- a value that is none of its kind -/
  | unknownVariant (kind value : String)
  deriving DecidableEq, Repr

namespace Rejection

def message : Rejection → String
  | .badFormat field reason => "Field '" ++ field ++ "' has invalid format: " ++ reason
  | .unknownVariant kind value => "Unknown " ++ kind ++ " value: " ++ value

/-- The failure of an operation that met the value. -/
def toFailure (r : Rejection) : Failure :=
  match r with
  | .badFormat _ _ => ⟨.invalidFormat, r.message, []⟩
  | .unknownVariant _ _ => ⟨.validationFailed, r.message, []⟩

end Rejection

end BookingNotices
