import BookingNotices.Failure

/-!
# The status of a booking

* `Booking.Status` : how far a booking has come;
* `Status.code`, `Status.ofCode` : the number that other services write for it (`ofCode_code`);
* `Status.name`    : its name in messages.
-/

namespace BookingNotices.Booking

/-- How far a booking has come. -/
inductive Status where
  | initializing
  | pending
  | confirmed
  | cancelled
  deriving DecidableEq, Repr, Inhabited

namespace Status

/-- The kind of value that an unknown code is reported as. -/
def kind : String := "booking status"

/-- How many codes there are. -/
def codeCount : Nat := 4

/-- The number that stands for a status. -/
def code : Status → Nat
  | .initializing => 0
  | .pending => 1
  | .confirmed => 2
  | .cancelled => 3

/-- The status that a number stands for. -/
def ofCode : Nat → Except Rejection Status
  | 0 => .ok .initializing
  | 1 => .ok .pending
  | 2 => .ok .confirmed
  | 3 => .ok .cancelled
  | n => .error (.unknownVariant kind (toString n))

@[simp] theorem ofCode_code (s : Status) : ofCode s.code = .ok s := by cases s <;> rfl

def name : Status → String
  | .initializing => "initializing"
  | .pending => "pending"
  | .confirmed => "confirmed"
  | .cancelled => "cancelled"

end Status

end BookingNotices.Booking
