import BookingNotices.Booking.Records

/-!
# What is written to the user

* `Notice.Email`         : subject, body, and whether the invoice is attached;
* `Email.forBooking`     : what a booking's outcome is told with, if it is told at all.
-/

namespace BookingNotices.Notice

/-- What is written to the user of a booking. -/
structure Email where
  subject : String
  body : String
  attachInvoice : Bool
  deriving DecidableEq, Repr

namespace Email

def subjectLine : String := "Movie Ticket Booking Invoice!"

def confirmedBody : String := "Payment transaction successfully, here is the attached PDF."

def cancelledBody : String := "Payment transaction failed please retry if you need!!"

/-- What a booking's outcome is told with. -/
def forBooking (b : Booking) : Option Email :=
  match b.status with
  | .confirmed => some ⟨subjectLine, confirmedBody, true⟩
  | .cancelled => some ⟨subjectLine, cancelledBody, false⟩
  | .initializing => none
  | .pending => none

end Email

end BookingNotices.Notice
