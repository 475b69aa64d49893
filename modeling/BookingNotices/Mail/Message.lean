import BookingNotices.Bytes
import BookingNotices.Failure
import BookingNotices.Supply

/-!
# Mail

* `Mail.Message` : one mail, perhaps with an attachment;
* `Outbox`       : a mailer in memory, which keeps what was sent;
* `Outbox.send`  : sends a mail, unless it is made to fail.
-/

namespace BookingNotices

/-- A file that comes with a mail. -/
structure Mail.Attachment where
  filename : String
  contentType : String
  bytes : Bytes
  deriving DecidableEq

/-- One mail. -/
structure Mail.Message where
  recipient : String
  subject : String
  body : String
  attachment : Option Mail.Attachment := none
  deriving DecidableEq

/-- A mailer in memory. -/
structure Outbox where
  sent : List Mail.Message := []
  faults : Supply Bool := .constant false

namespace Outbox

/-- Sends a mail. -/
def send (o : Outbox) (m : Mail.Message) : Except Failure Unit × Outbox :=
  let (fails, faults) := o.faults.next
  let o := { o with faults := faults }
  if fails then (.error ⟨.deliveryError, "Send to " ++ m.recipient ++ " rejected", []⟩, o)
  else (.ok (), { o with sent := o.sent ++ [m] })

/-- Makes the next `count` mails fail. -/
def failNext (o : Outbox) (count : Nat) : Outbox := { o with faults := .firstTimes count }

end Outbox

end BookingNotices
