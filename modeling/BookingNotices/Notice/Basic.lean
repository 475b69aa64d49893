import BookingNotices.Json.Shape
import BookingNotices.Notice.Error
import BookingNotices.Notice.Status
import BookingNotices.Time.Timestamp

/-!
# Notices

* `Notice`       : one notice about one booking, as it is stored;
* `claim`, `completeWith`, `complete`, `fail`, `touch` : the steps of the work on it, each at an
  instant; a refused step gives an error and no notice;
* `isOrphaned`, `isStale` : whether work on it is overdue;
* `documentName` : the name under which the invoice of a booking is kept.

`updated` is the instant of the last step. It also tells the worker that took the last step from
all others: the outcome of the work is stored only if it has not changed since.
-/

namespace BookingNotices

open Json

/-- A notice about a booking. -/
structure Notice where
  id : NoticeId
  booking : BookingId
  status : Notice.Status
  document : String
  created : Timestamp
  updated : Timestamp
  deriving DecidableEq, Repr, Inhabited

namespace Notice

/-- The name under which the invoice of a booking is kept. -/
def documentName (booking : BookingId) : String := "pdf_invoice_" ++ booking.toText ++ ".pdf"

/-- A new notice, which has no identity yet. -/
def pending (booking : BookingId) (now : Timestamp) : Notice :=
  ⟨.unset, booking, .pending, "", now, now⟩

/-- Whether an invoice is kept for the notice. -/
def hasDocument (n : Notice) : Bool := !n.document.isEmpty

/-- The step to a status. -/
def advance (n : Notice) (target : Status) (now : Timestamp) : Except Error Notice :=
  match n.status.advance target with
  | .ok status => .ok { n with status := status, updated := now }
  | .error r => .error (.invalid ("notification " ++ n.id.toText ++ ": " ++ r.message))

/-- A worker takes the notice up. -/
def claim (n : Notice) (now : Timestamp) : Except Error Notice := n.advance .processing now

/-- The work ends well, with a document. -/
def completeWith (n : Notice) (document : String) (now : Timestamp) : Except Error Notice :=
  if Text.allBlank document then .error (.invalid "document reference cannot be empty")
  else (n.advance .success now).map fun n => { n with document := document }

/-- The work ends well, without a document. -/
def complete (n : Notice) (now : Timestamp) : Except Error Notice := n.advance .success now

/-- The work ends with nothing to tell. -/
def fail (n : Notice) (now : Timestamp) : Except Error Notice := n.advance .failed now

/-- The worker's claim is renewed. -/
def touch (n : Notice) (now : Timestamp) : Except Error Notice :=
  if n.status = .processing then .ok { n with updated := now }
  else .error (.invalid ("only processing notifications can be renewed, notification " ++
    n.id.toText ++ " is " ++ n.status.text))

/-- Whether the last step is at least so many nanoseconds ago; a step in the future is not. -/
def isOverdue (n : Notice) (now : Timestamp) (threshold : Nat) : Bool :=
  (threshold : Int) ≤ now.since n.updated

/-- Whether a pending notice was left behind. -/
def isOrphaned (n : Notice) (now : Timestamp) (threshold : Nat) : Bool :=
  n.status = .pending && n.isOverdue now threshold

/-- Whether a claimed notice was left behind. -/
def isStale (n : Notice) (now : Timestamp) (threshold : Nat) : Bool :=
  n.status = .processing && n.isOverdue now threshold

/-! ## As a document -/

abbrev shape : Shape := .record "Notification" <|
  .cons "id" .required .i64 <|
  .cons "booking_id" .required .u32 <|
  .cons "status" .required (.choice "NotificationStatus" (Status.all.map Status.text)) <|
  .cons "document_ref" .required .string <|
  .cons "created_at" .required .instant <|
  .cons "updated_at" .required .instant .nil

def ofValue (v : shape.Value) : Notice :=
  match v with
  | (id, booking, status, document, created, updated, ()) =>
    ⟨.ofInt id, .ofInt booking, (Status.read status).toOption.getD .pending, document, created,
      updated⟩

def toJson (n : Notice) : Json := .ofFields [
  ("id", .integer n.id.toInt),
  ("booking_id", .ofNat n.booking.toNat),
  ("status", .text n.status.text),
  ("document_ref", .text n.document),
  ("created_at", .text n.created.text),
  ("updated_at", .text n.updated.text)]

end Notice

end BookingNotices
