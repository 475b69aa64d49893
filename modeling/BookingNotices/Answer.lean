import BookingNotices.Bus.Basic
import BookingNotices.Blob.Name
import BookingNotices.Documents
import BookingNotices.Invoice.Layout
import BookingNotices.Mail.Message
import BookingNotices.Service.Sweep

/-!
# Outcomes as documents

* `Answer.ok`, `Answer.ofExcept`, `Answer.ofBlob` : a success with its value, or else a failure;
* `Document.answer`, `Document.answerText` : what a document says, written again;
* `Failure.toJson`, `Rejection.toJson`, `Notice.Error.toJson`, `Blob.Error.toJson` : what went
  wrong;
* `Bytes.toJson`, `Mail.Message.toJson` : bytes that are text, and what was sent;
* `Answer.identities` : how texts are read as identities;
* `Failure.report`, `Notice.Status.report`, `Booking.report`, … : a value with all that follows from
  it;
* `Bus.Report.toJson`, `Sweep.Report.toJson` : what a round did;
* `Invoice.Mark.toJson` : what stands on a page, lengths being in micrometres.
-/

namespace BookingNotices

/-- A success with its value. -/
def Answer.ok (v : Json) : Json := .ofFields [("ok", v)]

/-- A success without a value. -/
def Answer.done : Json := ok (.bool true)

/-- A list of texts. -/
def Answer.texts (ss : List String) : Json := .array (ss.map .text)

def Failure.toJson (f : Failure) : Json := .ofFields [
  ("error", .text f.code.name),
  ("message", .text f.message),
  ("details", .ofFields (f.details.map fun (k, v) => (k, .text v)))]

/-- The value of a success, or the failure. -/
def Answer.ofExcept {α : Type} (write : α → Json) : Except Failure α → Json
  | .ok a => ok (write a)
  | .error f => f.toJson

/-- A success without a value, or the failure. -/
def Answer.ofUnit (r : Except Failure Unit) : Json := ofExcept (fun () => .bool true) r

/-- A document that is not of its shape. -/
def Answer.undecodable (message : String) : Json := .ofFields [
  ("error", .text "decode"), ("message", .text message)]

/-- What a document of a kind says, written again. -/
def Document.answer (d : Document) (j : Json) : Json :=
  match d.rewriting j with
  | .ok v => Answer.ok v
  | .error p => Answer.undecodable p.message

/-- What a text of a kind says, written again. -/
def Document.answerText (d : Document) (s : String) : Json :=
  match d.rewritingText s with
  | .ok v => Answer.ok v
  | .error fault => Answer.undecodable fault.message

namespace Rejection

/-- The name of the kind of rejection. -/
def name : Rejection → String
  | .badFormat _ _ => "InvalidFormat"
  | .unknownVariant _ _ => "UnknownVariant"

def toJson (r : Rejection) : Json := .ofFields [
  ("error", .text r.name), ("message", .text r.message)]

/-- The rejection beside the failure that it is reported as. -/
def withFailure (r : Rejection) : Json := .ofFields [
  ("err", r.toJson), ("domain", r.toFailure.toJson)]

/-- The rejection, the failure that it is reported as, and that failure in one line. -/
def report (r : Rejection) : Json := .ofFields [
  ("err", r.toJson), ("domain", r.toFailure.toJson), ("display", .text r.toFailure.describe)]

end Rejection

/-! ## Identities -/

/-- The identity that a text means, with its number and its text, or the rejection. -/
private def Answer.ofIdentity {α : Type} (number : α → Int) (display : α → String)
    (more : α → List (String × Json)) : Except Rejection α → Json
  | .ok id => .ofFields [
    ("ok", .integer (number id)),
    ("display", .text (display id)),
    ("value", .ofFields (("raw", .integer (number id)) :: more id))]
  | .error r => r.withFailure

/-- How a text is read as an identity of some kind. -/
def Answer.identities : List (String × (String → Json)) := [
  ("notification", fun s => ofIdentity NoticeId.toInt NoticeId.toText
    (fun id => [("unset", .bool id.isUnset)]) (NoticeId.read s)),
  ("booking", fun s => ofIdentity (fun id => id.toNat) BookingId.toText (fun _ => [])
    (BookingId.read s)),
  ("user", fun s => ofIdentity (fun id => id.toNat) UserId.toText (fun _ => []) (UserId.read s)),
  ("showtime", fun s => ofIdentity (fun id => id.toNat) ShowtimeId.toText (fun _ => [])
    (ShowtimeId.read s)),
  ("seat", fun s => ofIdentity (fun id => id.toNat) SeatId.toText (fun _ => []) (SeatId.read s))]

/-! ## Errors and statuses -/

namespace Notice.Error

/-- The name of the kind of error. -/
def name : Error → String
  | .alreadyExists _ => "AlreadyExists"
  | .notFound _ => "NotFound"
  | .recordNotFound _ => "UpstreamNotFound"
  | .unavailable _ => "UpstreamUnavailable"
  | .unsupportedStatus _ => "UnsupportedBookingStatus"
  | .invalid _ => "Invalid"
  | .infrastructure _ => "Infrastructure"

def toJson (e : Error) : Json := .ofFields [
  ("error", .text e.name),
  ("message", .text e.message),
  ("code", .text e.code.name),
  ("retryable", .bool e.isRetryable)]

/-- The error, the failure that it is reported as, that failure in one line, and the error that the
failure means. -/
def report (e : Error) : Json := .ofFields [
  ("err", e.toJson),
  ("domain", e.toFailure.toJson),
  ("display", .text e.toFailure.describe),
  ("back", (ofFailure e.toFailure).toJson)]

end Notice.Error

/-- The failure in one line, the error that it means, and the failure that the error is reported as.
-/
def Failure.report (f : Failure) : Json :=
  let e := Notice.Error.ofFailure f
  .ofFields [("display", .text f.describe), ("err", e.toJson), ("again", e.toFailure.toJson)]

/-- A status with what may follow, and the step to a target if one is given. -/
def Notice.Status.report (s : Status) (target : Option Status) : Json :=
  .ofFields ([
    ("text", .text s.text),
    ("terminal", .bool s.isFinal),
    ("next", Answer.texts (s.successors.map text))] ++
    (target.toList.flatMap fun t => [
      ("can", .bool (s.mayBecome t)),
      ("result", match s.advance t with
        | .ok t => Answer.ok (.text t.text)
        | .error r => r.toJson)]))

/-- The status of a booking, and what is written about it. -/
def Booking.report (b : Booking) : Json := .ofFields [
  ("status", .text b.status.name),
  ("confirmed", .bool b.isConfirmed),
  ("cancelled", .bool b.isCancelled),
  ("email", ((Notice.Email.forBooking b).map fun e => Json.ofFields [
    ("subject", .text e.subject),
    ("body", .text e.body),
    ("attach", .bool e.attachInvoice)]).getD .null)]

/-- What an invoice is made from, and the texts that are put together from it. -/
def Invoice.Params.report (p : Params) : Json := .ofFields [
  ("params", p.toJson),
  ("price", .text p.price),
  ("item", .text p.item),
  ("summary", .text p.summary)]

namespace Blob.Error

/-- The name of the kind of error. -/
def name : Error → String
  | .notFound _ => "NotFound"
  | .badName _ => "InvalidName"
  | .tooLarge _ _ => "TooLarge"
  | .medium _ => "Io"

/-- The failure that the error is reported as, with the kind of the error. -/
def toJson (e : Error) : Json :=
  let f := e.toFailure
  .ofFields [
    ("error", .text f.code.name),
    ("kind", .text e.name),
    ("message", .text f.message),
    ("details", .ofFields (f.details.map fun (k, v) => (k, .text v)))]

end Blob.Error

/-- The value of a success, or the error. -/
def Answer.ofBlob {α : Type} (write : α → Json) : Except Blob.Error α → Json
  | .ok a => ok (write a)
  | .error e => e.toJson

/-- How many bytes are shown as a text at most. -/
def Bytes.shownSize : Nat := 200

/-- Few bytes that spell a text are shown as the text. Of a document only its kind is told, of other
bytes their number. -/
def Bytes.toJson (b : Bytes) : Json :=
  let size := Json.ofFields [("len", .ofNat b.size)]
  if b.size ≤ shownSize then (b.text?.map .text).getD size
  else if b.extract 0 5 = "%PDF-".toUTF8 then .text "<pdf>"
  else size

def Mail.Attachment.toJson (a : Mail.Attachment) : Json := .ofFields [
  ("filename", .text a.filename),
  ("content_type", .text a.contentType),
  ("bytes", Bytes.toJson a.bytes)]

def Mail.Message.toJson (m : Mail.Message) : Json := .ofFields [
  ("to", .text m.recipient),
  ("subject", .text m.subject),
  ("body", .text m.body),
  ("attachment", (m.attachment.map Attachment.toJson).getD .null)]

def Bus.Report.toJson (r : Bus.Report) : Json := .ofFields [
  ("delivered", .ofNat r.delivered),
  ("retried", .ofNat r.retried),
  ("dead", .ofNat r.deadLettered)]

def Sweep.Report.toJson (r : Sweep.Report) : Json := .ofFields [
  ("orphaned", .ofNat r.orphaned),
  ("stale", .ofNat r.stale),
  ("resumed", .ofNat r.resumed),
  ("skipped", .ofNat r.skipped),
  ("failed", .ofNat r.failed)]

/-- A number in thousandths. -/
def Numeric.Single.toJson (x : Numeric.Single) : Json := .integer x.thousandths

def Invoice.Mark.toJson : Invoice.Mark → Json
  | .text x baseline pen s => .ofFields [
    ("text", .text s),
    ("x", x.toJson),
    ("y", baseline.toJson),
    ("pen", .text (pen.weight.name ++ " " ++ toString (pen.size.thousandths / 1000)))]
  | .border c => .ofFields [
    ("border", .array ([c.x, c.y, c.width, c.height].map Numeric.Single.toJson))]

end BookingNotices
