import BookingNotices.Mail.Address
import BookingNotices.Mail.ContentType
import BookingNotices.Mail.Message
import BookingNotices.Network

/-!
# Mail through a relay

* `Relay`           : a mailer that hands mail to a relay, with the address that it sends from;
* `Relay.ofSender`  : the mailer of a sender, whose address is checked;
* `Relay.envelope`  : the addresses under which a mail is handed over, once it is well formed;
* `Relay.send`      : the outcome of a mail, given what became of the connection.
-/

namespace BookingNotices

/-- A mailer that hands mail to a relay. -/
structure Relay where
  sender : Mail.Address
  deriving DecidableEq, Repr

namespace Relay

/-- The mailer of a sender. -/
def ofSender (name address : String) : Except Failure Relay :=
  match Mail.Address.read (name ++ " <" ++ address ++ ">") with
  | .ok sender => .ok ⟨sender⟩
  | .error p => .error (.validation "from_email" ("Invalid from address: " ++ p.message))

/-- The addresses of a mail. -/
structure Envelope where
  sender : String
  recipients : List String
  deriving DecidableEq, Repr

/-- The failure to put a mail together. -/
private def buildFailure (what : String) : Failure :=
  ⟨.deliveryError, "Failed to build email: missing " ++ what ++ " address, invalid envelope", []⟩

/-- The addresses under which a mail is handed over. They are read from the mail as it is written,
where quotes around a user do not belong to it. -/
def envelope (r : Relay) (m : Mail.Message) : Except Failure Envelope :=
  match Mail.Address.read m.recipient with
  | .error p => .error (.validation "to" ("Invalid to address: " ++ p.message))
  | .ok recipient =>
    match m.attachment.bind fun a => Mail.ContentType.problem? a.contentType with
    | some p =>
      .error (.validation "content_type" ("Invalid content type: mime parse error: " ++ p.message))
    | none =>
      match Mail.Address.read r.sender.text, Mail.Address.read recipient.text with
      | .error _, _ => .error (buildFailure "source")
      | .ok _, .error _ => .error (buildFailure "destination")
      | .ok sender, .ok recipient => .ok ⟨sender.text, [recipient.text]⟩

/-- The outcome of a mail, given what became of the connection to the relay. -/
def send (r : Relay) (m : Mail.Message) (c : Connection) : Except Failure Envelope :=
  match r.envelope m, c.problem? with
  | .error f, _ => .error f
  | .ok _, some p => .error ⟨.deliveryError, "Failed to send email: Connection error: " ++ p, []⟩
  | .ok e, none => .ok e

end Relay

end BookingNotices
