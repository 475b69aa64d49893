import BookingNotices.Blob.Shelf
import BookingNotices.Invoice.Render
import BookingNotices.Mail.Message
import BookingNotices.Notice.Basic
import BookingNotices.Notice.Email

/-!
# Mailing the outcome

* `Notice.compose` : the mail about a notice, with its invoice if the mail is to have one;
* `Notice.deliver` : composes the mail and sends it.
-/

namespace BookingNotices.Notice

/-- The mail about a notice. -/
def compose (n : Notice) (user : User) (email : Email) (shelf : Shelf) :
    Except Error Mail.Message × Shelf :=
  let plain : Mail.Message := ⟨user.email, email.subject, email.body, none⟩
  if !email.attachInvoice then (.ok plain, shelf)
  else if !n.hasDocument then
    (.error (.invalid ("notification " ++ n.id.toText ++ " has no document to attach")), shelf)
  else
    match shelf.read n.document with
    | (.error e, shelf) => (.error (.ofFailure e.toFailure), shelf)
    | (.ok bytes, shelf) =>
      (.ok { plain with attachment := some ⟨n.document, Invoice.contentType, bytes⟩ }, shelf)

/-- Composes the mail about a notice and sends it. -/
def deliver (n : Notice) (user : User) (email : Email) (shelf : Shelf) (outbox : Outbox) :
    Except Error Unit × Shelf × Outbox :=
  match n.compose user email shelf with
  | (.error e, shelf) => (.error e, shelf, outbox)
  | (.ok m, shelf) =>
    match outbox.send m with
    | (.error f, outbox) => (.error (.ofFailure f), shelf, outbox)
    | (.ok (), outbox) => (.ok (), shelf, outbox)

end BookingNotices.Notice
