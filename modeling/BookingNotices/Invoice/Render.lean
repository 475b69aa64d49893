import BookingNotices.Invoice.Document
import BookingNotices.Invoice.TicketCode

/-!
# Rendering an invoice

* `Renderer`      : makes the bytes of an invoice, or fails;
* `Renderer.page` : the page as a document; the layout is tried first, then the ticket's code;
* `Renderer.plain`, `Renderer.failing` : one line of text, and nothing at all.
-/

namespace BookingNotices.Invoice

/-- Makes the bytes of an invoice. -/
abbrev Renderer := Params → Except Failure Bytes

/-- The content type of what a renderer makes. -/
def contentType : String := "application/pdf"

/-- The failure to render an invoice. -/
private def renderFailure (p : Params) (problem : Problem) : Failure :=
  ⟨.renderError, "Invoice for booking " ++ p.booking.toText ++ ": " ++ problem.message, []⟩

namespace Renderer

/-- The page as a document. -/
def page : Renderer := fun p =>
  match layout .sans p with
  | .error problem => .error (renderFailure p problem)
  | .ok marks =>
    if TicketCode.holds p.summary then .ok (document p marks)
    else .error (renderFailure p .summaryTooLong)

/-- One line of text. -/
def plain : Renderer := fun p => .ok ("invoice " ++ p.booking.toText ++ " " ++ p.item).toUTF8

/-- Nothing can be rendered. -/
def failing : Renderer := fun _ => .error ⟨.renderError, "Simulated render failure", []⟩

end Renderer

end BookingNotices.Invoice
