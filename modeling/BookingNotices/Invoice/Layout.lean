import BookingNotices.Invoice.Params
import BookingNotices.Invoice.Wrap

/-!
# The page of an invoice

* `Mark`        : a text at a place, or a border; lengths are in millimetres from the upper left
  corner;
* `centered`, `labelled`, `row` : the parts of the page, each with the height at which the next
  begins;
* `layout`      : the marks of the page, unless they do not fit;
* `outline`     : the corners of a border in points from the lower left corner.

Heights and widths are single precision numbers, added in the order in which the page is filled.
-/

namespace BookingNotices.Invoice

open Numeric

/-- A part of the page. -/
structure Cell where
  x : Single
  y : Single
  width : Single
  height : Single
  deriving DecidableEq, Repr

/-- What is put on the page. -/
inductive Mark where
  | text (x baseline : Single) (pen : Pen) (text : String)
  | border (cell : Cell)
  deriving DecidableEq, Repr

/-- Where a text stands in its cell. -/
inductive Align where
  | left
  | center
  deriving DecidableEq, Repr

/-! ## Measures of the page -/

def pageHeight : Single := 297
def margin : Single := 10
def contentWidth : Single := 190
def rowHeight : Single := 10
def bottomLimit : Single := 287
def labelWidth : Single := 30
def labelLine : Single := 5
def itemColumn : Single := 95
def countColumn : Single := 35
def priceColumn : Single := 30
def padding : Single := 1
def centeredRoom : Single := 120

def titlePen : Pen := ⟨.bold, 12⟩
def bodyPen : Pen := ⟨.regular, 10⟩
def labelPen : Pen := ⟨.bold, 10⟩
def footerPen : Pen := ⟨.oblique, 10⟩

/-- The part of a size by which a text stands below the middle of its cell. -/
def baselineDrop : Single := .ofDecimal 3 1

/-! ## Parts of the page -/

/-- A text in a cell; an empty one leaves no mark. -/
def textIn (m : Metrics) (cell : Cell) (pen : Pen) (text : List Char) (align : Align) : List Mark :=
  if text.isEmpty then []
  else
    let x := match align with
      | .left => cell.x + padding
      | .center => cell.x + (cell.width - m.width pen text) / 2
    let baseline := cell.y + cell.height / 2 + baselineDrop * pen.size / pointsPerMm
    [.text x baseline pen (String.ofList text)]

/-- Lines below one another, and the height below the last one. -/
def stack (m : Metrics) (x width step : Single) (pen : Pen) (align : Align) :
    Single → List (List Char) → List Mark × Single
  | y, [] => ([], y)
  | y, line :: lines =>
    let (marks, below) := stack m x width step pen align (y + step) lines
    (textIn m ⟨x, y, width, rowHeight⟩ pen line align ++ marks, below)

/-- A text centered on the page. -/
def centered (m : Metrics) (y : Single) (pen : Pen) (text : String) : List Mark × Single :=
  stack m margin contentWidth rowHeight pen .center y (m.wrap pen centeredRoom text.toList)

/-- A label, and a text beside it. -/
def labelled (m : Metrics) (y : Single) (label value : String) : List Mark × Single :=
  let x := margin + labelWidth
  let width := contentWidth - labelWidth
  let (marks, below) := stack m x width labelLine bodyPen .left y
    (m.wrap bodyPen (width - 2 * padding) value.toList)
  (textIn m ⟨margin, y, labelWidth, rowHeight⟩ labelPen label.toList .left ++ marks, below)

/-- A column of a row: its width, text and alignment. -/
structure Column where
  width : Single
  text : String
  align : Align

/-- The lines of a column. -/
def Column.lines (m : Metrics) (c : Column) : List (List Char) :=
  m.wrap bodyPen (c.width - 2 * padding) c.text.toList

/-- One column of a row: its border, and its lines in the middle of the height. -/
def columnMarks (m : Metrics) (x y height : Single) (c : Column) : List Mark :=
  let lines := c.lines m
  let top := y + (height - rowHeight * Single.ofNat lines.length) / 2
  .border ⟨x, y, c.width, height⟩ ::
    lines.zipIdx.flatMap fun (line, i) =>
      textIn m ⟨x, top + rowHeight * Single.ofNat i, c.width, rowHeight⟩ bodyPen line c.align

/-- The columns of a row from left to right. -/
def columnsMarks (m : Metrics) (y height : Single) : Single → List Column → List Mark
  | _, [] => []
  | x, c :: cs => columnMarks m x y height c ++ columnsMarks m y height (x + c.width) cs

/-- A row of the table, as high as its longest column. -/
def row (m : Metrics) (y : Single) (columns : List Column) : List Mark × Single :=
  let count := (columns.map fun c => (c.lines m).length).max?.getD 1
  let height := rowHeight * Single.ofNat count
  (columnsMarks m y height margin columns, y + height)

/-! ## The page -/

/-- Why there is no invoice. -/
inductive Problem where
  | overflow
  | summaryTooLong
  deriving DecidableEq, Repr

def Problem.message : Problem → String
  | .overflow => "content does not fit on one page"
  | .summaryTooLong => "ticket summary cannot be encoded as a QR code: data too long"

/-- The names of the columns. -/
def headings : List Column :=
  [⟨itemColumn, "Item", .left⟩, ⟨countColumn, "Quantity", .center⟩,
    ⟨priceColumn, "Unit Price", .center⟩, ⟨priceColumn, "Total", .center⟩]

/-- The one row of the table. -/
def order (p : Params) : List Column :=
  [⟨itemColumn, p.item, .left⟩, ⟨countColumn, "1", .center⟩,
    ⟨priceColumn, p.price, .center⟩, ⟨priceColumn, p.price, .center⟩]

/-- The marks of the page from top to bottom, and the height at which it ends. -/
def page (m : Metrics) (p : Params) : List Mark × Single :=
  let wide (y : Single) : Cell := ⟨margin, y, contentWidth, rowHeight⟩
  let title := textIn m (wide margin) titlePen "Movie Ticket Invoice".toList .left
  let y := margin + 12
  let (theater, y) := centered m y bodyPen p.theater
  let (location, y) := centered m y bodyPen p.location
  let y := y + 5
  let (customer, y) := labelled m y "Customer:" p.userName
  let (email, y) := labelled m y "Email:" p.email
  let y := y + 5
  let heading := .border (wide y) :: textIn m (wide y) labelPen "Order Details".toList .center
  let y := y + rowHeight
  let (names, y) := row m y headings
  let (ordered, y) := row m y (order p)
  let thanks := textIn m (wide y) footerPen "Thank you!".toList .center
  let y := y + rowHeight
  (title ++ theater ++ location ++ customer ++ email ++ heading ++ names ++ ordered ++ thanks, y)

/-- The marks of the page, if it ends above the lower margin. -/
def layout (m : Metrics) (p : Params) : Except Problem (List Mark) :=
  let (marks, bottom) := page m p
  if bottomLimit < bottom then .error .overflow else .ok marks

/-- A length in points; the factor is rounded to six places. -/
def points (length : Single) : Single := length * .ofDecimal 2834646 6

/-- The corners of a border, from its upper left one clockwise. -/
def outline (c : Cell) : List (Single × Single) :=
  let top := pageHeight - c.y
  let bottom := top - c.height
  let right := c.x + c.width
  [(c.x, top), (right, top), (right, bottom), (c.x, bottom)].map fun (x, y) => (points x, points y)

end BookingNotices.Invoice
