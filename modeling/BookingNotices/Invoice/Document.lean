import BookingNotices.Bytes
import BookingNotices.Invoice.Layout
import BookingNotices.Text.Quoted

/-!
# The document of an invoice

* `document` : a page of marks as the bytes of a PDF file.

Texts are written as UTF-16 code units in hexadecimal, lengths in thousandths of a point.
-/

namespace BookingNotices.Invoice

open Numeric

/-- A length in points with three places. -/
private def pointsText (length : Single) : String :=
  let n := (points length).thousandths
  let digits := toString (n.natAbs % 1000)
  (if n < 0 then "-" else "") ++ toString (n.natAbs / 1000) ++ "." ++
    String.ofList (List.replicate (3 - digits.length) '0') ++ digits

/-- A UTF-16 code unit in four hexadecimal digits. -/
private def unitText (n : Nat) : String :=
  let digits := Text.hex n
  String.ofList (List.replicate (4 - digits.length) '0') ++ digits

/-- A character in UTF-16. -/
private def charText (c : Char) : String :=
  let n := c.toNat
  if n < 0x10000 then unitText n
  else unitText (0xD800 + (n - 0x10000) / 0x400) ++ unitText (0xDC00 + (n - 0x10000) % 0x400)

/-- The drawing instructions of a mark. -/
private def drawing : Mark → String
  | .text x baseline pen text =>
    "BT /" ++ pen.weight.name ++ " " ++ toString pen.size.thousandths ++ " 1000 div Tf " ++
      pointsText x ++ " " ++ pointsText (pageHeight - baseline) ++ " Td <" ++
      String.join (text.toList.map charText) ++ "> Tj ET\n"
  | .border cell =>
    let corners := (outline cell).map fun (x, y) =>
      toString x.thousandths ++ " " ++ toString y.thousandths
    "q 0.001 0 0 0.001 0 0 cm " ++ " m ".intercalate (corners.take 1) ++ " m " ++
      String.join ((corners.drop 1).map fun corner => corner ++ " l ") ++ "s Q\n"

/-- A face as an object of the file. -/
private def faceObject (name : String) : String :=
  "<< /Type /Font /Subtype /Type0 /BaseFont /" ++ name ++ " /Encoding /Identity-H >>"

/-- The objects of the file in the order of their numbers. -/
private def objects (p : Params) (marks : List Mark) : List String :=
  let content := String.join (marks.map drawing)
  ["<< /Type /Catalog /Pages 2 0 R >>",
    "<< /Type /Pages /Kids [3 0 R] /Count 1 >>",
    "<< /Type /Page /Parent 2 0 R /MediaBox [0 0 595.276 841.89] /Contents 4 0 R " ++
      "/Resources << /Font << /regular 5 0 R /bold 6 0 R /oblique 7 0 R >> >> >>",
    "<< /Length " ++ toString content.utf8ByteSize ++ " >>\nstream\n" ++ content ++ "endstream",
    faceObject "DejaVuSans", faceObject "DejaVuSans-Bold", faceObject "DejaVuSans-Oblique",
    "<< /Title (Invoice " ++ p.booking.toText ++ ") >>"]

/-- Writes the objects one after another, and the offset of each. -/
private def writeObjects : Nat → Nat → List String → String × List Nat
  | _, _, [] => ("", [])
  | number, offset, body :: rest =>
    let text := toString number ++ " 0 obj\n" ++ body ++ "\nendobj\n"
    let (texts, offsets) := writeObjects (number + 1) (offset + text.utf8ByteSize) rest
    (text ++ texts, offset :: offsets)

/-- An offset in ten digits. -/
private def offsetText (n : Nat) : String :=
  let digits := toString n
  String.ofList (List.replicate (10 - digits.length) '0') ++ digits

/-- A page of marks as the bytes of a PDF file. -/
def document (p : Params) (marks : List Mark) : Bytes :=
  let header := "%PDF-1.4\n"
  let (body, offsets) := writeObjects 1 header.utf8ByteSize (objects p marks)
  let count := toString (offsets.length + 1)
  let table := "xref\n0 " ++ count ++ "\n0000000000 65535 f \n" ++
    String.join (offsets.map fun offset => offsetText offset ++ " 00000 n \n")
  (header ++ body ++ table ++ "trailer\n<< /Size " ++ count ++ " /Root 1 0 R /Info 8 0 R >>\n" ++
    "startxref\n" ++ toString (header ++ body).utf8ByteSize ++ "\n%%EOF\n").toUTF8

end BookingNotices.Invoice
