import BookingNotices.Numeric.Single
import BookingNotices.Numeric.Total

/-!
# Widths of text

* `Weight`, `Pen`  : in which face and size a text is set;
* `Metrics`        : how far each character of a face moves the pen, in units of which an em has
  2048;
* `Metrics.span`   : the sum of these over a text;
* `Metrics.units`  : that sum as it is counted, in 32 bits;
* `Metrics.width`  : what is counted in millimetres, in single precision;
* `Metrics.sans`   : the faces that invoices are set in.
-/

namespace BookingNotices.Invoice

open Numeric

/-- The three faces. -/
inductive Weight where
  | regular
  | bold
  | oblique
  deriving DecidableEq, Repr

def Weight.name : Weight → String
  | .regular => "regular"
  | .bold => "bold"
  | .oblique => "oblique"

/-- A face in a size, which is in points. -/
structure Pen where
  weight : Weight
  size : Single
  deriving DecidableEq, Repr

/-- How far each character moves the pen. -/
structure Metrics where
  advance : Weight → Char → Nat

/-- The units of an em. -/
def unitsPerEm : Nat := 2048

/-- The points of a millimetre. -/
def pointsPerMm : Single := 72 / Single.ofDecimal 254 1

namespace Metrics

/-- How far a text moves the pen, in units. -/
def span (m : Metrics) (weight : Weight) (cs : List Char) : Nat :=
  total (cs.map (m.advance weight))

/-- The units that are counted of a text: a count of 32 bits begins again at zero. -/
def units (m : Metrics) (weight : Weight) (cs : List Char) : Nat := m.span weight cs % UInt32.size

/-- The width of so many units in millimetres. -/
def millimetres (size : Single) (units : Nat) : Single :=
  Single.ofNat units / Single.ofNat unitsPerEm * size / pointsPerMm

/-- The width of a text in millimetres. -/
def width (m : Metrics) (pen : Pen) (cs : List Char) : Single :=
  millimetres pen.size (m.units pen.weight cs)

/-- Whether a text is at most so wide. -/
def fits (m : Metrics) (pen : Pen) (room : Single) (cs : List Char) : Bool := m.width pen cs ≤ room

/-- Whether a text is wider than the room. A text in a size without a value neither fits nor
exceeds any room. -/
def exceeds (m : Metrics) (pen : Pen) (room : Single) (cs : List Char) : Bool :=
  room < m.width pen cs

/-! ## The faces of invoices -/

/-- The advances of the printable ASCII characters that do not share the common one. -/
private def asciiAdvances : List (String × Nat) :=
  [(" ,.", 651), ("!:;'ijlI|", 569), ("()[]\x7b\x7d", 799), ("-/\\\x60\"", 739), ("f", 803),
    ("rst", 1067), ("ckvxyz", 1126), ("w", 1675), ("m", 1995), ("M", 1767), ("W", 2025),
    ("@%", 2048), ("J", 604), ("ABCDEFGHKLNOPQRSTUVXYZ", 1401)]

/-- The advance of a printable ASCII character. -/
private def asciiAdvance (c : Char) : Nat :=
  match asciiAdvances.find? fun (cs, _) => cs.toList.contains c with
  | some (_, units) => units
  | none => 1255

/-- The advances of the regular face: the ASCII characters, Latin letters with marks, combining
marks, Greek and Cyrillic letters, some single signs, and one width for all others. -/
def regularAdvance (c : Char) : Nat :=
  let n := c.toNat
  if 0x20 ≤ n ∧ n ≤ 0x7E then asciiAdvance c
  else if n = 0xA0 then 651
  else if (0xC0 ≤ n ∧ n ≤ 0x24F) ∨ (0x1E00 ≤ n ∧ n ≤ 0x1EFF) then 1255 + 20 * (n % 7)
  else if 0x300 ≤ n ∧ n ≤ 0x36F then 0
  else if 0x370 ≤ n ∧ n ≤ 0x52F then 1300
  else if n = 0x200B then 0
  else if n = 0x2003 then 2048
  else if n = 0x20AB then 1302
  else 1229

/-- The faces that invoices are set in: the bold one is an eighth wider than the regular one, the
oblique one as wide. -/
def sans : Metrics where
  advance
    | .regular, c => regularAdvance c
    | .bold, c => regularAdvance c * 9 / 8
    | .oblique, c => regularAdvance c

end Metrics

end BookingNotices.Invoice
