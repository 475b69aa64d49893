import BookingNotices.Invoice.Metrics
import BookingNotices.Text.Blank

/-!
# Breaking text into lines

* `Metrics.splitWord` : a word as pieces that fit the room, or are one character;
* `Metrics.wrap`      : a text as lines of such pieces, with one blank between two pieces of a line.

Both take as much as fits before they break. A blank text is one empty line.
-/

namespace BookingNotices.Invoice.Metrics

open Numeric

/-- Goes on splitting a word: `piece` is not empty and is the piece begun. -/
def splitFrom (m : Metrics) (pen : Pen) (room : Single) (piece : List Char) :
    List Char → List (List Char)
  | [] => [piece]
  | c :: cs =>
    if m.exceeds pen room (piece ++ [c]) then piece :: splitFrom m pen room [c] cs
    else splitFrom m pen room (piece ++ [c]) cs

/-- A word as pieces: itself if it fits, else as many characters at a time as fit, at least one. -/
def splitWord (m : Metrics) (pen : Pen) (room : Single) (word : List Char) : List (List Char) :=
  if m.fits pen room word then [word]
  else
    match word with
    | [] => []
    | c :: cs => splitFrom m pen room [c] cs

/-- The pieces of all words of a text. -/
def pieces (m : Metrics) (pen : Pen) (room : Single) (text : List Char) : List (List Char) :=
  (Text.words text).flatMap (splitWord m pen room)

/-- Goes on filling lines: `line` is the line begun. -/
def fill (m : Metrics) (pen : Pen) (room : Single) (line : List Char) :
    List (List Char) → List (List Char)
  | [] => [line]
  | piece :: rest =>
    if m.fits pen room (line ++ ' ' :: piece) then fill m pen room (line ++ ' ' :: piece) rest
    else line :: fill m pen room piece rest

/-- A text as lines. -/
def wrap (m : Metrics) (pen : Pen) (room : Single) (text : List Char) : List (List Char) :=
  match m.pieces pen room text with
  | [] => [[]]
  | piece :: rest => fill m pen room piece rest

end BookingNotices.Invoice.Metrics
