import BookingNotices.Text.CharSet

/-!
# The direction of writing

* `Domain.Direction` : how a character goes with a direction of writing, and the sets of characters
  behind it;
* `Domain.flows`     : whether a label reads the same way in every context.
-/

namespace BookingNotices.Mail.Domain

open Text

/-- The characters of the bidirectional classes R and AL. -/
def rightChars : CharSet :=
  ⟨[1424, 1, 45, 1, 1, 1, 2, 1, 2, 1, 1, 56, 8, 1, 2, 1, 1, 1, 13, 48, 34, 3, 1, 101, 15, 2, 7, 2,
  10, 23, 1, 30, 27, 91, 11, 58, 9, 2, 4, 3, 1, 24, 4, 1, 9, 1, 3, 1, 5, 43, 3, 52, 2, 6, 8, 42,
  5957, 1, 56077, 1, 1, 10, 1, 532, 18, 127, 33, 13, 115, 143, 2305, 287, 1, 225, 3, 1, 2, 5, 4, 40,
  3, 4, 1, 165, 2, 82, 7, 484, 4, 8, 10, 294, 31, 44, 2, 80, 3, 70, 11, 49, 4, 122, 55296, 208, 7,
  109, 7, 1445, 2, 270]⟩

/-- The characters of the bidirectional class AN. -/
def arabicNumbers : CharSet :=
  ⟨[1536, 6, 90, 10, 1, 2, 112, 1, 434, 2, 80, 1, 66637, 10, 294, 31]⟩

/-- The characters of the bidirectional class EN. -/
def numbers : CharSet :=
  ⟨[48, 10, 120, 2, 5, 1, 1590, 10, 6518, 1, 3, 6, 6, 10, 1022, 20, 55924, 10, 967, 27, 54482, 50,
  6400, 11, 2789, 10]⟩

/-- The characters of the bidirectional classes ES, CS, ET, ON and BN. -/
def neutrals : CharSet :=
  ⟨[0, 9, 5, 14, 5, 15, 10, 7, 26, 6, 26, 10, 1, 36, 1, 7, 2, 1, 1, 3, 2, 5, 23, 1, 31, 1, 449, 2,
  7, 14, 2, 14, 5, 9, 1, 17, 116, 2, 8, 1, 5, 2, 1, 1, 110, 1, 403, 1, 2, 3, 118, 2, 1, 2, 1, 1, 1,
  2, 90, 1, 115, 1, 10, 1, 268, 4, 504, 2, 7, 1, 245, 1, 257, 8, 125, 7, 448, 1, 250, 4, 1106, 10,
  102, 1, 666, 2, 318, 1, 20, 10, 6, 11, 3, 1, 305, 1, 3, 2, 152, 34, 1469, 1, 1, 3, 11, 3, 13, 3,
  13, 3, 13, 2, 12, 3, 2, 24, 7, 48, 1, 6, 4, 6, 10, 5, 11, 5, 17, 48, 48, 2, 1, 4, 1, 2, 10, 1, 1,
  3, 5, 6, 1, 1, 1, 1, 1, 1, 4, 1, 11, 2, 4, 5, 5, 4, 2, 16, 41, 3, 4, 422, 69, 26, 1, 145, 25, 11,
  21, 40, 98, 450, 1, 339, 256, 628, 2, 32, 1, 105, 229, 6, 14, 7, 256, 94, 34, 26, 1, 89, 12, 214,
  26, 12, 5, 4, 3, 25, 15, 1, 5, 2, 5, 3, 91, 2, 3, 1, 90, 1, 196, 36, 57, 2, 49, 16, 28, 3, 50, 15,
  12, 4, 167, 4, 99, 2, 31, 1, 6592, 64, 22160, 55, 326, 3, 99, 1, 10, 2, 128, 34, 102, 1, 159, 4,
  12, 2, 58, 4, 754, 2, 20413, 1, 532, 18, 127, 33, 13, 3, 16, 10, 22, 35, 1, 19, 1, 4, 147, 1, 1,
  15, 10, 7, 26, 6, 26, 11, 122, 7, 1, 7, 1, 16, 257, 1, 62, 77, 3, 13, 3, 1, 1918, 1, 537, 7, 1298,
  20, 1530, 13, 2408, 29, 20464, 1, 19645, 4, 5327, 8, 110, 2, 21, 66, 3, 1, 186, 87, 900, 1, 57, 1,
  57, 1, 57, 1, 57, 1, 2875, 1, 3056, 2, 270, 44, 4, 100, 12, 15, 2, 15, 1, 15, 1, 37, 21, 5, 31, 1,
  58, 6, 61, 1, 178, 6, 154, 984, 4, 17, 3, 13, 3, 119, 4, 95, 6, 12, 4, 1, 15, 12, 4, 56, 8, 10, 6,
  40, 8, 30, 2, 2, 78, 340, 12, 14, 2, 13, 3, 9, 7, 46, 1, 7, 8, 14, 4, 9, 7, 9, 7, 147, 1, 55,
  1075, 2, 65534, 2, 65534, 2, 65534, 2, 65534, 2, 65534, 2, 65534, 2, 65534, 2, 65534, 2, 65534, 2,
  65534, 2, 65534, 2, 65534, 258, 240, 3600, 61438, 2, 65534, 2, 65534, 2]⟩

/-- The characters of the bidirectional class NSM. -/
def attachedMarks : CharSet :=
  ⟨[768, 112, 275, 7, 263, 45, 1, 1, 1, 2, 1, 2, 1, 1, 72, 11, 48, 21, 16, 1, 101, 7, 2, 6, 2, 2, 1,
  4, 35, 1, 30, 27, 91, 11, 58, 9, 9, 1, 24, 4, 1, 9, 1, 3, 1, 5, 43, 3, 60, 8, 42, 24, 1, 32, 55,
  1, 1, 1, 4, 8, 4, 1, 3, 7, 10, 2, 29, 1, 58, 1, 4, 4, 8, 1, 20, 2, 26, 1, 2, 2, 57, 1, 4, 2, 4, 2,
  2, 3, 3, 1, 30, 2, 3, 1, 11, 2, 57, 1, 4, 5, 1, 2, 4, 1, 20, 2, 22, 6, 1, 1, 58, 1, 2, 1, 1, 4, 8,
  1, 7, 2, 11, 2, 30, 1, 61, 1, 12, 1, 50, 1, 3, 1, 55, 1, 1, 3, 5, 3, 1, 4, 7, 2, 11, 2, 29, 1, 58,
  1, 15, 2, 20, 2, 28, 2, 57, 2, 4, 4, 8, 1, 20, 2, 29, 1, 72, 1, 7, 3, 1, 1, 90, 1, 2, 7, 12, 8,
  98, 1, 2, 9, 11, 7, 73, 2, 27, 1, 1, 1, 1, 1, 55, 14, 1, 5, 1, 2, 5, 11, 1, 36, 9, 1, 102, 4, 1,
  6, 1, 2, 2, 2, 25, 2, 4, 3, 16, 4, 13, 1, 2, 2, 6, 1, 15, 1, 703, 3, 946, 3, 29, 2, 30, 2, 30, 2,
  64, 2, 1, 7, 8, 1, 2, 11, 9, 1, 45, 3, 1, 1, 117, 2, 34, 1, 118, 3, 4, 2, 9, 1, 6, 3, 219, 2, 2,
  1, 58, 1, 1, 7, 1, 1, 1, 1, 2, 8, 6, 10, 2, 1, 48, 31, 49, 4, 48, 1, 1, 5, 1, 1, 5, 1, 40, 9, 12,
  2, 32, 4, 2, 2, 1, 3, 56, 1, 1, 2, 3, 1, 1, 3, 58, 8, 2, 2, 152, 3, 1, 13, 1, 7, 4, 1, 6, 1, 3, 2,
  198, 64, 720, 33, 3070, 3, 141, 1, 96, 32, 554, 4, 107, 2, 30164, 4, 1, 10, 32, 2, 80, 2, 272, 1,
  3, 1, 4, 1, 25, 2, 5, 1, 151, 2, 26, 18, 13, 1, 38, 8, 25, 11, 46, 3, 48, 1, 2, 4, 2, 2, 39, 1,
  67, 6, 2, 2, 2, 2, 12, 1, 8, 1, 47, 1, 51, 1, 1, 3, 2, 2, 5, 2, 1, 1, 42, 2, 8, 1, 238, 1, 2, 1,
  4, 1, 20272, 1, 737, 16, 16, 16, 973, 1, 226, 1, 149, 5, 1670, 3, 1, 2, 5, 4, 40, 3, 4, 1, 165, 2,
  573, 4, 387, 2, 80, 3, 70, 11, 49, 4, 123, 1, 54, 15, 41, 1, 2, 2, 10, 3, 49, 4, 2, 2, 7, 1, 61,
  3, 36, 5, 1, 8, 62, 1, 12, 2, 52, 9, 10, 4, 2, 1, 95, 3, 2, 1, 1, 2, 6, 1, 2, 1, 157, 1, 3, 8, 21,
  2, 57, 2, 3, 1, 37, 7, 3, 5, 195, 8, 2, 3, 1, 1, 23, 1, 84, 6, 1, 1, 4, 2, 1, 2, 238, 4, 6, 2, 1,
  2, 27, 2, 85, 8, 2, 1, 1, 2, 106, 1, 1, 1, 2, 6, 1, 1, 101, 3, 2, 4, 1, 5, 259, 9, 1, 2, 256, 2,
  1, 1, 4, 1, 144, 4, 2, 2, 4, 1, 32, 6, 2, 2, 40, 6, 2, 4, 8, 1, 9, 6, 2, 3, 46, 13, 1, 2, 406, 7,
  1, 6, 84, 22, 2, 7, 1, 2, 1, 2, 122, 6, 3, 1, 1, 2, 1, 7, 1, 1, 72, 2, 3, 1, 1, 1, 347, 2, 11, 2,
  52, 5, 5, 1, 1, 1, 5373, 1, 6, 15, 13978, 5, 59, 7, 1048, 1, 63, 4, 81, 1, 19640, 2, 4705, 46, 2,
  23, 544, 3, 17, 8, 2, 7, 30, 4, 148, 3, 1979, 55, 4, 50, 8, 1, 14, 1, 22, 5, 1, 15, 1360, 7, 1,
  17, 2, 7, 1, 2, 1, 5, 100, 1, 160, 7, 375, 1, 61, 4, 508, 4, 992, 7, 109, 7, 792501, 240]⟩

/-- How a character goes with a direction of writing. -/
inductive Direction where
  | left
  | right
  | arabicNumber
  | number
  | neutral
  | mark
  deriving DecidableEq, Repr

namespace Direction

/-- The direction of a character; all that is not said otherwise is written from the left. -/
def of (c : Char) : Direction :=
  if rightChars.contains c then .right
  else if arabicNumbers.contains c then .arabicNumber
  else if numbers.contains c then .number
  else if neutrals.contains c then .neutral
  else if attachedMarks.contains c then .mark
  else .left

/-- Whether the characters behind the first one of a label written from the left, last ones first,
go with it. -/
def fromLeft : List Direction → Bool
  | [] => true
  | last :: middle =>
    [left, number].contains last && middle.all [left, number, neutral, mark].contains

/-- Whether the characters behind the first one of a label written from the right, last ones first,
go with it. -/
def fromRight : List Direction → Bool
  | [] => true
  | last :: middle =>
    let all := last :: middle
    [right, number, arabicNumber].contains last && !all.contains left &&
      !(all.contains number && all.contains arabicNumber)

end Direction

/-- Whether some character is written from the right. -/
def turns (cs : List Char) : Bool :=
  cs.any fun c => [Direction.right, .arabicNumber].contains (.of c)

/-- Whether a label reads the same way in every context. -/
def flows (label : List Char) : Bool :=
  match label.map Direction.of with
  | [] => true
  | first :: rest =>
    let rest := rest.reverse.dropWhile (· = Direction.mark)
    match first with
    | .left => Direction.fromLeft rest
    | .right => Direction.fromRight rest
    | _ => false

end BookingNotices.Mail.Domain
