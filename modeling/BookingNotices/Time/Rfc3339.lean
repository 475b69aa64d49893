import BookingNotices.Text.Blank
import BookingNotices.Text.Integer
import BookingNotices.Time.Timestamp

/-!
# Reading instants

* `Problem`       : why a text is not an instant, and its wording;
* `readStrict`    : RFC 3339 to the letter (the separator may be a blank, letters of either case);
* `readRelaxed`   : the same fields with blanks between them, signed years of any length, fewer
  digits, and `UTC` as an offset.

Both read from left to right and report the first problem met; a field out of its range is reported
as soon as it is read, a day that its month has not at the end.
-/

namespace BookingNotices.Time

open Text

namespace Rfc3339

/-- Why a text is not an instant. -/
inductive Problem where
  | tooShort
  | invalid
  | outOfRange
  | tooLong
  | impossible
  deriving DecidableEq, Repr

def Problem.message : Problem → String
  | .tooShort => "premature end of input"
  | .invalid => "input contains invalid characters"
  | .outOfRange => "input is out of range"
  | .tooLong => "trailing input"
  | .impossible => "no possible date and time matching input"

/-- A step over the rest of a text. -/
abbrev Step (α : Type) := List Char → Except Problem (α × List Char)

/-- Reads at most `most` digits onto a value, which must stay a machine word. -/
def digits : Nat → Nat → List Char → Except Problem (Nat × List Char)
  | 0, value, cs => .ok (value, cs)
  | _ + 1, value, [] => .ok (value, [])
  | most + 1, value, c :: cs =>
    match Integer.digit? c with
    | none => .ok (value, c :: cs)
    | some d =>
      let next := value * 10 + d
      if Nat.pow 2 63 ≤ next then .error .outOfRange else digits most next cs

/-- How many bytes are left of the text. -/
def bytesLeft (cs : List Char) : Nat := cs.foldl (fun n c => n + c.utf8Size) 0

/-- Reads from `least` to `most` digits. -/
def number (least most : Nat) : Step Nat := fun cs =>
  if bytesLeft cs < least then .error .tooShort
  else if !(cs.take least).all (fun c => (Integer.digit? c).isSome) then .error .invalid
  else digits most 0 cs

/-- Reads one given character. -/
def expect (c : Char) : Step Unit
  | [] => .error .tooShort
  | d :: cs => if d = c then .ok ((), cs) else .error .invalid

/-- Reads a field with its bounds. -/
def field (least most low high : Nat) : Step Nat := fun cs => do
  let (n, cs) ← number least most cs
  if n < low ∨ high < n then .error .outOfRange else .ok (n, cs)

/-- Reads a fraction, if there is one, as nanoseconds; digits after the ninth are dropped. -/
def fraction : Step Nat
  | '.' :: cs => do
    let (n, rest) ← number 1 9 cs
    let count := cs.length - rest.length
    .ok (n * Nat.pow 10 (9 - count), rest.dropWhile fun c => (Integer.digit? c).isSome)
  | cs => .ok (0, cs)

/-- Reads an offset in seconds: `Z`, or a sign, two digits of hours, what `separate` passes over,
and two digits of minutes. -/
def offset (separate : List Char → Except Problem (List Char)) : Step Int
  | 'Z' :: cs | 'z' :: cs => .ok (0, cs)
  | [] => .error .tooShort
  | sign :: cs => do
    let negative ← match sign with
      | '+' => .ok false
      | '-' | '−' => .ok true
      | _ => .error .invalid
    let (hours, cs) ← number 2 2 cs
    let cs ← separate cs
    if bytesLeft cs < 2 then .error .tooShort
    else do
      let (minutes, cs) ← number 2 2 cs
      if 59 < minutes then .error .outOfRange
      else
        let seconds : Int := hours * 3600 + minutes * 60
        .ok (if negative then -seconds else seconds, cs)

/-- The fields of an instant as they are written. -/
structure Fields where
  date : Date
  hour : Nat
  minute : Nat
  second : Nat
  nanos : Nat
  offset : Int
  deriving Repr

/-- The instant that the fields mean. A sixtieth second is a leap second. -/
def Fields.toTimestamp (f : Fields) : Except Problem Timestamp :=
  if f.date.year < Date.leastYear ∨ Date.greatestYear < f.date.year ∨ !f.date.isValid then
    .error .outOfRange
  else if f.offset ≤ -86400 ∨ 86400 ≤ f.offset then .error .outOfRange
  else
    let (second, leap) := if f.second = 60 then (59, Timestamp.nanosPerSecond) else (f.second, 0)
    let seconds := f.date.toDays * 86400 + (f.hour * 3600 + f.minute * 60 + second : Nat) - f.offset
    if Timestamp.inCalendar seconds then .ok ⟨seconds, f.nanos + leap⟩ else .error .impossible

/-- What stands between the date and the time of day. -/
def separator : Step Unit
  | [] => .error .tooShort
  | c :: cs => if c = 'T' ∨ c = 't' ∨ c = ' ' then .ok ((), cs) else .error .invalid

/-- Reads a whole text by the letter of RFC 3339. -/
def readStrict (cs : List Char) : Except Problem Timestamp := do
  let (year, cs) ← number 4 4 cs
  let ((), cs) ← expect '-' cs
  let (month, cs) ← field 2 2 1 12 cs
  let ((), cs) ← expect '-' cs
  let (day, cs) ← field 2 2 1 31 cs
  let ((), cs) ← separator cs
  let (hour, cs) ← field 2 2 0 23 cs
  let ((), cs) ← expect ':' cs
  let (minute, cs) ← field 2 2 0 59 cs
  let ((), cs) ← expect ':' cs
  let (second, cs) ← field 2 2 0 60 cs
  let (nanos, cs) ← fraction cs
  let (offset, cs) ← offset (fun cs => (expect ':' cs).map (·.2)) cs
  if !cs.isEmpty then .error .tooLong
  else Fields.toTimestamp ⟨⟨year, month, day⟩, hour, minute, second, nanos, offset⟩

/-- Reads a year: with a sign any number of digits, else at most four. -/
private def signedYear : Step Int
  | '-' :: cs => do let (n, cs) ← number 1 cs.length cs; .ok (-(n : Int), cs)
  | '+' :: cs => do let (n, cs) ← number 1 cs.length cs; .ok ((n : Int), cs)
  | cs => do let (n, cs) ← number 1 4 cs; .ok ((n : Int), cs)

/-- Whether the text starts with the three letters of the universal time, in either case. -/
private def startsWithUtc : List Char → Bool
  | a :: b :: c :: _ => (a == 'U' || a == 'u') && (b == 'T' || b == 't') && (c == 'C' || c == 'c')
  | _ => false

/-- Reads a whole text with blanks between its fields. -/
def readRelaxed (cs : List Char) : Except Problem Timestamp := do
  let (year, cs) ← signedYear (trimLeft cs)
  if Nat.pow 2 31 ≤ year ∨ year < -(Nat.pow 2 31) then .error .outOfRange
  else do
    let ((), cs) ← expect '-' (trimLeft cs)
    let (month, cs) ← field 1 2 1 12 (trimLeft cs)
    let ((), cs) ← expect '-' (trimLeft cs)
    let (day, cs) ← field 1 2 1 31 (trimLeft cs)
    let ((), cs) ← separator cs
    let (hour, cs) ← field 1 2 0 23 (trimLeft cs)
    let ((), cs) ← expect ':' (trimLeft cs)
    let (minute, cs) ← field 1 2 0 59 (trimLeft cs)
    let ((), cs) ← expect ':' (trimLeft cs)
    let (second, cs) ← field 1 2 0 60 (trimLeft cs)
    let (nanos, cs) ← fraction cs
    let cs := trimLeft cs
    let (offset, cs) ←
      if startsWithUtc cs then .ok ((0 : Int), cs.drop 3)
      else offset (fun cs => .ok (cs.dropWhile fun c => c == ':' || isBlank c)) cs
    if !(trimLeft cs).isEmpty then .error .tooLong
    else Fields.toTimestamp ⟨⟨year, month, day⟩, hour, minute, second, nanos, offset⟩

end Rfc3339

end BookingNotices.Time
