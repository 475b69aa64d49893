import BookingNotices.Time.Calendar

/-!
# Instants in UTC

* `Timestamp`            : seconds from 1970 and nanoseconds, up to two seconds' worth in a leap
  second;
* `Timestamp.ofMillis?`  : the instant so many milliseconds from 1970, if it is in range;
* `Timestamp.minus?`     : an instant so many seconds before, if it is in range;
* `Timestamp.since`      : the signed distance between two instants, in nanoseconds;
* `Timestamp.text`       : the RFC 3339 text, with as few fraction digits as hold the value;
* `localText`            : a time of day with its date and weekday, at an offset from UTC.
-/

namespace BookingNotices

open Time

/-- An instant. In a leap second `nanos` goes on from a thousand million. -/
structure Timestamp where
  seconds : Int
  nanos : Nat
  deriving DecidableEq, Repr, Inhabited

namespace Timestamp

def nanosPerSecond : Nat := 1000000000

/-- The first second of the calendar. -/
def leastSecond : Int := Date.toDays ⟨Date.leastYear, 1, 1⟩ * 86400

/-- The last second of the calendar. -/
def greatestSecond : Int := Date.toDays ⟨Date.greatestYear, 12, 31⟩ * 86400 + 86399

/-- Whether the second lies in the calendar. -/
def inCalendar (seconds : Int) : Bool := leastSecond ≤ seconds && seconds ≤ greatestSecond

/-- The instant so many milliseconds from 1970. -/
def ofMillis? (millis : Int) : Option Timestamp :=
  let seconds := millis / 1000
  if inCalendar seconds then some ⟨seconds, (millis % 1000).toNat * 1000000⟩ else none

/-- Instants are ordered by their seconds, then by their nanoseconds. -/
def compare (a b : Timestamp) : Ordering :=
  if a.seconds < b.seconds then .lt
  else if b.seconds < a.seconds then .gt
  else if a.nanos < b.nanos then .lt
  else if b.nanos < a.nanos then .gt
  else .eq

instance : LE Timestamp := ⟨fun a b => compare a b ≠ .gt⟩
instance : LT Timestamp := ⟨fun a b => compare a b = .lt⟩
instance (a b : Timestamp) : Decidable (a ≤ b) := inferInstanceAs (Decidable (_ ≠ _))
instance (a b : Timestamp) : Decidable (a < b) := inferInstanceAs (Decidable (_ = _))

/-- Nanoseconds from 1970. -/
def toNanos (t : Timestamp) : Int := t.seconds * nanosPerSecond + t.nanos

/-- The nanoseconds from `earlier` to `t`, negative when `t` comes first. -/
def since (t earlier : Timestamp) : Int := t.toNanos - earlier.toNanos

/-- The instant so many nanoseconds from 1970. -/
def ofNanos (n : Int) : Timestamp :=
  ⟨n / (nanosPerSecond : Int), (n % (nanosPerSecond : Int)).toNat⟩

/-- The greatest number of seconds that a difference of instants may have. -/
def longestSpan : Int := (Nat.pow 2 63 - 1) / 1000

/-- The instant so many seconds before. The count is a machine word of 64 bits: its upper half means
seconds after. Nothing when the span or the result is out of range. -/
def minus? (t : Timestamp) (count : Nat) : Option Timestamp :=
  let seconds := Int.bmod count (Nat.pow 2 64)
  if longestSpan < seconds ∨ seconds < -longestSpan then none
  else if inCalendar (t.seconds - seconds) then some ⟨t.seconds - seconds, t.nanos⟩
  else none

/-- The days from 1970 of the second, and the second of that day. -/
def splitDay (seconds : Int) : Int × Nat := (seconds / 86400, (seconds % 86400).toNat)

/-- Fraction digits in groups of three, as few groups as hold the value. -/
def fractionText (nanos : Nat) : String :=
  if nanos = 0 then ""
  else if nanos % 1000000 = 0 then "." ++ padded 3 (nanos / 1000000)
  else if nanos % 1000 = 0 then "." ++ padded 6 (nanos / 1000)
  else "." ++ padded 9 nanos

/-- The text of an instant, without its offset. -/
def plainText (t : Timestamp) : String :=
  let (days, second) := splitDay t.seconds
  let date := Date.ofDays days
  -- a leap second is the sixtieth of its minute
  let leap := t.nanos / nanosPerSecond
  yearText date.year ++ "-" ++ padded 2 date.month ++ "-" ++ padded 2 date.day ++ "T" ++
    padded 2 (second / 3600) ++ ":" ++ padded 2 (second / 60 % 60) ++ ":" ++
    padded 2 (second % 60 + leap) ++ fractionText (t.nanos % nanosPerSecond)

/-- The RFC 3339 text, with `Z` as its offset. -/
def text (t : Timestamp) : String := t.plainText ++ "Z"

/-- The RFC 3339 text, with a numeric offset. -/
def offsetText (t : Timestamp) : String := t.plainText ++ "+00:00"

end Timestamp

namespace Time

/-- Weekday, date and time of day at an offset in seconds from UTC. -/
def localText (offset : Int) (t : Timestamp) : String :=
  let (days, second) := Timestamp.splitDay (t.seconds + offset)
  let date := Date.ofDays days
  weekday days ++ ", " ++ padded 2 date.day ++ "/" ++ padded 2 date.month ++ "/" ++
    yearText date.year ++ " " ++ padded 2 (second / 3600) ++ ":" ++ padded 2 (second / 60 % 60) ++
    ":" ++ padded 2 (second % 60)

end Time

end BookingNotices
