/-!
# Sets of characters

* `CharSet`          : a set of characters, as the lengths of the stretches of code points that are
  outside and inside of it by turns;
* `CharSet.contains` : whether a character is in the set.
-/

namespace BookingNotices.Text

/-- A set of characters: so many code points from zero on are outside of it, so many behind them are
inside, and so on; all that follow the last stretch are outside. -/
structure CharSet where
  stretches : List Nat
  deriving DecidableEq, Repr

namespace CharSet

/-- Whether a place lies in a stretch inside, the first stretch being inside or not. -/
def covers (inside : Bool) : List Nat → Nat → Bool
  | [], _ => false
  | length :: rest, place =>
    if place < length then inside else covers (!inside) rest (place - length)

/-- Whether a character is in the set. -/
def contains (s : CharSet) (c : Char) : Bool := covers false s.stretches c.toNat

end CharSet

end BookingNotices.Text
