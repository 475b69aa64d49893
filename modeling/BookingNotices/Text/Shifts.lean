/-!
# Letters at a distance

* `Shift`         : a run of characters that stand for others at one distance;
* `Shift.target?` : what a character stands for under such runs.
-/

namespace BookingNotices.Text

/-- First and last character of a run, the distance between two of them, and the distance from each
to what it stands for. -/
abbrev Shift := Nat × Nat × Nat × Int

/-- Whether a place is one of a run. -/
def Shift.covers (s : Shift) (place : Nat) : Bool :=
  match s with
  | (first, last, step, _) => first ≤ place && place ≤ last && (place - first) % step == 0

/-- What a character stands for. -/
def Shift.target? (shifts : List Shift) (c : Char) : Option Char :=
  (shifts.find? (Shift.covers · c.toNat)).map fun (_, _, _, distance) =>
    Char.ofNat (c.toNat + distance).toNat

end BookingNotices.Text
