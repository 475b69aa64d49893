/-!
# Answers from outside

* `Supply α`      : an endless supply of answers, of which some are used up;
* `Supply.next`   : the next answer and what is left;
* `Supply.constant`, `Supply.firstTimes` : a supply that never changes, and one that says yes a
  number of times.

Clock readings, fresh identities and faults come from supplies, so that a statement over all
supplies speaks of all clocks and of all patterns of faults.
-/

namespace BookingNotices

/-- An endless supply of answers, of which the first `used` are used up. -/
structure Supply (α : Type) where
  answer : Nat → α
  used : Nat

namespace Supply

/-- The next answer, and what is left. -/
def next {α : Type} (s : Supply α) : α × Supply α :=
  (s.answer s.used, { s with used := s.used + 1 })

/-- Always the same answer. -/
def constant {α : Type} (a : α) : Supply α := ⟨fun _ => a, 0⟩

/-- Yes for the next `count` times, then no. -/
def firstTimes (count : Nat) : Supply Bool := ⟨fun i => i < count, 0⟩

end Supply

end BookingNotices
