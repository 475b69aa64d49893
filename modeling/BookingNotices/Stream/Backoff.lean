/-!
# Waiting after a failure

* `Backoff.initial`, `Backoff.longest` : the first and the longest wait of a consumer, in
  milliseconds;
* `Backoff.next`   : every wait is twice the one before it, up to the longest;
* `Backoff.delays` : a wait and so many that follow it.
-/

namespace BookingNotices.Stream.Backoff

def initial : Nat := 500

def longest : Nat := 30000

/-- The wait after a wait. -/
def next (millis : Nat) : Nat := min (millis * 2) longest

/-- A wait and the `count` waits after it. -/
def delays (millis : Nat) : Nat → List Nat
  | 0 => [millis]
  | count + 1 => millis :: delays (next millis) count

end BookingNotices.Stream.Backoff
