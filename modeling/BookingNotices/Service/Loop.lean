import BookingNotices.Service.Sweep
import BookingNotices.Stream.Consumer

/-!
# Loops of the service

* `Ticker`             : a clock that ticks once in every period (`Ticker.every?`);
* `Loop`               : how a loop begins;
* `Sweeper.Settings`   : how a sweeper works, `Settings.loop` its loop, and `Sweeper.start` what it
  does;
* `Stream.Member.loop` : the loop of a consumer of streams.

A sweeper sweeps at the ticks of its clock. A consumer of streams takes up entries that were left
pending at the ticks of its own, and reads new ones in between. Spans are in nanoseconds.
-/

namespace BookingNotices

/-- A clock that ticks once in every period. -/
structure Ticker where
  period : Nat
  positive : 0 < period
  deriving DecidableEq, Repr

/-- The clock of a period. None ticks without end at one instant. -/
def Ticker.every? (period : Nat) : Option Ticker :=
  if h : 0 < period then some ⟨period, h⟩ else none

/-- How a loop begins. -/
inductive Loop where
  /-- it has nothing to wait for, and ends at once -/
  | idle
  | ticking (clock : Ticker)
  /-- it breaks down, since there is no clock for it -/
  | broken
  deriving DecidableEq, Repr

/-- A loop that needs the clock of a period. -/
def Loop.every (period : Nat) : Loop :=
  match Ticker.every? period with
  | some clock => .ticking clock
  | none => .broken

namespace Sweeper

/-- How a sweeper works. -/
structure Settings where
  /-- from one sweep to the next -/
  interval : Nat
  /-- how long a notice is left to its worker -/
  threshold : Nat
  deriving DecidableEq, Repr

def Settings.loop (s : Settings) : Loop := .every s.interval

/-- What becomes of a sweeper that is started. Nothing does if its loop breaks down. -/
def start (s : Settings) (prompts : List Prompt) (w : World) : Option (Bool × World) :=
  match s.loop with
  | .ticking _ => some (run s.threshold prompts w)
  | .idle | .broken => none

end Sweeper

/-- The loop of a consumer, which has nothing to wait for without topics. -/
def Stream.Member.loop {η : Type} (m : Stream.Member η) : Loop :=
  if m.topics.isEmpty then .idle else .every (m.settings.reclaimMillis * 1000000)

end BookingNotices
