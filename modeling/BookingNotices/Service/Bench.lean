import BookingNotices.Service.Consumer
import BookingNotices.Service.Sweep

/-!
# Work that stands still

* `Bench`           : a world, and work in it that stands still before its lookup of a booking;
* `Bench.park`      : starts a worker, which stands still there if it comes so far;
* `Bench.parkSweep` : starts a sweep, which does so with its first worker;
* `Bench.release`   : lets such work go on to its end.

Meanwhile others may work in the same world.
-/

namespace BookingNotices

/-- Work that is under way. -/
inductive Bench.Work where
  | worker (w : Worker)
  | sweep (s : Sweep)

/-- How work ended. -/
inductive Bench.Outcome where
  | worker (r : Except Notice.Error Worker.Outcome)
  | sweep (r : Except Failure Sweep.Report)

/-- A world, and the work in it that stands still, by its tags. -/
structure Bench where
  world : World
  parked : Table String Bench.Work := []

namespace Bench

/-- All that is left of some work. -/
def Work.finish : Work → World → Outcome × World
  | .worker k, w =>
    let (r, w) := k.run w
    (.worker r, w)
  | .sweep s, w =>
    let (r, w) := s.finish w
    (.sweep r, w)

/-- Changes the world. -/
def act {α : Type} (f : World → α × World) (b : Bench) : α × Bench :=
  let (a, w) := f b.world
  (a, { b with world := w })

/-- Lets work stand still under a tag. Other work under it never goes on. -/
private def keep (tag : String) (work : Work) (b : Bench) : Bench :=
  { b with parked := Table.insert tag work b.parked }

/-- Starts a worker. It has no outcome if it stands still. -/
def park (tag : String) (worker : Worker) (b : Bench) : Option Outcome × Bench :=
  let (worker, b) := b.act worker.step
  match worker with
  | .findingBooking n => (none, b.keep tag (.worker (.findingBooking n)))
  | worker =>
    let (o, b) := b.act (Work.worker worker).finish
    (some o, b)

/-- Starts a sweep. It has no outcome if it stands still. -/
def parkSweep (tag : String) (threshold : Nat) (b : Bench) : Option Outcome × Bench :=
  let (s, b) := b.act fun w => w.sweepToLookUp threshold
  if s.isFindingBooking then (none, b.keep tag (.sweep s))
  else
    let (o, b) := b.act (Work.sweep s).finish
    (some o, b)

/-- Lets the work under a tag go on. It has no outcome if there is none. -/
def release (tag : String) (b : Bench) : Option Outcome × Bench :=
  match Table.find? tag b.parked with
  | none => (none, b)
  | some work =>
    let (o, b) := { b with parked := Table.erase tag b.parked }.act work.finish
    (some o, b)

end Bench

end BookingNotices
