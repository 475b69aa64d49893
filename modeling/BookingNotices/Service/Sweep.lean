import BookingNotices.Service.Worker

/-!
# Sweeps

* `Sweep`          : how far a sweep over overdue notices has come;
* `Sweep.step`     : its next step: a listing, the choice of a row, or a step of the worker on it;
* `Sweep.finish`   : all that is left of a sweep, with nobody in between;
* `World.sweep`    : a whole sweep;
* `Sweeper.run`    : sweeps at every tick of a clock until it is told to stop.

A sweep first takes up the pending notices that were left behind, the oldest first, and then the
claimed ones. Each pass ends at the first row that is not overdue at the instant at which the sweep
began.
-/

namespace BookingNotices

/-- What a sweep has done. -/
structure Sweep.Report where
  /-- pending notices that were left behind -/
  orphaned : Nat := 0
  /-- claimed notices that were left behind -/
  stale : Nat := 0
  /-- notices whose work is now complete -/
  resumed : Nat := 0
  /-- notices that somebody else has taken up -/
  skipped : Nat := 0
  failed : Nat := 0
  deriving DecidableEq, Repr, Inhabited

/-- The two passes of a sweep. -/
inductive Sweep.Pass where
  | pending
  | processing
  deriving DecidableEq, Repr

/-- Where a sweep stands. -/
inductive Sweep.Phase where
  | listing (pass : Sweep.Pass)
  /-- the rows that were listed and are still to be looked at -/
  | choosing (pass : Sweep.Pass) (rows : List Notice)
  | working (pass : Sweep.Pass) (worker : Worker) (rows : List Notice)
  | ended (result : Except Failure Sweep.Report)

/-- A sweep under way. The threshold is in nanoseconds. -/
structure Sweep where
  began : Timestamp
  threshold : Nat
  report : Sweep.Report := {}
  phase : Sweep.Phase := .listing .pending

namespace Sweep

/-- A notice counts as left behind after fifteen minutes, if nobody says otherwise. -/
def defaultThresholdSeconds : Nat := 15 * 60

/-- Seconds from one sweep to the next, if nobody says otherwise. -/
def defaultIntervalSeconds : Nat := 60

/-- The report with the outcome of one worker. -/
def Report.record (r : Report) : Except Notice.Error Worker.Outcome → Report
  | .ok (.completed _) => { r with resumed := r.resumed + 1 }
  | .ok .alreadyHandled => { r with skipped := r.skipped + 1 }
  | .error _ => { r with failed := r.failed + 1 }

/-- The report with one more row taken up in a pass. -/
def Report.attempt (r : Report) : Pass → Report
  | .pending => { r with orphaned := r.orphaned + 1 }
  | .processing => { r with stale := r.stale + 1 }

namespace Pass

/-- The status of the rows of a pass. -/
def status : Pass → Notice.Status
  | .pending => .pending
  | .processing => .processing

/-- Whether a row is to be taken up. -/
def isDue (p : Pass) (s : Sweep) (n : Notice) : Bool :=
  match p with
  | .pending => n.isOrphaned s.began s.threshold
  | .processing => n.isStale s.began s.threshold

/-- The worker that takes up a row. -/
def worker (p : Pass) (s : Sweep) (n : Notice) : Worker :=
  match p with
  | .pending => .claiming n.id
  | .processing => .renewing n.id s.threshold

end Pass

/-- A sweep that begins. -/
def start (w : World) (threshold : Nat) : Sweep × World :=
  let (now, w) := w.now
  ({ began := now, threshold := threshold }, w)

/-- The rows of a pass, unless listing them fails. -/
def list (pass : Pass) (w : World) : Except Failure (List Notice) × World :=
  match w.storeFails .list with
  | (true, w) => (.error StoreCall.list.failure, w)
  | (false, w) => (.ok (w.store.withStatus pass.status), w)

/-- What follows a pass. -/
def after (s : Sweep) : Pass → Sweep
  | .pending => { s with phase := .listing .processing }
  | .processing => { s with phase := .ended (.ok s.report) }

/-- The next step of a sweep. -/
def step (s : Sweep) (w : World) : Sweep × World :=
  match s.phase with
  | .listing pass =>
    match list pass w with
    | (.error f, w) => ({ s with phase := .ended (.error f) }, w)
    | (.ok rows, w) => ({ s with phase := .choosing pass rows }, w)
  | .choosing pass [] => (s.after pass, w)
  | .choosing pass (n :: rows) =>
    if pass.isDue s n then
      ({ s with report := s.report.attempt pass, phase := .working pass (pass.worker s n) rows }, w)
    else (s.after pass, w)
  | .working pass worker rows =>
    match worker.result? with
    | some result => ({ s with report := s.report.record result, phase := .choosing pass rows }, w)
    | none =>
      let (worker, w) := worker.step w
      ({ s with phase := .working pass worker rows }, w)
  | .ended _ => (s, w)

/-- Takes up the rows of a pass, as far as they are due. -/
def takeUp (pass : Pass) : List Notice → Sweep → World → Sweep × World
  | [], s, w => (s, w)
  | n :: rows, s, w =>
    if pass.isDue s n then
      let (result, w) := (pass.worker s n).run w
      takeUp pass rows { s with report := (s.report.attempt pass).record result } w
    else (s, w)

/-- The second pass, and the end. -/
def finishProcessing (s : Sweep) (w : World) : Except Failure Report × World :=
  match list .processing w with
  | (.error f, w) => (.error f, w)
  | (.ok rows, w) =>
    let (s, w) := takeUp .processing rows s w
    (.ok s.report, w)

/-- All that is left of a sweep behind the rows of a pass. -/
def finishFrom (pass : Pass) (rows : List Notice) (s : Sweep) (w : World) :
    Except Failure Report × World :=
  let (s, w) := takeUp pass rows s w
  match pass with
  | .pending => finishProcessing s w
  | .processing => (.ok s.report, w)

/-- All that is left of a sweep. -/
def finish (s : Sweep) (w : World) : Except Failure Report × World :=
  match s.phase with
  | .listing pass =>
    match list pass w with
    | (.error f, w) => (.error f, w)
    | (.ok rows, w) => finishFrom pass rows s w
  | .choosing pass rows => finishFrom pass rows s w
  | .working pass worker rows =>
    let (result, w) := worker.run w
    finishFrom pass rows { s with report := s.report.record result } w
  | .ended result => (result, w)

/-- Whether a worker of the sweep is about to look up its booking. -/
def isFindingBooking (s : Sweep) : Bool :=
  match s.phase with
  | .working _ (.findingBooking _) _ => true
  | _ => false

/-- Takes steps until a worker is about to look up its booking, at most a number of them. -/
def toLookUp : Nat → Sweep → World → Sweep × World
  | 0, s, w => (s, w)
  | fuel + 1, s, w =>
    if s.isFindingBooking then (s, w)
    else
      let (s, w) := s.step w
      toLookUp fuel s w

/-- More steps than a sweep takes to a lookup or to its end: each row is looked at at most once in a
pass, with four steps at most. -/
def stepBound (w : World) : Nat := 8 * w.store.rows.length + 8

end Sweep

namespace World

/-- A whole sweep. -/
def sweep (w : World) (threshold : Nat) : Except Failure Sweep.Report × World :=
  let (s, w) := Sweep.start w threshold
  s.finish w

/-- A sweep that stands still where its first worker is about to look up a booking, if one comes so
far. -/
def sweepToLookUp (w : World) (threshold : Nat) : Sweep × World :=
  let (s, w) := Sweep.start w threshold
  s.toLookUp (Sweep.stepBound w) w

end World

namespace Sweeper

/-- What a sweeper waits for. -/
inductive Prompt where
  | tick
  /-- somebody says whether to stop -/
  | signal (stop : Bool)
  /-- nobody is left who could say so -/
  | abandoned
  deriving DecidableEq, Repr

/-- Sweeps at every tick until told to stop, or abandoned; a sweep that fails changes nothing about
that. The answer says whether the sweeper has stopped. -/
def run (threshold : Nat) : List Prompt → World → Bool × World
  | [], w => (false, w)
  | .tick :: prompts, w => run threshold prompts (w.sweep threshold).2
  | .signal true :: _, w => (true, w)
  | .signal false :: prompts, w => run threshold prompts w
  | .abandoned :: _, w => (true, w)

end Sweeper

end BookingNotices
