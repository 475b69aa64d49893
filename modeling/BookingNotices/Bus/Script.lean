import BookingNotices.Bus.Basic
import BookingNotices.Numeric.Total
import BookingNotices.Table

/-!
# Scripted handlers

* `Script`        : a handler that fails some calls first, and publishes some events when it first
  succeeds;
* `Script.call`   : one call of it: the failure, or the events that it publishes;
* `Script.Record` : what a call was given, as it is written down;
* `Cast`          : scripted handlers by name, and the record of their calls;
* `Rehearsal`     : a bus in memory with a cast of handlers;
* `Rehearsal.dispatchAll` : delivers until nothing waits.
-/

namespace BookingNotices

/-- A handler that fails its first calls, and publishes events on its first success. -/
structure Script where
  name : String
  failures : Nat := 0
  code : Failure.Code := .recordsUnavailable
  followUps : List Event := []
  calls : Nat := 0

namespace Script

/-- One call: its failure, or the events to publish, which are given up only once. -/
def call (s : Script) : Except Failure (List Event) × Script :=
  let count := s.calls + 1
  if count ≤ s.failures then
    (.error ⟨s.code, s.name ++ " call " ++ toString count, []⟩, { s with calls := count })
  else (.ok s.followUps, { s with calls := count, followUps := [] })

/-- What a call was given. -/
structure Record where
  handler : String
  topic : String
  event : String
  deliveries : Option UInt32
  deriving DecidableEq, Repr

end Script

/-- Scripted handlers, and the calls made to them. -/
structure Cast where
  scripts : List Script := []
  calls : List Script.Record := []

namespace Cast

/-- Adds a handler; it is known by its place in the cast. -/
def add (c : Cast) (s : Script) : Nat × Cast :=
  (c.scripts.length, { c with scripts := c.scripts ++ [s] })

/-- The name of a handler. -/
def nameOf (c : Cast) (handler : Nat) : String := (c.scripts[handler]?.map (·.name)).getD ""

/-- Calls a handler with an event, and writes the call down. -/
def call (c : Cast) (handler : Nat) (e : Event) : Except Failure (List Event) × Cast :=
  match c.scripts[handler]? with
  | none => (.ok [], c)
  | some s =>
    let (outcome, s) := s.call
    (outcome, { c with
      scripts := c.scripts.set handler s
      calls := c.calls ++ [⟨s.name, e.topic, e.id, e.metadata.deliveries⟩] })

/-- How many events the handlers have still to publish. -/
def followUpCount (c : Cast) : Nat :=
  Numeric.total (c.scripts.map fun s => s.followUps.length)

/-- Publishes events in order up to the first refusal. -/
def publishAll {σ : Type} (publish : Event → σ → Except Failure Unit × σ) :
    List Event → σ → Except Failure Unit × σ
  | [], s => (.ok (), s)
  | e :: es, s =>
    match publish e s with
    | (.ok (), s) => publishAll publish es s
    | (.error f, s) => (.error f, s)

end Cast

/-- A bus in memory with a cast of handlers. -/
structure Rehearsal where
  bus : Bus Nat := {}
  cast : Cast := {}

namespace Rehearsal

instance : HasBus Rehearsal Nat := ⟨Rehearsal.bus, fun b r => { r with bus := b }⟩

/-- Adds a handler to topics. -/
def subscribe (r : Rehearsal) (topics : List String) (s : Script) : Rehearsal :=
  let (handler, cast) := r.cast.add s
  { bus := topics.foldl (fun b topic => b.subscribe topic handler) r.bus, cast := cast }

/-- Publishes an event on the bus. -/
def publish (e : Event) (r : Rehearsal) : Except Failure Unit × Rehearsal :=
  let (outcome, bus) := r.bus.publish e
  (outcome, { r with bus := bus })

/-- What a handler does with an event. -/
def handle : Bus.Handle Rehearsal Nat := fun handler e r =>
  let (outcome, cast) := r.cast.call handler e
  let r := { r with cast := cast }
  match outcome with
  | .error f => (.error f, r)
  | .ok events => Cast.publishAll publish events r

/-- More deliveries than can follow: every delivery that waits has at most all its attempts, and
every event that a handler has still to publish makes at most one delivery for each subscription. -/
def deliveryBound (r : Rehearsal) : Nat :=
  r.bus.attemptLimit * (r.bus.queue.length + r.cast.followUpCount * r.bus.subscriptions.length) + 1

/-- Delivers until nothing waits. -/
def dispatchAll (r : Rehearsal) : Bus.Report × Rehearsal := Bus.dispatch handle r.deliveryBound r

end Rehearsal

end BookingNotices
