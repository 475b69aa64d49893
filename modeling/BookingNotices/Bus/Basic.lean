import BookingNotices.Event.Envelope
import BookingNotices.Supply

/-!
# The bus in memory

* `Bus η`      : subscribed handlers of a type `η`, what was published, what waits to be delivered,
  and the deliveries that were given up;
* `publish`    : accepts an event for every handler of its topic, unless it is refused;
* `deliver`    : hands the first waiting delivery to its handler;
* `dispatch`   : delivers as long as something waits, at most a number of times;
* `Report`     : how the deliveries ended.

A failed delivery goes to the end of the queue until it has had all its attempts. A handler acts on
a state that holds the bus, so it may publish.
-/

namespace BookingNotices

/-- An event on its way to a handler. -/
structure Bus.Delivery (η : Type) where
  event : Event
  handler : η
  attempts : Nat

/-- A delivery that was given up. -/
structure Bus.DeadLetter (η : Type) where
  event : Event
  handler : η
  lastError : String

/-- How deliveries ended. -/
structure Bus.Report where
  delivered : Nat := 0
  retried : Nat := 0
  deadLettered : Nat := 0
  deriving DecidableEq, Repr

/-- A bus whose handlers are named by `η`. -/
structure Bus (η : Type) where
  subscriptions : List (String × η) := []
  published : List Event := []
  queue : List (Bus.Delivery η) := []
  deadLetters : List (Bus.DeadLetter η) := []
  refusals : Supply Bool := .constant false
  attemptLimit : Nat := 3

namespace Bus

variable {η : Type}

/-- The attempts that a delivery has if nobody says otherwise. -/
def defaultAttemptLimit : Nat := 3

/-- An empty bus; a delivery has at least one attempt. -/
def withAttemptLimit (limit : Nat) : Bus η := { attemptLimit := max limit 1 }

/-- Adds a handler to a topic. -/
def subscribe (b : Bus η) (topic : String) (handler : η) : Bus η :=
  { b with subscriptions := b.subscriptions ++ [(topic, handler)] }

/-- The handlers of a topic, in the order in which they subscribed. -/
def handlersOf (b : Bus η) (topic : String) : List η :=
  (b.subscriptions.filter fun (t, _) => t = topic).map (·.2)

/-- Publishes an event: every handler of its topic gets a delivery. -/
def publish (b : Bus η) (e : Event) : Except Failure Unit × Bus η :=
  let (refused, refusals) := b.refusals.next
  let b := { b with refusals := refusals }
  if refused then (.error ⟨.channelError, "Publish to " ++ e.topic ++ " rejected", []⟩, b)
  else
    (.ok (), { b with
      published := b.published ++ [e]
      queue := b.queue ++ (b.handlersOf e.topic).map fun h => ⟨e, h, 0⟩ })

/-- Refuses the next `count` events. -/
def refuseNext (b : Bus η) (count : Nat) : Bus η := { b with refusals := .firstTimes count }

/-- Forgets what was published, what waits, and what was given up. -/
def clear (b : Bus η) : Bus η := { b with published := [], queue := [], deadLetters := [] }

/-- The published events of a topic. -/
def eventsOf (b : Bus η) (topic : String) : List Event :=
  b.published.filter fun e => e.topic = topic

/-- Whether an event of a topic was published. -/
def hasEvent (b : Bus η) (topic : String) : Bool := b.published.any fun e => e.topic = topic

/-- How one delivery ended. -/
inductive Ending where
  | delivered
  | retried
  | deadLettered
  deriving DecidableEq, Repr

/-- The report with one more ending. -/
def Report.add (r : Report) : Ending → Report
  | .delivered => { r with delivered := r.delivered + 1 }
  | .retried => { r with retried := r.retried + 1 }
  | .deadLettered => { r with deadLettered := r.deadLettered + 1 }

end Bus

/-- A state that holds a bus. -/
class HasBus (σ : Type) (η : outParam Type) where
  bus : σ → Bus η
  setBus : Bus η → σ → σ

namespace Bus

variable {σ η : Type} [HasBus σ η]

/-- What a handler does with an event: it acts on the state and succeeds or fails. -/
abbrev Handle (σ η : Type) := η → Event → σ → Except Failure Unit × σ

/-- Changes the bus of a state. -/
def modify (f : Bus η → Bus η) (s : σ) : σ := HasBus.setBus (f (HasBus.bus s)) s

/-- Settles a delivery whose handler has answered. -/
def settle (d : Delivery η) (outcome : Except Failure Unit) (b : Bus η) : Ending × Bus η :=
  match outcome with
  | .ok () => (.delivered, b)
  | .error f =>
    if d.attempts < b.attemptLimit then (.retried, { b with queue := b.queue ++ [d] })
    else (.deadLettered, { b with
      deadLetters := b.deadLetters ++ [⟨d.event, d.handler, f.describe⟩] })

/-- Hands the first waiting delivery to its handler. Nothing when none waits. -/
def deliver (handle : Handle σ η) (s : σ) : Option (Ending × σ) :=
  match (HasBus.bus s).queue with
  | [] => none
  | d :: rest =>
    let s := modify (fun b => { b with queue := rest }) s
    let d := { d with attempts := d.attempts + 1 }
    let (outcome, s) := handle d.handler (d.event.delivered d.attempts) s
    let (ending, b) := settle d outcome (HasBus.bus s)
    some (ending, HasBus.setBus b s)

/-- Delivers as long as something waits, at most so many times. -/
def dispatch (handle : Handle σ η) : Nat → σ → Report × σ
  | 0, s => ({}, s)
  | steps + 1, s =>
    match deliver handle s with
    | none => ({}, s)
    | some (ending, s) =>
      let (report, s) := dispatch handle steps s
      (report.add ending, s)

end Bus

end BookingNotices
