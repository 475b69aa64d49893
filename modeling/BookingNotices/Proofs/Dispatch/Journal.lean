import BookingNotices.Proofs.Dispatch.Basic
import Mathlib.Logic.Function.Iterate

/-!
# A bus, and all that was seen of it

* `Bus.Publishes`    : one bus comes from another by publishing; a handler may do nothing else with
  the bus (`Handle.OnlyPublishes`), whatever it does besides;
* `Bus.Call`         : one call of a handler, with the delivery that it was made for;
* `Bus.Journal`      : a state that holds a bus, every delivery that was ever queued, those that
  wait, and all calls;
* `Bus.Move`, `Journal.step`, `Journal.run` : somebody subscribes or publishes, publications are
  refused for a while, or what waits is delivered. Any number of these happen in any order;
* `deliver_of_queue` : what one delivery makes of the state.

A delivery is known by its place among all that were ever queued: one event may be published twice,
and one handler may subscribe twice. A dispatch that stops after any number of deliveries is a move
as well, so that a statement about all runs speaks of the moment after every single delivery.
-/

namespace BookingNotices.Bus

variable {σ η : Type}

/-! ## Publishing -/

/-- The second bus comes from the first by publishing events, refused or not. -/
inductive Publishes : Bus η → Bus η → Prop where
  | refl (b : Bus η) : Publishes b b
  | publish {b b' : Bus η} (h : Publishes b b') (e : Event) : Publishes b (b'.publish e).2

theorem Publishes.trans {a b c : Bus η} (hab : Publishes a b) (hbc : Publishes b c) :
    Publishes a c := by
  induction hbc with
  | refl => exact hab
  | publish _ e ih => exact .publish ih e

/-- An event and a handler that wait for the first attempt. -/
def Delivery.first (d : Event × η) : Delivery η := ⟨d.1, d.2, 0⟩

/-- The deliveries that an event makes: one for every handler of its topic. -/
def deliveriesOf (b : Bus η) (e : Event) : List (Event × η) := (b.handlersOf e.topic).map (e, ·)

/-- The events published since then, each with the handlers of its topic. -/
def newSince (before after : Bus η) : List (Event × List η) :=
  (after.published.drop before.published.length).map fun e => (e, before.handlersOf e.topic)

/-- The deliveries that accepted events make. -/
def madeBy (accepted : List (Event × List η)) : List (Event × η) :=
  accepted.flatMap fun a => a.2.map (a.1, ·)

/-- The bus with these events accepted. -/
def accepting (b : Bus η) (events : List Event) : Bus η := { b with
  published := b.published ++ events
  queue := b.queue ++ (events.flatMap b.deliveriesOf).map Delivery.first }

/-- An event is accepted, or nothing but the supply of refusals changes. -/
theorem publish_cases (b : Bus η) (e : Event) :
    ((∃ f, (b.publish e).1 = .error f) ∧
      (b.publish e).2 = { b with refusals := b.refusals.next.2 }) ∨
    ((b.publish e).1 = .ok () ∧
      (b.publish e).2 = { b.accepting [e] with refusals := b.refusals.next.2 }) := by
  unfold publish
  dsimp only
  split
  · exact Or.inl ⟨⟨_, rfl⟩, rfl⟩
  · refine Or.inr ⟨rfl, ?_⟩
    unfold accepting deliveriesOf
    rw [List.flatMap_singleton, List.map_map]
    rfl

/-- A refused event leaves what was published, and what waits. -/
theorem publish_eq_error {b : Bus η} {e : Event} {f : Failure} (h : (b.publish e).1 = .error f) :
    (b.publish e).2.published = b.published ∧ (b.publish e).2.queue = b.queue := by
  rcases b.publish_cases e with ⟨-, hb⟩ | ⟨hok, -⟩
  · rw [hb]
    exact ⟨rfl, rfl⟩
  · rw [hok] at h
    cases h

/-- Publishing adds events and their deliveries, and changes nothing else but the refusals. -/
theorem Publishes.eq_accepting {b b' : Bus η} (h : Publishes b b') :
    ∃ events refusals, b' = { b.accepting events with refusals := refusals } := by
  induction h with
  | refl =>
    refine ⟨[], b.refusals, ?_⟩
    unfold accepting
    rw [List.flatMap_nil, List.map_nil, List.append_nil, List.append_nil]
  | publish _ e ih =>
    obtain ⟨events, refusals, rfl⟩ := ih
    rcases publish_cases { b.accepting events with refusals := refusals } e with
      ⟨-, hrefused⟩ | ⟨-, haccepted⟩
    · exact ⟨events, _, hrefused⟩
    · refine ⟨events ++ [e], refusals.next.2, haccepted.trans ?_⟩
      unfold accepting
      simp only [List.append_assoc, List.flatMap_append, List.map_append]
      rfl

theorem newSince_of_published {b b' : Bus η} {events : List Event}
    (h : b'.published = b.published ++ events) :
    newSince b b' = events.map fun e => (e, b.handlersOf e.topic) := by
  unfold newSince
  rw [h, List.drop_left]

theorem madeBy_map (b : Bus η) (events : List Event) :
    madeBy (events.map fun e => (e, b.handlersOf e.topic)) = events.flatMap b.deliveriesOf := by
  unfold madeBy
  rw [List.flatMap_map]
  rfl

theorem madeBy_append (a b : List (Event × List η)) : madeBy (a ++ b) = madeBy a ++ madeBy b :=
  List.flatMap_append

/-! ## What was seen of a bus -/

/-- One call of a handler. -/
structure Call (η : Type) where
  /-- the place of its delivery among all that were ever queued -/
  place : Nat
  handler : η
  /-- the event as it was handed over -/
  event : Event
  outcome : Except Failure Unit
  ending : Ending

/-- A state that holds a bus, and all that was seen of the bus. -/
structure Journal (σ η : Type) where
  state : σ
  /-- all events that were ever accepted, each with those who subscribed to its topic then -/
  accepted : List (Event × List η) := []
  /-- the places of those that wait, in the order of the queue -/
  waiting : List Nat := []
  calls : List (Call η) := []
  /-- how the calls ended, as the dispatches report it -/
  report : Report := {}

/-- What somebody does with a bus. -/
inductive Move (η : Type) where
  | subscribe (topic : String) (handler : η)
  | publish (e : Event)
  | refuseNext (count : Nat)
  /-- delivers as long as something waits, at most so many times -/
  | dispatch (deliveries : Nat)

/-- The handlers do nothing with the bus but publish. -/
def Handle.OnlyPublishes [HasBus σ η] (handle : Handle σ η) : Prop :=
  ∀ h e (s : σ), Publishes (HasBus.bus s) (HasBus.bus (handle h e s).2)

/-- The bus that is put into a state is the one that it holds. -/
class LawfulBus (σ : Type) {η : Type} [HasBus σ η] : Prop where
  bus_setBus : ∀ (b : Bus η) (s : σ), HasBus.bus (HasBus.setBus b s) = b

attribute [simp] LawfulBus.bus_setBus

/-- How an attempt ends: a delivery has at most `limit` of them. -/
def Ending.ofAttempt (limit attempt : Nat) : Except Failure Unit → Ending
  | .ok () => .delivered
  | .error _ => if attempt < limit then .retried else .deadLettered

namespace Journal

/-- All deliveries that were ever queued: one for each accepted event and handler. -/
def queued (j : Journal σ η) : List (Event × η) := madeBy j.accepted

variable [HasBus σ η]

/-- The bus of the state. -/
def bus (j : Journal σ η) : Bus η := HasBus.bus j.state

/-- More events are accepted; their deliveries wait. -/
def enter (j : Journal σ η) (new : List (Event × List η)) : Journal σ η := { j with
  accepted := j.accepted ++ new
  waiting := j.waiting ++ List.range' j.queued.length (madeBy new).length }

/-- Hands the first waiting delivery to its handler, and writes down what is seen of it. -/
def deliver (handle : Handle σ η) (j : Journal σ η) : Journal σ η :=
  match j.bus.queue, j.waiting, Bus.deliver handle j.state with
  | d :: rest, place :: places, some (ending, s) =>
    let event := d.event.delivered (d.attempts + 1)
    let popped := Bus.modify (fun b => { b with queue := rest }) j.state
    let entered := { j with waiting := places }.enter (newSince j.bus (HasBus.bus s))
    { state := s
      accepted := entered.accepted
      waiting := entered.waiting ++ if ending = .retried then [place] else []
      calls := j.calls ++ [⟨place, d.handler, event, (handle d.handler event popped).1, ending⟩]
      report := j.report.add ending }
  | _, _, _ => j

theorem deliver_of_nil {handle : Handle σ η} {j : Journal σ η} (hqueue : j.bus.queue = []) :
    j.deliver handle = j := by
  unfold deliver
  rw [hqueue]

/-- What happens next. -/
def step (handle : Handle σ η) (j : Journal σ η) : Move η → Journal σ η
  | .subscribe topic handler =>
    { j with state := Bus.modify (fun b => b.subscribe topic handler) j.state }
  | .publish e =>
    let s := Bus.modify (fun b => (b.publish e).2) j.state
    { j.enter (newSince j.bus (HasBus.bus s)) with state := s }
  | .refuseNext count => { j with state := Bus.modify (fun b => b.refuseNext count) j.state }
  | .dispatch deliveries => (deliver handle)^[deliveries] j

/-- All that happens, one after the other. -/
def run (handle : Handle σ η) (j : Journal σ η) (moves : List (Move η)) : Journal σ η :=
  moves.foldl (step handle) j

/-- The calls for the delivery at a place. -/
def callsOf (j : Journal σ η) (place : Nat) : List (Call η) :=
  j.calls.filter fun c => c.place = place

/-- The calls that ended in a way. -/
def endedAs (j : Journal σ η) (ending : Ending) : List (Call η) :=
  j.calls.filter fun c => c.ending = ending

/-- The delivery at a place, with the attempts that it has had. -/
def delivery? (j : Journal σ η) (place : Nat) : Option (Delivery η) :=
  j.queued[place]?.map fun d => ⟨d.1, d.2, (j.callsOf place).length⟩

/-- The dead letter that a failed call would leave. -/
def letter? (j : Journal σ η) (c : Call η) : Option (DeadLetter η) :=
  match c.outcome with
  | .ok () => none
  | .error f => j.queued[c.place]?.map fun d => ⟨d.1, d.2, f.describe⟩

end Journal

/-! ## One delivery -/

section Deliver

variable [HasBus σ η]

/-- The bus after a delivery was settled. -/
theorem settle_eq (d : Delivery η) (outcome : Except Failure Unit) (b : Bus η) :
    settle d outcome b = (Ending.ofAttempt b.attemptLimit d.attempts outcome, { b with
      queue := b.queue ++
        if Ending.ofAttempt b.attemptLimit d.attempts outcome = .retried then [d] else []
      deadLetters := b.deadLetters ++
        match outcome, Ending.ofAttempt b.attemptLimit d.attempts outcome with
        | .error f, .deadLettered => [⟨d.event, d.handler, f.describe⟩]
        | _, _ => [] }) := by
  cases outcome with
  | ok => simp [settle, Ending.ofAttempt]
  | error f =>
    unfold settle Ending.ofAttempt
    dsimp only
    split <;> simp

variable [LawfulBus σ] {handle : Handle σ η}

/-- The first waiting delivery is handed over; its handler publishes some events; it waits again,
at the end, or leaves a dead letter, or is done. -/
theorem deliver_of_queue (hhandle : handle.OnlyPublishes) {s : σ} {d : Delivery η}
    {rest : List (Delivery η)} (hqueue : (HasBus.bus s).queue = d :: rest) :
    let b := HasBus.bus s
    let answered := handle d.handler (d.event.delivered (d.attempts + 1))
      (Bus.modify (fun b => { b with queue := rest }) s)
    let ending := Ending.ofAttempt b.attemptLimit (d.attempts + 1) answered.1
    ∃ s' events refusals, deliver handle s = some (ending, s') ∧
      HasBus.bus s' = { b with
        published := b.published ++ events
        refusals := refusals
        queue := rest ++ (events.flatMap b.deliveriesOf).map Delivery.first ++
          if ending = .retried then [d.next] else []
        deadLetters := b.deadLetters ++
          match answered.1, ending with
          | .error f, .deadLettered => [⟨d.event, d.handler, f.describe⟩]
          | _, _ => [] } := by
  dsimp only
  generalize hanswered : handle d.handler (d.event.delivered (d.attempts + 1))
    (Bus.modify (fun b => { b with queue := rest }) s) = answered
  obtain ⟨outcome, s₁⟩ := answered
  have hpublishes := hhandle d.handler (d.event.delivered (d.attempts + 1))
    (Bus.modify (fun b => { b with queue := rest }) s)
  rw [hanswered] at hpublishes
  obtain ⟨events, refusals, hbus⟩ := hpublishes.eq_accepting
  unfold Bus.modify at hbus
  rw [LawfulBus.bus_setBus] at hbus
  have hdeliver : deliver handle s =
      some ((settle d.next outcome (HasBus.bus s₁)).1,
        HasBus.setBus (settle d.next outcome (HasBus.bus s₁)).2 s₁) := by
    unfold deliver
    rw [hqueue]
    dsimp only
    rw [hanswered]
    rfl
  rw [settle_eq, hbus] at hdeliver
  exact ⟨_, events, refusals, hdeliver, by rw [LawfulBus.bus_setBus]; rfl⟩

/-- What one delivery makes of a journal. -/
structure Journal.Delivers (j j' : Journal σ η) (d : Delivery η) (rest : List (Delivery η))
    (place : Nat) (places : List Nat) (new : List (Event × η)) (c : Call η) : Prop where
  queue : j.bus.queue = d :: rest
  waiting : j.waiting = place :: places
  call : c = ⟨place, d.handler, d.event.delivered (d.attempts + 1), c.outcome,
    .ofAttempt j.bus.attemptLimit (d.attempts + 1) c.outcome⟩
  accepted_eq : ∃ accepted, new = madeBy accepted ∧ j'.accepted = j.accepted ++ accepted ∧
    j'.bus.published = j.bus.published ++ accepted.map (·.1)
  waiting_eq : j'.waiting = places ++ List.range' j.queued.length new.length ++
    if c.ending = .retried then [place] else []
  calls_eq : j'.calls = j.calls ++ [c]
  report_eq : j'.report = j.report.add c.ending
  limit_eq : j'.bus.attemptLimit = j.bus.attemptLimit
  queue_eq : j'.bus.queue = rest ++ new.map Delivery.first ++
    if c.ending = .retried then [d.next] else []
  letters_eq : j'.bus.deadLetters = j.bus.deadLetters ++
    match c.outcome, c.ending with
    | .error f, .deadLettered => [⟨d.event, d.handler, f.describe⟩]
    | _, _ => []

/-- Where something waits it is delivered, as the bus does it. -/
theorem Journal.delivers (hhandle : handle.OnlyPublishes) {j : Journal σ η} {d : Delivery η}
    {rest : List (Delivery η)} {place : Nat} {places : List Nat} (hqueue : j.bus.queue = d :: rest)
    (hwaiting : j.waiting = place :: places) :
    ∃ new c, Bus.deliver handle j.state = some (c.ending, (j.deliver handle).state) ∧
      j.Delivers (j.deliver handle) d rest place places new c := by
  obtain ⟨s', events, refusals, hdeliver, hbus⟩ := deliver_of_queue hhandle hqueue
  have hpublished : (HasBus.bus s').published = j.bus.published ++ events :=
    congrArg (fun b => b.published) hbus
  have hmade := j.bus.madeBy_map events
  unfold Journal.deliver
  rw [hqueue, hwaiting, hdeliver]
  dsimp only
  rw [newSince_of_published hpublished]
  refine ⟨madeBy (events.map fun e => (e, j.bus.handlersOf e.topic)), _, rfl, hqueue, hwaiting, rfl,
    ⟨_, rfl, rfl, ?_⟩, rfl, rfl, rfl, ?_, ?_, ?_⟩
  · rw [List.map_map, Function.comp_def, List.map_id']
    exact hpublished
  · exact congrArg (fun b => b.attemptLimit) hbus
  · rw [hmade]
    exact congrArg (fun b => b.queue) hbus
  · exact congrArg (fun b => b.deadLetters) hbus

end Deliver

end BookingNotices.Bus
