import BookingNotices.Stream.Consumer

/-!
# Consumers side by side

* `Stream.Deed`          : what others can see of a consumer at work (`Job.deed?`);
* `Member.polling`       : a consumer that reads again over the connection that it has;
* `Fleet`                : consumers with one server, and all that was seen of them;
* `Fleet.Move`, `Fleet.step`, `Fleet.run` : a consumer begins to read or to take up pending entries,
  does its next thing, or breaks off what it does; somebody else adds an entry; time passes. Any
  number of these happen in any order;
* `Unread`, `IsPending`  : where an entry stands with a group;
* `Delivered`, `Buried`  : why an entry may be acknowledged (`Justified`).

A consumer that breaks off stands for one that was cancelled, or lost; one that gets no other step
is lost as well. A command that is done when its consumer has given it up already is that of another
consumer, which does nothing else.
-/

namespace BookingNotices.Stream

variable {σ η : Type}

/-! ## Deeds -/

/-- What others can see of a consumer at work. -/
inductive Deed (η : Type) where
  /-- a delivery begins: these handlers are to be called with an entry -/
  | began (member : Nat) (topic : String) (entry : Nat) (handlers : List η)
  | called (member : Nat) (topic : String) (entry : Nat) (handler : η)
      (outcome : Except Failure Unit)
  /-- a copy of an entry was added to the dead letters, under a number of its own -/
  | copied (member : Nat) (topic : String) (entry number : Nat)
  /-- an entry was acknowledged, whether or not the reply arrived -/
  | acknowledged (member : Nat) (topic : String) (entry : Nat)

/-- The consumer whose deed it is. -/
def Deed.member : Deed η → Nat
  | .began i _ _ _ => i
  | .called i _ _ _ _ => i
  | .copied i _ _ _ => i
  | .acknowledged i _ _ => i

/-- Whether the next command of a kind is done. -/
def Server.heeds (s : Server) (c : Command) : Bool := (s.fates c).next.1 ≠ .refused

/-- What others can see of one thing that a consumer does, if anything. -/
def Job.deed? (i : Nat) (m : Member η) (handle : Handle σ η) (s : Site σ) : Job η → Option (Deed η)
  | .deliver topic e _ =>
    match Event.ofFields topic (idOf e.number) e.fields s.now.1 with
    | .error _ => none
    | .ok _ => some (.began i topic e.number (m.handlersOf topic))
  | .handle topic entry event (h :: _) _ => some (.called i topic entry h (handle h event s).1)
  | .copy topic e _ =>
    if s.server.heeds .add then
      some (.copied i topic e.number ((s.server.log (deadLettersOf topic)).added + 1))
    else none
  | .acknowledge topic entry | .acknowledgeBuried topic entry =>
    if s.server.heeds .acknowledge then some (.acknowledged i topic entry) else none
  | _ => none

namespace Member

/-- What others can see of a consumer's next step, if anything. -/
def deed? (i : Nat) (m : Member η) (handle : Handle σ η) (s : Site σ) : Option (Deed η) :=
  match m.tasks with
  | ⟨_, job :: _, _⟩ :: _ => job.deed? i m handle s
  | _ => none

/-- A consumer that is to read new entries over the connection that it has. -/
def polling (m : Member η) : Member η :=
  if m.topics.isEmpty then m else { m with tasks := m.tasks ++ [⟨"read", [.readNew], 0⟩] }

/-- A consumer that is to take up entries of a topic, if it is one of its own. -/
def tending (m : Member η) (topic : String) : Member η :=
  if topic ∈ m.topics then m.reclaiming topic else m

/-- A consumer that breaks off its first task. -/
def breaking (m : Member η) : Member η := { m with tasks := m.tasks.tail }

end Member

/-! ## Fleets -/

/-- Consumers with one server, and all that was seen of them. -/
structure Fleet (σ η : Type) where
  site : Site σ
  members : List (Member η)
  history : List (Deed η) := []

/-- What can happen next. -/
inductive Fleet.Move where
  | read (member : Nat)
  | poll (member : Nat)
  | reclaim (member : Nat) (topic : String)
  | advance (member : Nat)
  | breakOff (member : Nat)
  | add (topic : String) (fields : Fields)
  /-- so many milliseconds pass -/
  | wait (millis : Nat)

namespace Fleet

/-- What happens next. Nothing if there is no such member. -/
def step (handle : Handle σ η) (f : Fleet σ η) : Move → Fleet σ η
  | .read i => { f with members := f.members.modify i Member.reading }
  | .poll i => { f with members := f.members.modify i Member.polling }
  | .reclaim i topic => { f with members := f.members.modify i (Member.tending · topic) }
  | .breakOff i => { f with members := f.members.modify i Member.breaking }
  | .advance i =>
    match f.members[i]? with
    | none => f
    | some m =>
      let (m', site) := m.step handle f.site
      ⟨site, f.members.set i m', f.history ++ (m.deed? i handle f.site).toList⟩
  | .add topic fields =>
    { f with site := { f.site with server := (f.site.server.add topic fields).2 } }
  | .wait millis => { f with site := { f.site with server := f.site.server.idle millis } }

/-- All that happens, one after the other. -/
def run (handle : Handle σ η) (f : Fleet σ η) (moves : List Move) : Fleet σ η :=
  moves.foldl (step handle) f

/-- The handlers that a consumer has for a topic. -/
def handlersOf (f : Fleet σ η) (i : Nat) (topic : String) : List η :=
  f.members[i]?.elim [] (Member.handlersOf · topic)

end Fleet

/-! ## Where an entry stands -/

/-- The group has not handed the entry over; so it is if there is no group yet. -/
def Unread (s : Server) (group topic : String) (entry : Nat) : Prop :=
  ∀ g, s.group? topic group = some g → g.last < entry

/-- Since a delivery of the entry began, its consumer has done nothing but call handlers of the
topic with it, one after the other; all of them have succeeded. -/
def Delivered (history : List (Deed η)) (i : Nat) (topic : String) (entry : Nat)
    (handlers called : List η) : Prop :=
  ∃ before since, history = before ++ .began i topic entry handlers :: since ∧
    since.filter (fun d => d.member = i) = called.map fun h => .called i topic entry h (.ok ())

/-- A copy of the entry was added to the dead letters of the topic, and is there. It names the entry
that it was made of. -/
def Buried (history : List (Deed η)) (s : Server) (topic : String) (e : Entry) : Prop :=
  ∃ i number deliveries, .copied i topic e.number number ∈ history ∧
    ⟨number, deadLetter e deliveries⟩ ∈ (s.log (deadLettersOf topic)).entries ∧
    (deadLetter e deliveries).text? "source_entry_id" = some (idOf e.number)

/-- A consumer with these handlers may acknowledge the entry: it has just called all of them, of
which there are some, or the entry was copied. -/
def Justified (history : List (Deed η)) (s : Server) (i : Nat) (topic : String)
    (handlers : List η) (e : Entry) : Prop :=
  (handlers ≠ [] ∧ Delivered history i topic e.number handlers handlers) ∨ Buried history s topic e

end BookingNotices.Stream
