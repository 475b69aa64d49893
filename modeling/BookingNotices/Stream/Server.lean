import BookingNotices.Stream.Fields
import BookingNotices.Supply
import BookingNotices.Table

/-!
# A server of streams

* `Stream.Entry`, `Stream.Pending`, `Stream.Group`, `Stream.Log` : what a server keeps for a topic;
* `Stream.Server`          : the logs of all topics, a clock, and what becomes of the next commands;
* `Server.createGroup`, `add`, `readNew`, `listPending`, `claim`, `range`, `acknowledge` : its
  commands;
* `Server.remove`, `Server.idle` : what happens to a log besides, and time that passes;
* `Server.exchange`        : a command over a connection that may fail.

A group hands every entry to one of its consumers, for which it stays pending until it is
acknowledged. A pending entry may be claimed by a consumer once it has been idle long enough.
-/

namespace BookingNotices.Stream

/-- An entry of a log. Its number counts the entries ever added. -/
structure Entry where
  number : Nat
  fields : Fields
  deriving DecidableEq

/-- The identity of the entry with a number. -/
def idOf (number : Nat) : String := toString number ++ "-0"

/-- An entry that was handed to a consumer and is not acknowledged. -/
structure Pending where
  consumer : String
  /-- how often it was handed over -/
  deliveries : Nat
  /-- when it was handed over last, in milliseconds -/
  since : Nat
  deriving DecidableEq, Repr

/-- What the server tells about a pending entry. -/
structure Pending.Report where
  entry : Nat
  consumer : String
  deliveries : Nat
  /-- for how many milliseconds it has been left alone -/
  idle : Nat
  deriving DecidableEq, Repr

/-- A group of consumers that share a log. -/
structure Group where
  /-- the last entry that was handed over -/
  last : Nat := 0
  /-- by the number of the entry -/
  pending : Table Nat Pending := []
  deriving DecidableEq, Repr

/-- What the server keeps for a topic. -/
structure Log where
  entries : List Entry := []
  /-- how many entries were ever added -/
  added : Nat := 0
  groups : Table String Group := []
  deriving DecidableEq

/-- The commands that a consumer or a publisher gives. -/
inductive Command where
  | createGroup
  | add
  | readNew
  | listPending
  | claim
  | range
  | acknowledge
  deriving DecidableEq, Repr

/-- All commands. -/
def Command.all : List Command :=
  [.createGroup, .add, .readNew, .listPending, .claim, .range, .acknowledge]

def Command.name : Command → String
  | .createGroup => "XGROUP"
  | .add => "XADD"
  | .readNew => "XREADGROUP"
  | .listPending => "XPENDING"
  | .claim => "XCLAIM"
  | .range => "XRANGE"
  | .acknowledge => "XACK"

/-- The command of a name. -/
def Command.ofName? (s : String) : Option Command := all.find? fun c => c.name == s

/-- Why a server does not do what a command says. -/
inductive Refusal where
  | busyGroup
  | noGroup
  /-- the command failed for another reason, or nobody knows what became of it -/
  | broken
  deriving DecidableEq, Repr

def Refusal.message : Refusal → String
  | .busyGroup => "BUSYGROUP: Consumer Group name already exists"
  | .noGroup => "NOGROUP: No such consumer group"
  | .broken => "An error was signalled by the server - ResponseError: injected"

/-- What becomes of a command on its way. -/
inductive Fate where
  /-- it is done, and its reply arrives -/
  | carried
  /-- it is not done -/
  | refused
  /-- it is done, but its reply is lost -/
  | replyLost
  deriving DecidableEq, Repr

/-- The logs of all topics. -/
structure Server where
  logs : Table String Log := []
  /-- in milliseconds -/
  time : Nat := 0
  fates : Command → Supply Fate := fun _ => .constant .carried

namespace Server

/-- The log of a topic; nobody has added to a topic that has none. -/
def log (s : Server) (topic : String) : Log := (s.logs.find? topic).getD {}

/-- Changes the log of a topic. -/
def modify (s : Server) (topic : String) (f : Log → Log) : Server :=
  { s with logs := s.logs.insert topic (f (s.log topic)) }

/-- A group of a topic, if it exists. -/
def group? (s : Server) (topic group : String) : Option Group := (s.log topic).groups.find? group

/-- Replaces a group of a topic. -/
def setGroup (s : Server) (topic group : String) (g : Group) : Server :=
  s.modify topic fun l => { l with groups := l.groups.insert group g }

/-- A new group has all entries of the log before it. -/
def createGroup (topic group : String) (s : Server) : Except Refusal Unit × Server :=
  match s.group? topic group with
  | some _ => (.error .busyGroup, s)
  | none => (.ok (), s.setGroup topic group {})

/-- Adds an entry to a log, and answers its number. -/
def add (topic : String) (fields : Fields) (s : Server) : Except Refusal Nat × Server :=
  let number := (s.log topic).added + 1
  (.ok number, s.modify topic fun l =>
    { l with entries := l.entries ++ [⟨number, fields⟩], added := number })

/-- The entries of a log that a group has not handed over, at most `count`. -/
def unread (s : Server) (topic : String) (g : Group) (count : Nat) : List Entry :=
  ((s.log topic).entries.filter fun e => g.last < e.number).take count

/-- Hands unread entries of one topic to a consumer. -/
def handOver (s : Server) (topic group consumer : String) (count : Nat) : List Entry × Server :=
  match s.group? topic group with
  | none => ([], s)
  | some g =>
    let entries := s.unread topic g count
    (entries, s.setGroup topic group {
      last := entries.foldl (fun n e => max n e.number) g.last
      pending := entries.foldl
        (fun t e => t.insert e.number ⟨consumer, 1, s.time⟩) g.pending })

/-- Hands unread entries of topics to a consumer, at most `count` of each topic, if all topics have
the group. -/
def readNew (topics : List String) (group consumer : String) (count : Nat) (s : Server) :
    Except Refusal (List (String × List Entry)) × Server :=
  if topics.any fun topic => (s.group? topic group).isNone then (.error .noGroup, s)
  else
    let (read, s) := topics.foldl (fun (read, s) topic =>
      let (entries, s) := s.handOver topic group consumer count
      (read ++ [(topic, entries)], s)) ([], s)
    (.ok read, s)

/-- For how many milliseconds a pending entry has been left alone. -/
def idleFor (s : Server) (p : Pending) : Nat := s.time - p.since

/-- The first `count` pending entries of a group. -/
def listPending (topic group : String) (count : Nat) (s : Server) :
    Except Refusal (List Pending.Report) × Server :=
  match s.group? topic group with
  | none => (.error .noGroup, s)
  | some g => (.ok ((g.pending.take count).map fun (entry, p) =>
      ⟨entry, p.consumer, p.deliveries, s.idleFor p⟩), s)

/-- Gives a pending entry to a consumer if it has been idle for `least` milliseconds. An entry that
is no longer in the log stops being pending. -/
def claim (topic group consumer : String) (least entry : Nat) (s : Server) :
    Except Refusal (Option Entry) × Server :=
  match s.group? topic group with
  | none => (.error .noGroup, s)
  | some g =>
    match g.pending.find? entry with
    | none => (.ok none, s)
    | some p =>
      if s.idleFor p < least then (.ok none, s)
      else
        match (s.log topic).entries.find? fun e => e.number = entry with
        | none => (.ok none, s.setGroup topic group { g with pending := g.pending.erase entry })
        | some e => (.ok (some e), s.setGroup topic group { g with
            pending := g.pending.insert entry ⟨consumer, p.deliveries + 1, s.time⟩ })

/-- The entry of a number, if it is in the log. -/
def range (topic : String) (entry : Nat) (s : Server) : Except Refusal (Option Entry) × Server :=
  (.ok ((s.log topic).entries.find? fun e => e.number = entry), s)

/-- A pending entry is done with. -/
def acknowledge (topic group : String) (entry : Nat) (s : Server) : Except Refusal Unit × Server :=
  match s.group? topic group with
  | none => (.ok (), s)
  | some g => (.ok (), s.setGroup topic group { g with pending := g.pending.erase entry })

/-- Takes an entry out of a log; says whether it was there. -/
def remove (s : Server) (topic : String) (entry : Nat) : Bool × Server :=
  if (s.log topic).entries.any fun e => e.number = entry then
    (true, s.modify topic fun l =>
      { l with entries := l.entries.filter fun e => e.number ≠ entry })
  else (false, s)

/-- Milliseconds pass. -/
def idle (s : Server) (millis : Nat) : Server := { s with time := s.time + millis }

/-- The next `count` commands of a kind fail. -/
def failNext (s : Server) (c : Command) (count : Nat) : Server :=
  let fates : Supply Fate := ⟨fun i => if i < count then .refused else .carried, 0⟩
  { s with fates := fun d => if d = c then fates else s.fates d }

/-- Gives a command, of which its fate decides whether it is done and answered. -/
def exchange {α : Type} (c : Command) (act : Server → Except Refusal α × Server) (s : Server) :
    Except Refusal α × Server :=
  let (fate, fates) := (s.fates c).next
  let s := { s with fates := fun d => if d = c then fates else s.fates d }
  match fate with
  | .carried => act s
  | .refused => (.error .broken, s)
  | .replyLost => (.error .broken, (act s).2)

end Server

end BookingNotices.Stream
