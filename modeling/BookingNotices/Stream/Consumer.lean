import BookingNotices.Network
import BookingNotices.Stream.Server

/-!
# Consumers of streams

* `Stream.Settings`  : how a consumer works;
* `Stream.Site`      : the server, the clock, and what handlers act on;
* `Site.publish`     : adds an event to the stream of its topic;
* `Job`, `Task`      : what a consumer has to do, one command or one handler at a time;
* `Member`           : a consumer with its handlers and its tasks; `Member.step` is its next step;
* `Member.reading`, `Member.reclaiming` : a consumer that reads new entries, or takes up entries
  that others left pending;
* `connect`          : a consumer is only made when there is a connection.

An entry is acknowledged when all handlers of its topic have succeeded, or when a copy of it was
added to the dead letters: because it holds no event, or because it was handed over too often. The
first failure of a command ends the task that gave it and no other.
-/

namespace BookingNotices.Stream

/-- How a consumer works. -/
structure Settings where
  group : String := "notification_service"
  consumer : String := "notification_service-1"
  /-- how many entries are asked for at once -/
  batch : Nat := 16
  /-- how long a read waits for entries, in milliseconds -/
  blockMillis : Nat := 2000
  /-- how long an entry is left to its consumer, in milliseconds -/
  reclaimMillis : Nat := 60000
  /-- how often an entry is handed over at most -/
  deliveryLimit : Nat := 5
  deriving DecidableEq, Repr

/-- What consumers work with; handlers act on a state besides. -/
structure Site (σ : Type) where
  server : Server := {}
  clock : Supply Timestamp
  outside : σ

namespace Site

variable {σ : Type}

/-- Reads the clock. -/
def now (s : Site σ) : Timestamp × Site σ :=
  let (t, clock) := s.clock.next
  (t, { s with clock := clock })

/-- Gives a command; a refusal fails with the words that say what for. -/
def exchange {α : Type} (s : Site σ) (purpose : String) (c : Command)
    (act : Server → Except Refusal α × Server) : Except Failure α × Site σ :=
  let (reply, server) := s.server.exchange c act
  (reply.mapError fun r => ⟨.channelError, purpose ++ ": " ++ r.message, []⟩,
    { s with server := server })

/-- Adds an event to the stream of its topic. -/
def publish (e : Event) (s : Site σ) : Except Failure Unit × Site σ :=
  let (reply, s) := s.exchange "Failed to publish event" .add
    (Server.add e.topic (.ofTexts e.streamFields))
  (reply.map fun _ => (), s)

end Site

/-- The topic of the dead letters of a topic. -/
def deadLettersOf (topic : String) : String := topic ++ ".dead_letter"

/-- The copy of an entry for the dead letters: its texts, its identity, and how often it was handed
over. -/
def deadLetter (e : Entry) (deliveries : Nat) : Fields :=
  let texts := (Table.ofList e.fields).filterMap fun (name, v) => v.text?.map (name, ·)
  .ofTexts (texts ++
    [("source_entry_id", idOf e.number), ("deliveries", toString deliveries)])

/-- One thing to do. -/
inductive Job (η : Type) where
  | createGroup (topic : String)
  | readNew
  | listPending (topic : String)
  | reclaim (topic : String) (p : Pending.Report)
  | deliver (topic : String) (e : Entry) (count : Nat)
  /-- calls the handlers that are left; `handled` says whether all before them succeeded -/
  | handle (topic : String) (entry : Nat) (event : Event) (left : List η) (handled : Bool)
  | acknowledge (topic : String) (entry : Nat)
  /-- reads an entry to copy it to the dead letters -/
  | bury (topic : String) (entry count : Nat)
  | copy (topic : String) (e : Entry) (count : Nat)
  | acknowledgeBuried (topic : String) (entry : Nat)
  /-- counts an entry as handled -/
  | count

/-- Things to do one after another, up to the first failure. -/
structure Task (η : Type) where
  /-- the entry or the topic that it is about -/
  subject : String
  jobs : List (Job η)
  handled : Nat := 0

/-- How a task ended: how many entries it handled, or its failure. -/
structure Task.Outcome where
  subject : String
  result : Except Failure Nat

/-- A consumer with its handlers and tasks. -/
structure Member (η : Type) where
  settings : Settings := {}
  subscriptions : List (String × η) := []
  tasks : List (Task η) := []
  outcomes : List Task.Outcome := []

/-- What a handler does with an event. -/
abbrev Handle (σ η : Type) := η → Event → Site σ → Except Failure Unit × Site σ

/-- What follows a job: in the same task, and in tasks of its own. -/
structure Job.Next (η : Type) where
  jobs : List (Job η) := []
  tasks : List (Task η) := []
  /-- how many entries are counted as handled -/
  handled : Nat := 0

namespace Member

variable {σ η : Type}

/-- The topics of a consumer in increasing order. -/
def topics (m : Member η) : List String :=
  (Table.ofList (m.subscriptions.map fun (topic, _) => (topic, ()))).keys

/-- The handlers of a topic, in the order in which they subscribed. -/
def handlersOf (m : Member η) (topic : String) : List η :=
  (m.subscriptions.filter fun (t, _) => t = topic).map (·.2)

/-- Adds a handler to topics. -/
def subscribe (m : Member η) (topics : List String) (handler : η) : Member η :=
  { m with subscriptions := m.subscriptions ++ topics.map (·, handler) }

/-- The task of an entry that was just read. -/
def deliveryTask (topic : String) (e : Entry) : Task η := ⟨idOf e.number, [.deliver topic e 1], 0⟩

/-- Does one thing. -/
def perform (m : Member η) (handle : Handle σ η) (s : Site σ) :
    Job η → Except Failure (Job.Next η) × Site σ
  | .createGroup topic =>
    let (reply, server) := s.server.exchange .createGroup
      (Server.createGroup topic m.settings.group)
    let s := { s with server := server }
    match reply with
    | .ok () | .error .busyGroup => (.ok {}, s)
    | .error r =>
      (.error ⟨.channelError, "Failed to create consumer group: " ++ r.message, []⟩, s)
  | .readNew =>
    let (reply, s) := s.exchange "Failed to read from streams" .readNew
      (Server.readNew m.topics m.settings.group m.settings.consumer m.settings.batch)
    (reply.map fun read =>
      { tasks := read.flatMap fun (topic, entries) => entries.map (deliveryTask topic) }, s)
  | .listPending topic =>
    let (reply, s) := s.exchange "Failed to list pending entries" .listPending
      (Server.listPending topic m.settings.group m.settings.batch)
    (reply.map fun reports => { jobs := reports.map (.reclaim topic) }, s)
  | .reclaim topic p =>
    if p.idle < m.settings.reclaimMillis then (.ok {}, s)
    else if m.settings.deliveryLimit ≤ p.deliveries then
      (.ok { jobs := [.bury topic p.entry p.deliveries, .count] }, s)
    else
      let (reply, s) := s.exchange "Failed to claim pending entry" .claim
        (Server.claim topic m.settings.group m.settings.consumer m.settings.reclaimMillis p.entry)
      (reply.map fun
        | none => {}
        | some e => { jobs := [.deliver topic e (p.deliveries + 1), .count] }, s)
  | .deliver topic e count =>
    let (now, s) := s.now
    match Event.ofFields topic (idOf e.number) e.fields now with
    | .error _ => (.ok { jobs := [.bury topic e.number count] }, s)
    | .ok event =>
      let job := .handle topic e.number (event.delivered count) (m.handlersOf topic) true
      (.ok { jobs := [job] }, s)
  | .handle topic entry event left handled =>
    match left with
    | [] => (.ok { jobs := if handled then [.acknowledge topic entry] else [] }, s)
    | h :: left =>
      let (outcome, s) := handle h event s
      (.ok { jobs := [.handle topic entry event left (handled && outcome.toBool)] }, s)
  | .acknowledge topic entry =>
    let (reply, s) := s.exchange "Failed to acknowledge entry" .acknowledge
      (Server.acknowledge topic m.settings.group entry)
    (reply.map fun () => {}, s)
  | .bury topic entry count =>
    let (reply, s) := s.exchange "Failed to read entry for dead-lettering" .range
      (Server.range topic entry)
    (reply.map fun
      | none => { jobs := [.acknowledgeBuried topic entry] }
      | some e => { jobs := [.copy topic e count, .acknowledgeBuried topic entry] }, s)
  | .copy topic e count =>
    let (reply, s) := s.exchange "Failed to write dead letter" .add
      (Server.add (deadLettersOf topic) (deadLetter e count))
    (reply.map fun _ => {}, s)
  | .acknowledgeBuried topic entry =>
    let (reply, s) := s.exchange "Failed to acknowledge dead-lettered entry" .acknowledge
      (Server.acknowledge topic m.settings.group entry)
    (reply.map fun () => {}, s)
  | .count => (.ok { handled := 1 }, s)

/-- Does the first thing that is to be done. A task ends with its last job or with its first
failure. -/
def step (m : Member η) (handle : Handle σ η) (s : Site σ) : Member η × Site σ :=
  match m.tasks with
  | [] => (m, s)
  | ⟨subject, [], handled⟩ :: tasks =>
    ({ m with tasks := tasks, outcomes := m.outcomes ++ [⟨subject, .ok handled⟩] }, s)
  | ⟨subject, job :: jobs, handled⟩ :: tasks =>
    match m.perform handle s job with
    | (.error f, s) =>
      ({ m with tasks := tasks, outcomes := m.outcomes ++ [⟨subject, .error f⟩] }, s)
    | (.ok next, s) =>
      ({ m with
        tasks := ⟨subject, next.jobs ++ jobs, handled + next.handled⟩ :: next.tasks ++ tasks }, s)

/-- A consumer that is to read new entries of all its topics. Without topics it has nothing to do.
-/
def reading (m : Member η) : Member η :=
  if m.topics.isEmpty then m
  else { m with
    tasks := m.tasks ++ [⟨"read", m.topics.map .createGroup ++ [.readNew], 0⟩] }

/-- A consumer that is to take up entries of a topic that were left pending. -/
def reclaiming (m : Member η) (topic : String) : Member η :=
  { m with tasks := m.tasks ++ [⟨topic, [.listPending topic], 0⟩] }

end Member

/-- A consumer with these settings, if there is a connection to the server. -/
def connect {η : Type} (settings : Settings) (c : Connection) : Except Failure (Member η) :=
  match c.problem? with
  | none => .ok { settings := settings }
  | some p => .error ⟨.channelError, "Failed to connect to Redis: " ++ p, []⟩

end BookingNotices.Stream
