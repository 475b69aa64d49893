import BookingNotices.Blob.Disk
import BookingNotices.Json.Shape
import BookingNotices.Service.Loop
import BookingNotices.Settings.Problem
import BookingNotices.Text.Blank

/-!
# The sections of the settings

Each section has the values that apply where nothing is said, the shape in which it is written, and
a `check` of what is said:

* `Settings.Service`  : the service itself;
* `Settings.Database` : the pool of connections to the database;
* `Settings.Channel`  : the consumer of streams;
* `Settings.Mailing`  : the relay for mail, and the sender;
* `Settings.Storage`  : where blobs are kept;
* `Settings.Records`  : the services that know users, bookings and showtimes;
* `Settings.Sweeping` : how often notices are looked for that were left behind.

`toPool`, `toStream` and `toSweeper` say how the parts of the service work under a section.
-/

namespace BookingNotices.Settings

open Json Text

/-! ## The service -/

/-- What a service is run for. -/
inductive Environment where
  | development
  | staging
  | production
  deriving DecidableEq, Repr

namespace Environment

def all : List Environment := [.development, .staging, .production]

def name : Environment → String
  | .development => "development"
  | .staging => "staging"
  | .production => "production"

abbrev shape : Shape := .choice "Environment" (all.map name)

/-- The environment of a name of the choice. -/
def ofName (s : String) : Environment := (all.find? fun e => e.name == s).getD .development

end Environment

structure Service where
  name : String := "notification-service"
  environment : Environment := .development
  logLevel : String := "info,notification_service=debug"
  jsonLogs : Bool := false
  deriving DecidableEq, Repr

namespace Service

abbrev shape : Shape := .record "ServiceConfig" <|
  .cons "name" .defaulted .string <|
  .cons "environment" .defaulted Environment.shape <|
  .cons "log_level" .defaulted .string <|
  .cons "json_logs" .defaulted .boolean .nil

def ofValue (v : shape.Value) : Service :=
  let usual : Service := {}
  match v with
  | (name, environment, logLevel, jsonLogs, ()) => {
    name := name.getD usual.name
    environment := (environment.map Environment.ofName).getD usual.environment
    logLevel := logLevel.getD usual.logLevel
    jsonLogs := jsonLogs.getD usual.jsonLogs }

def check (s : Service) : Except Problem Unit :=
  Settings.check [(allBlank s.logLevel, .missing "SERVICE__LOG_LEVEL")]

def isProduction (s : Service) : Bool := s.environment = .production

end Service

/-! ## The database -/

/-- How a pool of connections is kept. -/
structure Pool where
  least : Nat
  most : Nat
  acquireMillis : Nat
  idleMillis : Nat
  deriving DecidableEq, Repr

structure Database where
  url : String := ""
  leastConnections : Nat := 1
  mostConnections : Nat := 10
  acquireSeconds : Nat := 10
  idleSeconds : Nat := 600
  runsMigrations : Bool := true
  deriving DecidableEq, Repr

namespace Database

abbrev shape : Shape := .record "DatabaseConfig" <|
  .cons "url" .required .string <|
  .cons "min_connections" .defaulted .u32 <|
  .cons "max_connections" .defaulted .u32 <|
  .cons "acquire_timeout_secs" .defaulted .u64 <|
  .cons "idle_timeout_secs" .defaulted .u64 <|
  .cons "run_migrations" .defaulted .boolean .nil

def ofValue (v : shape.Value) : Database :=
  let usual : Database := {}
  match v with
  | (url, least, most, acquire, idle, migrations, ()) => {
    url := url
    leastConnections := (least.map Int.toNat).getD usual.leastConnections
    mostConnections := (most.map Int.toNat).getD usual.mostConnections
    acquireSeconds := (acquire.map Int.toNat).getD usual.acquireSeconds
    idleSeconds := (idle.map Int.toNat).getD usual.idleSeconds
    runsMigrations := migrations.getD usual.runsMigrations }

def check (d : Database) : Except Problem Unit :=
  Settings.check [
    (d.url.isEmpty, .missing "DATABASE__URL"),
    (!hasScheme ["postgres://", "postgresql://"] d.url, .databaseUrl),
    (d.mostConnections < d.leastConnections, .poolBounds),
    (100 < d.mostConnections, .poolTooLarge),
    (d.acquireSeconds = 0, .timeout "database acquire")]

/-- How long a connection is waited for. -/
def acquireMillis (d : Database) : Nat := d.acquireSeconds * 1000

/-- How the pool of connections is kept. -/
def toPool (d : Database) : Pool where
  least := d.leastConnections
  most := d.mostConnections
  acquireMillis := d.acquireMillis
  idleMillis := d.idleSeconds * 1000

end Database

/-! ## The streams -/

structure Channel where
  url : String := ""
  group : String := "notification_service"
  /-- the process names itself where this is not said -/
  consumer : Option String := none
  batch : Nat := 16
  blockMillis : Nat := 2000
  reclaimSeconds : Nat := 60
  deliveryLimit : Nat := 5
  deriving DecidableEq, Repr

namespace Channel

abbrev shape : Shape := .record "RedisConfig" <|
  .cons "url" .required .string <|
  .cons "group" .defaulted .string <|
  .cons "consumer" .defaulted .string <|
  .cons "batch_size" .defaulted .usize <|
  .cons "block_ms" .defaulted .u64 <|
  .cons "reclaim_idle_secs" .defaulted .u64 <|
  .cons "max_deliveries" .defaulted .usize .nil

def ofValue (v : shape.Value) : Channel :=
  let usual : Channel := {}
  match v with
  | (url, group, consumer, batch, block, reclaim, limit, ()) => {
    url := url
    group := group.getD usual.group
    consumer := consumer
    batch := (batch.map Int.toNat).getD usual.batch
    blockMillis := (block.map Int.toNat).getD usual.blockMillis
    reclaimSeconds := (reclaim.map Int.toNat).getD usual.reclaimSeconds
    deliveryLimit := (limit.map Int.toNat).getD usual.deliveryLimit }

def check (c : Channel) : Except Problem Unit :=
  Settings.check [
    (c.url.isEmpty, .missing "REDIS__URL"),
    (!hasScheme ["redis://", "rediss://"] c.url, .streamUrl),
    (allBlank c.group, .missing "REDIS__GROUP"),
    (c.consumer.any allBlank, .missing "REDIS__CONSUMER"),
    (c.batch = 0 || 1000 < c.batch, .batch),
    (c.blockMillis = 0, .timeout "stream block"),
    (c.deliveryLimit = 0, .deliveryLimit)]

/-- How a process with a number names itself. -/
def consumerOf (process : Nat) : String := "notification-service-" ++ toString process

/-- How the consumer of a process works. -/
def toStream (c : Channel) (process : Nat) : Stream.Settings where
  group := c.group
  consumer := c.consumer.getD (consumerOf process)
  batch := c.batch
  blockMillis := c.blockMillis
  reclaimMillis := c.reclaimSeconds * 1000
  deliveryLimit := c.deliveryLimit

end Channel

/-! ## The mail -/

structure Mailing where
  host : String := ""
  port : Nat := 587
  username : String := ""
  password : String := ""
  senderAddress : String := "noreply@cinema.local"
  senderName : String := "Cinema Tickets"
  timeoutSeconds : Nat := 30
  deriving DecidableEq, Repr

namespace Mailing

abbrev shape : Shape := .record "EmailConfig" <|
  .cons "smtp_host" .required .string <|
  .cons "smtp_port" .defaulted .u16 <|
  .cons "smtp_username" .defaulted .string <|
  .cons "smtp_password" .defaulted .string <|
  .cons "from_email" .defaulted .string <|
  .cons "from_name" .defaulted .string <|
  .cons "timeout_secs" .defaulted .u64 .nil

def ofValue (v : shape.Value) : Mailing :=
  let usual : Mailing := {}
  match v with
  | (host, port, username, password, address, name, timeout, ()) => {
    host := host
    port := (port.map Int.toNat).getD usual.port
    username := username.getD usual.username
    password := password.getD usual.password
    senderAddress := address.getD usual.senderAddress
    senderName := name.getD usual.senderName
    timeoutSeconds := (timeout.map Int.toNat).getD usual.timeoutSeconds }

def check (m : Mailing) : Except Problem Unit :=
  Settings.check [
    (allBlank m.host, .missing "EMAIL__SMTP_HOST"),
    (m.port = 0, .port),
    (!m.username.isEmpty && m.password.isEmpty, .missing "EMAIL__SMTP_PASSWORD"),
    (!m.senderAddress.toList.contains '@', .sender),
    (m.timeoutSeconds = 0 || 300 < m.timeoutSeconds, .timeout "smtp")]

/-- The sender as mail names it. -/
def sender (m : Mailing) : String := m.senderName ++ " <" ++ m.senderAddress ++ ">"

end Mailing

/-! ## The blobs -/

structure Storage where
  container : String := "./data/invoices"
  sizeLimit : Nat := Disk.defaultSizeLimit
  deriving DecidableEq, Repr

namespace Storage

abbrev shape : Shape := .record "StorageConfig" <|
  .cons "container" .defaulted (.text "path string") <|
  .cons "max_bytes" .defaulted .usize .nil

def ofValue (v : shape.Value) : Storage :=
  let usual : Storage := {}
  match v with
  | (container, limit, ()) => {
    container := container.getD usual.container
    sizeLimit := (limit.map Int.toNat).getD usual.sizeLimit }

def check (s : Storage) : Except Problem Unit :=
  Settings.check [
    (s.container.isEmpty, .missing "STORAGE__CONTAINER"),
    (s.sizeLimit = 0, .blobLimit)]

end Storage

/-! ## The records of other services -/

structure Records where
  users : String
  bookings : String
  showtimes : String
  timeoutSeconds : Nat := 10
  deriving DecidableEq, Repr

namespace Records

abbrev shape : Shape := .record "UpstreamConfig" <|
  .cons "user_service_url" .required .string <|
  .cons "booking_service_url" .required .string <|
  .cons "movie_service_url" .required .string <|
  .cons "timeout_secs" .defaulted .u64 .nil

def ofValue (v : shape.Value) : Records :=
  match v with
  | (users, bookings, showtimes, timeout, ()) =>
    { users := users, bookings := bookings, showtimes := showtimes,
      timeoutSeconds := (timeout.map Int.toNat).getD 10 }

def check (r : Records) : Except Problem Unit :=
  let schemes := ["http://", "https://"]
  Settings.check [
    (!hasScheme schemes r.users, .recordsUrl "user service"),
    (!hasScheme schemes r.bookings, .recordsUrl "booking service"),
    (!hasScheme schemes r.showtimes, .recordsUrl "movie service"),
    (r.timeoutSeconds = 0 || 120 < r.timeoutSeconds, .timeout "upstream")]

/-- How long an answer is waited for. -/
def timeoutMillis (r : Records) : Nat := r.timeoutSeconds * 1000

end Records

/-! ## The sweeps -/

structure Sweeping where
  intervalSeconds : Nat := Sweep.defaultIntervalSeconds
  thresholdSeconds : Nat := Sweep.defaultThresholdSeconds
  deriving DecidableEq, Repr

namespace Sweeping

abbrev shape : Shape := .record "WorkerConfig" <|
  .cons "sweep_interval_secs" .defaulted .u64 <|
  .cons "stale_after_secs" .defaulted .u64 .nil

def ofValue (v : shape.Value) : Sweeping :=
  let usual : Sweeping := {}
  match v with
  | (interval, threshold, ()) => {
    intervalSeconds := (interval.map Int.toNat).getD usual.intervalSeconds
    thresholdSeconds := (threshold.map Int.toNat).getD usual.thresholdSeconds }

def check (s : Sweeping) : Except Problem Unit :=
  Settings.check [
    (s.intervalSeconds = 0, .timeout "sweep interval"),
    (s.thresholdSeconds ≤ s.intervalSeconds, .sweepInterval)]

/-- How the sweeper works. -/
def toSweeper (s : Sweeping) : Sweeper.Settings where
  interval := s.intervalSeconds * Timestamp.nanosPerSecond
  threshold := s.thresholdSeconds * Timestamp.nanosPerSecond

end Sweeping

end BookingNotices.Settings
