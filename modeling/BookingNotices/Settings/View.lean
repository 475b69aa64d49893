import BookingNotices.Settings.Basic

/-!
# What the settings amount to, as documents

* `Settings.toJson` and one `toJson` for each section : the values that apply, in the units and
  under the names in which the parts of the service take them;
* `Problem.name`    : the name of the kind of problem;
* `sections`        : the kinds of section by name, and `Section.report`, what one amounts to.
-/

namespace BookingNotices.Settings

/-- The name of the kind of problem. -/
def Problem.name : Problem → String
  | .missing _ => "MissingRequired"
  | .port => "InvalidPort"
  | .timeout _ => "InvalidTimeout"
  | .databaseUrl => "InvalidDatabaseUrl"
  | .streamUrl => "InvalidRedisUrl"
  | .poolBounds => "InvalidPoolSize"
  | .poolTooLarge => "PoolSizeTooLarge"
  | .batch => "InvalidBatchSize"
  | .deliveryLimit => "InvalidMaxDeliveries"
  | .sender => "InvalidFromEmail"
  | .recordsUrl _ => "InvalidUpstreamUrl"
  | .blobLimit => "InvalidBlobLimit"
  | .sweepInterval => "SweepIntervalTooLong"

/-- The name of an environment in a heading. -/
def Environment.title : Environment → String
  | .development => "Development"
  | .staging => "Staging"
  | .production => "Production"

/-- A span of time in milliseconds, as a machine word of 64 bits. -/
private def span (millis : Nat) : Json := .ofNat (millis % Nat.pow 2 64)

def Service.toJson (s : Service) : Json := .ofFields [
  ("name", .text s.name),
  ("environment", .text s.environment.title),
  ("log_level", .text s.logLevel),
  ("json_logs", .bool s.jsonLogs),
  ("production", .bool s.isProduction)]

def Database.toJson (d : Database) : Json := .ofFields [
  ("url", .text d.url),
  ("min", .ofNat d.toPool.least),
  ("max", .ofNat d.toPool.most),
  ("acquire_ms", span d.acquireMillis),
  ("idle_secs", .ofNat d.idleSeconds),
  ("run_migrations", .bool d.runsMigrations)]

/-- A consumer that the process names itself has no name here. -/
def Channel.toJson (c : Channel) : Json := .ofFields [
  ("url", .text c.url),
  ("group", .text c.group),
  ("consumer", .text (c.consumer.getD "<default>")),
  ("batch_size", .ofNat c.batch),
  ("block_ms", .ofNat c.blockMillis),
  ("reclaim_secs", .ofNat c.reclaimSeconds),
  ("max_deliveries", .ofNat c.deliveryLimit)]

def Mailing.toJson (m : Mailing) : Json := .ofFields [
  ("host", .text m.host),
  ("port", .ofNat m.port),
  ("username", .text m.username),
  ("password", .text m.password),
  ("from", .text m.sender),
  ("from_email", .text m.senderAddress),
  ("from_name", .text m.senderName),
  ("timeout_secs", .ofNat m.timeoutSeconds)]

def Storage.toJson (s : Storage) : Json := .ofFields [
  ("container", .text s.container), ("max_bytes", .ofNat s.sizeLimit)]

def Records.toJson (r : Records) : Json := .ofFields [
  ("user", .text r.users),
  ("booking", .text r.bookings),
  ("movie", .text r.showtimes),
  ("timeout_ms", span r.timeoutMillis)]

def Sweeping.toJson (s : Sweeping) : Json := .ofFields [
  ("interval_secs", .ofNat s.intervalSeconds), ("stale_secs", .ofNat s.thresholdSeconds)]

def toJson (s : Settings) : Json := .ofFields [
  ("service", s.service.toJson),
  ("database", s.database.toJson),
  ("redis", s.channel.toJson),
  ("email", s.mailing.toJson),
  ("storage", s.storage.toJson),
  ("upstream", s.records.toJson),
  ("worker", s.sweeping.toJson),
  ("production", .bool s.service.isProduction)]

/-! ## Sections by name -/

/-- A kind of section: how it is written, what it says, and what is wrong with it. -/
structure Section where
  Values : Type
  shape : Json.Shape
  ofValue : shape.Value → Values
  view : Values → Json
  check : Values → Except Problem Unit
  /-- what applies where nothing is said, if that can be -/
  usual : Option Values

/-- What a section amounts to, and whether it fits. -/
def Section.report (k : Section) (settings : k.Values) : Json :=
  let valid := match k.check settings with
    | .ok () => Json.ofFields [("ok", .bool true)]
    | .error p => .ofFields [("error", .text p.name), ("message", .text p.message)]
  .ofFields [("config", k.view settings), ("valid", valid)]

/-- All kinds of section by name; the last one holds all others. -/
def sections : List (String × Section) := [
  ("service", ⟨Service, Service.shape, .ofValue, Service.toJson, Service.check, some {}⟩),
  ("database", ⟨Database, Database.shape, .ofValue, Database.toJson, Database.check, some {}⟩),
  ("redis", ⟨Channel, Channel.shape, .ofValue, Channel.toJson, Channel.check, some {}⟩),
  ("email", ⟨Mailing, Mailing.shape, .ofValue, Mailing.toJson, Mailing.check, some {}⟩),
  ("storage", ⟨Storage, Storage.shape, .ofValue, Storage.toJson, Storage.check, some {}⟩),
  ("upstream", ⟨Records, Records.shape, .ofValue, Records.toJson, Records.check, none⟩),
  ("worker", ⟨Sweeping, Sweeping.shape, .ofValue, Sweeping.toJson, Sweeping.check, some {}⟩),
  ("app", ⟨Settings, shape, .ofValue, toJson, validate, none⟩)]

/-- What a section that is written as a value amounts to. -/
def Section.ofJson (k : Section) (j : Json) : Except Json.Problem Json :=
  (k.shape.ofJson j).map fun v => k.report (k.ofValue v)

end BookingNotices.Settings
