import BookingNotices.Settings.Section

/-!
# The settings of the service

* `Settings`         : all sections;
* `Settings.shape`   : how they are written; three sections may be left out;
* `Settings.problem` : the first problem in the order of the sections.
-/

namespace BookingNotices

open Json

/-- All that can be set. -/
structure Settings where
  service : Settings.Service := {}
  database : Settings.Database
  channel : Settings.Channel
  mailing : Settings.Mailing
  storage : Settings.Storage := {}
  records : Settings.Records
  sweeping : Settings.Sweeping := {}
  deriving DecidableEq, Repr

namespace Settings

abbrev shape : Shape := .record "AppConfig" <|
  .cons "service" .defaulted Service.shape <|
  .cons "database" .required Database.shape <|
  .cons "redis" .required Channel.shape <|
  .cons "email" .required Mailing.shape <|
  .cons "storage" .defaulted Storage.shape <|
  .cons "upstream" .required Records.shape <|
  .cons "worker" .defaulted Sweeping.shape .nil

def ofValue (v : shape.Value) : Settings :=
  match v with
  | (service, database, channel, mailing, storage, records, sweeping, ()) => {
    service := (service.map Service.ofValue).getD {}
    database := .ofValue database
    channel := .ofValue channel
    mailing := .ofValue mailing
    storage := (storage.map Storage.ofValue).getD {}
    records := .ofValue records
    sweeping := (sweeping.map Sweeping.ofValue).getD {} }

/-- Refuses settings under which the service cannot work. -/
def validate (s : Settings) : Except Problem Unit := do
  s.service.check
  s.database.check
  s.channel.check
  s.mailing.check
  s.storage.check
  s.records.check
  s.sweeping.check

end Settings

end BookingNotices
