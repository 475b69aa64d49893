import BookingNotices.Answer
import BookingNotices.Blob.Disk
import BookingNotices.Stream.Consumer

/-!
# What applies where nothing is said

* `Stream.Settings.toJson` : how a consumer of streams works;
* `Defaults.report`        : topics, texts, limits and intervals, as a document.
-/

namespace BookingNotices

def Stream.Settings.toJson (s : Stream.Settings) : Json := .ofFields [
  ("group", .text s.group),
  ("consumer", .text s.consumer),
  ("batch_size", .ofNat s.batch),
  ("block_ms", .ofNat s.blockMillis),
  ("reclaim_ms", .ofNat s.reclaimMillis),
  ("max_deliveries", .ofNat s.deliveryLimit)]

/-- Topics, texts, limits and intervals, by name. -/
def Defaults.report : List (String × Json) := [
  ("topics", Answer.texts [Event.Created.topic, Event.PaymentCompleted.topic]),
  ("email", Answer.texts [Notice.Email.subjectLine, Notice.Email.confirmedBody,
    Notice.Email.cancelledBody, Invoice.contentType]),
  ("redis", Stream.Settings.toJson {}),
  ("sweeper", .ofFields [
    ("interval_secs", .ofNat Sweep.defaultIntervalSeconds),
    ("stale_secs", .ofNat Sweep.defaultThresholdSeconds),
    ("constant_secs", .ofNat Sweep.defaultThresholdSeconds)]),
  ("max_attempts", .ofNat Bus.defaultAttemptLimit),
  ("max_blob_bytes", .ofNat Disk.defaultSizeLimit),
  ("statuses", Answer.texts (Notice.Status.all.map Notice.Status.text)),
  ("unset_id", .integer NoticeId.unset.toInt),
  ("pdf", .text Invoice.contentType)]

end BookingNotices
