import BookingNotices.Notice.Basic
import BookingNotices.Table

/-!
# The store of notices

* `Store`          : the rows by identity, and the last identity given out;
* `insert`         : stores a notice under the next identity;
* `overwrite`      : replaces a row that exists;
* `resolve`        : replaces a claimed row, if its claim still holds;
* `count`, `get`, `withStatus` : the readings.
-/

namespace BookingNotices

/-- The stored notices. -/
structure Store where
  rows : Table NoticeId Notice := []
  lastId : Int64 := 0
  deriving Inhabited

namespace Store

/-- The failure of a call for a notice without an identity. -/
def unsetId : Failure := .validation "id" "notification id cannot be zero"

/-- The failure of a call for a row that is not there. -/
def notFound (id : NoticeId) : Failure :=
  (Failure.mk .noticeNotFound ("Notification not found: " ++ id.toText) []).withDetail
    "notification_id" id.toText

/-- How many notices there are about a booking. -/
def count (s : Store) (booking : BookingId) : Nat :=
  s.rows.countP fun (_, n) => n.booking = booking

/-- Stores a notice under the next identity. -/
def insert (s : Store) (n : Notice) : Notice × Store :=
  let id : NoticeId := ⟨s.lastId + 1⟩
  let stored := { n with id := id }
  (stored, ⟨s.rows.insert id stored, id.value⟩)

/-- Stores a notice under its own identity, or under the next one if it has none. -/
def seed (s : Store) (n : Notice) : Notice × Store :=
  if n.id.isUnset then s.insert n
  else (n, ⟨s.rows.insert n.id n, max s.lastId n.id.value⟩)

/-- The row with an identity. -/
def get (s : Store) (id : NoticeId) : Except Failure Notice :=
  match s.rows.find? id with
  | some n => .ok n
  | none => .error (notFound id)

/-- Replaces the row with the notice's identity. -/
def overwrite (s : Store) (n : Notice) : Except Failure Store :=
  if n.id.isUnset then .error unsetId
  else if s.rows.has n.id then .ok { s with rows := s.rows.insert n.id n }
  else .error (notFound n.id)

/-- Whether the row is claimed, and the claim was taken at the given instant. -/
def claimHolds (s : Store) (id : NoticeId) (claimedAt : Timestamp) : Bool :=
  match s.rows.find? id with
  | some row => row.status = .processing && row.updated = claimedAt
  | none => false

/-- Replaces the row that a worker claimed at an instant. Nothing happens if the claim no longer
holds. -/
def resolve (s : Store) (n : Notice) (claimedAt : Timestamp) : Except Failure (Option Store) :=
  if n.id.isUnset then .error unsetId
  else if s.claimHolds n.id claimedAt then (s.overwrite n).map some
  else .ok none

/-- The order in which overdue work is taken up: the oldest step first. -/
def oldestFirst (a b : Notice) : Bool :=
  match a.updated.compare b.updated with
  | .lt => true
  | .gt => false
  | .eq => a.id.value ≤ b.id.value

/-- The rows of a status, the oldest step first. -/
def withStatus (s : Store) (status : Notice.Status) : List Notice :=
  (s.rows.values.filter fun n => n.status = status).mergeSort oldestFirst

end Store

end BookingNotices
