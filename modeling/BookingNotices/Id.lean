import BookingNotices.Failure
import BookingNotices.Text.Blank
import BookingNotices.Text.Integer

/-!
# Identities

* `NoticeId` : the identity of a notice, a signed word; zero and below mean that it has none yet;
* `BookingId`, `UserId`, `ShowtimeId`, `SeatId` : identities that other services give out;
* `toText`, `read` : their decimal texts; blanks around a text are passed over.
-/

namespace BookingNotices

open Text

/-- The identity of a notice. -/
structure NoticeId where
  value : Int64
  deriving DecidableEq, Repr, Inhabited

/-- The identity of a booking. -/
structure BookingId where
  value : UInt32
  deriving DecidableEq, Repr, Inhabited

/-- The identity of a user. -/
structure UserId where
  value : UInt32
  deriving DecidableEq, Repr, Inhabited

/-- The identity of a showtime. -/
structure ShowtimeId where
  value : UInt32
  deriving DecidableEq, Repr, Inhabited

/-- The identity of a seat. -/
structure SeatId where
  value : UInt32
  deriving DecidableEq, Repr, Inhabited

/-- Reads an identity of a width, naming the field that it is for. -/
private def readIdentity (width : Width) (field s : String) : Except Rejection Int :=
  (Integer.read width (trim s.toList)).mapError fun p => .badFormat field p.message

namespace NoticeId

/-- The identity of a notice that is not stored yet. -/
def unset : NoticeId := ⟨0⟩

/-- Whether the notice has no identity yet. -/
def isUnset (id : NoticeId) : Bool := id.value ≤ 0

def toInt (id : NoticeId) : Int := id.value.toInt

def toText (id : NoticeId) : String := toString id.toInt

def ofInt (n : Int) : NoticeId := ⟨Int64.ofInt n⟩

def read (s : String) : Except Rejection NoticeId :=
  (readIdentity .i64 "notification_id" s).map ofInt

instance : LT NoticeId := ⟨fun a b => a.value < b.value⟩
instance (a b : NoticeId) : Decidable (a < b) := inferInstanceAs (Decidable (a.value < b.value))

end NoticeId

namespace BookingId

def toNat (id : BookingId) : Nat := id.value.toNat

def toText (id : BookingId) : String := toString id.toNat

def ofInt (n : Int) : BookingId := ⟨UInt32.ofNat n.toNat⟩

def read (s : String) : Except Rejection BookingId :=
  (readIdentity .u32 "booking_id" s).map ofInt

instance : LT BookingId := ⟨fun a b => a.value < b.value⟩
instance (a b : BookingId) : Decidable (a < b) := inferInstanceAs (Decidable (a.value < b.value))

end BookingId

namespace UserId

def toNat (id : UserId) : Nat := id.value.toNat

def toText (id : UserId) : String := toString id.toNat

def ofInt (n : Int) : UserId := ⟨UInt32.ofNat n.toNat⟩

def read (s : String) : Except Rejection UserId := (readIdentity .u32 "user_id" s).map ofInt

instance : LT UserId := ⟨fun a b => a.value < b.value⟩
instance (a b : UserId) : Decidable (a < b) := inferInstanceAs (Decidable (a.value < b.value))

end UserId

namespace ShowtimeId

def toNat (id : ShowtimeId) : Nat := id.value.toNat

def toText (id : ShowtimeId) : String := toString id.toNat

def ofInt (n : Int) : ShowtimeId := ⟨UInt32.ofNat n.toNat⟩

def read (s : String) : Except Rejection ShowtimeId :=
  (readIdentity .u32 "showtime_id" s).map ofInt

instance : LT ShowtimeId := ⟨fun a b => a.value < b.value⟩
instance (a b : ShowtimeId) : Decidable (a < b) := inferInstanceAs (Decidable (a.value < b.value))

end ShowtimeId

namespace SeatId

def toNat (id : SeatId) : Nat := id.value.toNat

def toText (id : SeatId) : String := toString id.toNat

def ofInt (n : Int) : SeatId := ⟨UInt32.ofNat n.toNat⟩

def read (s : String) : Except Rejection SeatId := (readIdentity .u32 "seat_id" s).map ofInt

instance : LT SeatId := ⟨fun a b => a.value < b.value⟩
instance (a b : SeatId) : Decidable (a < b) := inferInstanceAs (Decidable (a.value < b.value))

end SeatId

end BookingNotices
