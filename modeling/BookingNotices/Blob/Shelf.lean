import BookingNotices.Blob.Name
import BookingNotices.Supply

/-!
# Blobs in memory

* `Shelf`      : the blobs by name, and how often one was put there;
* `Shelf.put`  : stores a blob, unless its name is bad or the put is made to fail;
* `Shelf.get`, `Shelf.has` : what is there; no name is bad to ask for;
* `Shelf.read` : reads a blob, unless the reading is made to fail.
-/

namespace BookingNotices

/-- Blobs in memory. -/
structure Shelf where
  blobs : Table String Bytes := []
  puts : Nat := 0
  faults : Supply Bool := .constant false
  /-- why the readings to come fail, if they do -/
  readFaults : Supply (Option String) := .constant none

namespace Shelf

/-- Stores a blob. -/
def put (s : Shelf) (name : String) (bytes : Bytes) : Except Blob.Error Unit × Shelf :=
  match Blob.checkName name with
  | .error e => (.error e, s)
  | .ok () =>
    let (fails, faults) := s.faults.next
    if fails then (.error (.medium "injected put failure"), { s with faults := faults })
    else (.ok (), { s with
      blobs := s.blobs.insert name bytes, puts := s.puts + 1, faults := faults })

/-- The blob of a name. -/
def get (s : Shelf) (name : String) : Except Blob.Error Bytes :=
  match s.blobs.find? name with
  | some bytes => .ok bytes
  | none => .error (.notFound name)

/-- Reads the blob of a name. -/
def read (s : Shelf) (name : String) : Except Blob.Error Bytes × Shelf :=
  let (fault, faults) := s.readFaults.next
  match fault with
  | some reason => (.error (.medium reason), { s with readFaults := faults })
  | none => (s.get name, { s with readFaults := faults })

/-- Whether there is a blob of a name. -/
def has (s : Shelf) (name : String) : Bool := Table.has name s.blobs

/-- Makes the next `count` puts fail. -/
def failNext (s : Shelf) (count : Nat) : Shelf := { s with faults := .firstTimes count }

end Shelf

end BookingNotices
