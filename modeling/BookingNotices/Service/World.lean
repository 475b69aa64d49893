import BookingNotices.Blob.Shelf
import BookingNotices.Bus.Basic
import BookingNotices.Invoice.Render
import BookingNotices.Mail.Message
import BookingNotices.Registry.Basic
import BookingNotices.Store.Basic

/-!
# All that the service works with

* `World`      : the store, the bus, the records of other services, the blobs, the mail, the
  renderers, the clock, fresh identities, and which calls on the store are still made to fail;
* `StoreCall`  : the calls on the store that can be made to fail;
* `Consumer`   : the two handlers that the service subscribes.
-/

namespace BookingNotices

/-- The calls on the store that can be made to fail. -/
inductive StoreCall where
  | begin
  | count
  | create
  | lock
  | update
  | commit
  | rollback
  | resolve
  | list
  deriving DecidableEq, Repr

namespace StoreCall

/-- All calls that can be made to fail. -/
def all : List StoreCall :=
  [.begin, .count, .create, .lock, .update, .commit, .rollback, .resolve, .list]

def name : StoreCall → String
  | .begin => "begin"
  | .count => "count"
  | .create => "create"
  | .lock => "lock"
  | .update => "update"
  | .commit => "commit"
  | .rollback => "rollback"
  | .resolve => "update_claimed"
  | .list => "list"

/-- The call of a name. -/
def ofName? (s : String) : Option StoreCall := all.find? fun c => c.name == s

/-- The failure of a call that is made to fail. -/
def failure (c : StoreCall) : Failure := ⟨.databaseError, "injected " ++ c.name ++ " failure", []⟩

end StoreCall

/-- The handlers that the service subscribes. -/
inductive Consumer where
  /-- takes up a notice that waits -/
  | noticeCreated
  /-- creates a notice for a booking that was paid -/
  | paymentCompleted
  deriving DecidableEq, Repr

def Consumer.name : Consumer → String
  | .noticeCreated => "NotificationCreatedConsumer"
  | .paymentCompleted => "PaymentTransactionCompletedConsumer"

/-- All that the service works with. -/
structure World where
  store : Store := {}
  bus : Bus Consumer := {}
  registry : Registry := {}
  shelf : Shelf := {}
  outbox : Outbox := {}
  renderers : Supply Invoice.Renderer := .constant .plain
  clock : Supply Timestamp
  ids : Supply String
  /-- how many calls of a kind succeed before each one that is made to fail -/
  storeFaults : StoreCall → List Nat := fun _ => []

namespace World

instance : HasBus World Consumer := ⟨World.bus, fun b w => { w with bus := b }⟩

/-- Reads the clock. -/
def now (w : World) : Timestamp × World :=
  let (t, clock) := w.clock.next
  (t, { w with clock := clock })

/-- Takes a fresh identity. -/
def freshId (w : World) : String × World :=
  let (id, ids) := w.ids.next
  (id, { w with ids := ids })

/-- Says which calls of a kind are made to fail, by how many succeed before each of them. -/
def setFaults (w : World) (c : StoreCall) (gaps : List Nat) : World :=
  { w with storeFaults := fun d => if d = c then gaps else w.storeFaults d }

/-- Makes the next `count` calls of a kind fail. -/
def failStore (w : World) (c : StoreCall) (count : Nat) : World :=
  w.setFaults c (List.replicate count 0)

/-- Whether a call on the store is made to fail. A fault is used up, or comes nearer. -/
def storeFails (w : World) (c : StoreCall) : Bool × World :=
  match w.storeFaults c with
  | [] => (false, w)
  | 0 :: gaps => (true, w.setFaults c gaps)
  | (gap + 1) :: gaps => (false, w.setFaults c (gap :: gaps))

/-- Publishes an event. -/
def publish (w : World) (e : Event) : Except Failure Unit × World :=
  let (outcome, bus) := w.bus.publish e
  (outcome, { w with bus := bus })

/-- Renders an invoice. -/
def render (w : World) (p : Invoice.Params) : Except Failure Bytes × World :=
  let (renderer, renderers) := w.renderers.next
  (renderer p, { w with renderers := renderers })

end World

end BookingNotices
