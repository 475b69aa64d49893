import BookingNotices.Store.Basic

/-!
# Transactions on the store

* `Guarded`       : the committed store, and the one transaction that may be open on it;
* `Guarded.Call`  : the calls, outside and inside a transaction;
* `Guarded.Reply` : their answers; a call that would have to wait for the open transaction answers
  `blocked` and does nothing;
* `Guarded.call`  : the step.

A transaction works on its own copy of the store, which replaces the committed one when it commits.
-/

namespace BookingNotices.Store

/-- A store on which at most one transaction is open, with its name and its copy of the store. -/
structure Guarded where
  committed : Store := {}
  opened : Option (String × Store) := none
  deriving Inhabited

namespace Guarded

/-- The calls on a store. -/
inductive Call where
  | seed (n : Notice)
  | get (id : NoticeId)
  | count (booking : BookingId)
  | withStatus (status : Notice.Status)
  | all
  | resolve (n : Notice) (claimedAt : Timestamp)
  | begin (name : String)
  | countIn (name : String) (booking : BookingId)
  | createIn (name : String) (n : Notice)
  | getIn (name : String) (id : NoticeId)
  | updateIn (name : String) (n : Notice)
  | commit (name : String)
  /-- also of a transaction that is given up -/
  | rollback (name : String)

/-- The answers to calls. -/
inductive Reply where
  | done
  | row (n : Notice)
  | rows (ns : List Notice)
  | number (n : Nat)
  /-- the claim no longer holds -/
  | gone
  | failed (f : Failure)
  /-- the call would wait for the open transaction -/
  | blocked
  /-- no transaction of the name is open -/
  | noTransaction

/-- Answers a row, or the failure to get it. -/
def Reply.ofRow : Except Failure Notice → Reply
  | .ok n => .row n
  | .error f => .failed f

/-- A call that takes the lock of the store. -/
def locked (g : Guarded) (act : Store → Reply × Store) : Reply × Guarded :=
  match g.opened with
  | some _ => (.blocked, g)
  | none =>
    let (reply, store) := act g.committed
    (reply, { g with committed := store })

/-- A call inside a transaction. -/
def inside (g : Guarded) (name : String) (act : Store → Reply × Store) : Reply × Guarded :=
  match g.opened with
  | none => (.noTransaction, g)
  | some (open_, staged) =>
    if open_ = name then
      let (reply, staged) := act staged
      (reply, { g with opened := some (open_, staged) })
    else (.noTransaction, g)

/-- The end of a transaction. -/
def ending (g : Guarded) (name : String) (keep : Bool) : Reply × Guarded :=
  match g.opened with
  | none => (.noTransaction, g)
  | some (open_, staged) =>
    if open_ = name then (.done, ⟨if keep then staged else g.committed, none⟩)
    else (.noTransaction, g)

/-- Replaces a row of a store. -/
def replace (n : Notice) (s : Store) : Reply × Store :=
  match s.overwrite n with
  | .ok s => (.row n, s)
  | .error f => (.failed f, s)

/-- Replaces a claimed row of a store. -/
def conclude (n : Notice) (claimedAt : Timestamp) (s : Store) : Reply × Store :=
  match s.resolve n claimedAt with
  | .ok (some s) => (.row n, s)
  | .ok none => (.gone, s)
  | .error f => (.failed f, s)

/-- Answers a call. -/
def call (g : Guarded) : Call → Reply × Guarded
  | .seed n => g.locked fun s => let (n, s) := s.seed n; (.row n, s)
  | .get id => g.locked fun s => (.ofRow (s.get id), s)
  | .count booking => g.locked fun s => (.number (s.count booking), s)
  | .withStatus status => g.locked fun s => (.rows (s.withStatus status), s)
  | .all => g.locked fun s => (.rows s.rows.values, s)
  | .resolve n claimedAt =>
    if n.id.isUnset then (.failed unsetId, g)
    else g.locked (conclude n claimedAt)
  | .begin name =>
    match g.opened with
    | some _ => (.blocked, g)
    | none => (.done, { g with opened := some (name, g.committed) })
  | .countIn name booking => g.inside name fun s => (.number (s.count booking), s)
  | .createIn name n => g.inside name fun s => let (n, s) := s.insert n; (.row n, s)
  | .getIn name id => g.inside name fun s => (.ofRow (s.get id), s)
  | .updateIn name n => g.inside name (replace n)
  | .commit name => g.ending name true
  | .rollback name => g.ending name false

end Guarded

end BookingNotices.Store
