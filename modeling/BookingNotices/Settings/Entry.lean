import BookingNotices.Table

/-!
# Trees of settings

* `Settings.Step`  : a step down a tree, to a name or to an item;
* `Settings.Entry` : what stands at a place: nothing, a text, or more places below names or items;
* `Entry.set`      : puts a text at a path, making the places on the way to it (`find?_set`).
-/

namespace BookingNotices.Settings

/-- One step of the path to a setting. -/
inductive Step where
  | name (s : String)
  /-- a negative index counts from behind -/
  | item (index : Int)
  deriving DecidableEq, Repr

/-- What stands at a place. -/
inductive Entry where
  | nothing
  | text (s : String)
  | names (below : List (String × Entry))
  | items (below : List Entry)

namespace Entry

/-- The places below names, in increasing order of the names. -/
def table : Entry → Table String Entry
  | .names below => below
  | _ => []

/-- The items in order. -/
def list : Entry → List Entry
  | .items below => below
  | _ => []

@[simp] theorem list_items (below : List Entry) : (items below).list = below := rfl

/-- The place of an item in a list of some length. There is none before the first item. -/
def position? (length : Nat) (index : Int) : Option Nat :=
  if 0 ≤ index then some index.toNat
  else if (length : Int) + index < 0 then none
  else some (length + index).toNat

/-- Puts a text at a path. What stands on the way gives way to names or items if it has none, and a
list is filled up to the place of the item. -/
def set (s : String) : List Step → Entry → Option Entry
  | [], _ => some (.text s)
  | .name n :: path, e =>
    (set s path ((e.table.find? n).getD .nothing)).map fun v => .names (e.table.insert n v)
  | .item index :: path, e =>
    (position? e.list.length index).bind fun i =>
      let items := e.list ++ List.replicate (i + 1 - e.list.length) .nothing
      (set s path (items[i]?.getD .nothing)).map fun v => .items (items.set i v)

/-- What stands at the end of a path. -/
def find? : List Step → Entry → Option Entry
  | [], e => some e
  | .name n :: path, e => (e.table.find? n).bind (find? path)
  | .item index :: path, e =>
    (position? e.list.length index).bind fun i => e.list[i]?.bind (find? path)

theorem position?_lt {length i : Nat} {index : Int} (h : position? length index = some i) :
    position? (max length (i + 1)) index = some i := by
  simp only [position?] at h ⊢
  split at h
  · next h0 => simp_all
  · next h0 =>
    split at h
    · simp at h
    · next h1 =>
      simp only [Option.some.injEq] at h
      have : max length (i + 1) = length := by omega
      simp [h0, this, h1, h]

/-- A text stands where it was put. -/
theorem find?_set {s : String} {path : List Step} {e e' : Entry} (h : e.set s path = some e') :
    e'.find? path = some (.text s) := by
  induction path generalizing e e' with
  | nil => simp_all [set, find?]
  | cons step path ih =>
    cases step with
    | name n =>
      simp only [set, Option.map_eq_some_iff] at h
      obtain ⟨v, hv, rfl⟩ := h
      simp [find?, table, Table.find?_insert, ih hv]
    | item index =>
      simp only [set, Option.bind_eq_some_iff, Option.map_eq_some_iff] at h
      obtain ⟨i, hi, v, hv, rfl⟩ := h
      have hl : (e.list ++ List.replicate (i + 1 - e.list.length) Entry.nothing).length =
          max e.list.length (i + 1) := by simp; omega
      simp only [find?, list_items, List.length_set, hl, position?_lt hi, Option.bind_some]
      rw [List.getElem?_set_self (by omega)]
      exact ih hv

end Entry

end BookingNotices.Settings
