/-!
# Finite maps as sorted lists

* `Table κ α`    : the entries of a finite map, in increasing order of their keys;
* `Table.insert` : sets the value of a key;
* `Table.find?`  : the value of a key (`find?_insert`);
* `Table.ofList` : the map with these entries, the last of a repeated key winning.
-/

namespace BookingNotices

/-- The entries of a finite map, in increasing order of their keys. -/
abbrev Table (κ α : Type) := List (κ × α)

namespace Table

/-- The value of a key. -/
def find? {κ α : Type} [DecidableEq κ] (k : κ) : Table κ α → Option α
  | [] => none
  | (k', v) :: t => if k' = k then some v else find? k t

/-- Whether the map has a key. -/
def has {κ α : Type} [DecidableEq κ] (k : κ) (t : Table κ α) : Bool := (t.find? k).isSome

/-- The keys in increasing order. -/
def keys {κ α : Type} (t : Table κ α) : List κ := t.map (·.1)

/-- The values in the order of their keys. -/
def values {κ α : Type} (t : Table κ α) : List α := t.map (·.2)

/-- Sets the value of a key. -/
def insert {κ α : Type} [LT κ] [DecidableLT κ] [DecidableEq κ] (k : κ) (v : α) :
    Table κ α → Table κ α
  | [] => [(k, v)]
  | (k', v') :: t =>
    if k < k' then (k, v) :: (k', v') :: t
    else if k = k' then (k, v) :: t
    else (k', v') :: insert k v t

/-- Leaves out a key. -/
def erase {κ α : Type} [DecidableEq κ] (k : κ) (t : Table κ α) : Table κ α :=
  t.filter fun (k', _) => k' ≠ k

/-- The map with these entries. -/
def ofList {κ α : Type} [LT κ] [DecidableLT κ] [DecidableEq κ] (entries : List (κ × α)) :
    Table κ α :=
  entries.foldl (fun t (k, v) => insert k v t) []

@[simp] theorem find?_nil {κ α : Type} [DecidableEq κ] (k : κ) :
    find? k ([] : Table κ α) = none := rfl

@[grind =] theorem find?_insert {κ α : Type} [LT κ] [DecidableLT κ] [DecidableEq κ]
    (k l : κ) (v : α) (t : Table κ α) :
    find? l (insert k v t) = if k = l then some v else find? l t := by
  induction t with
  | nil => rfl
  | cons e t ih =>
    simp only [insert]
    split
    · rfl
    · split
      · next h => by_cases hl : k = l <;> simp [find?, hl, ← h]
      · next h =>
        simp only [find?, ih]
        split
        · next hl => subst hl; simp [h]
        · rfl

@[grind =] theorem find?_erase {κ α : Type} [DecidableEq κ] (k l : κ) (t : Table κ α) :
    find? l (erase k t) = if k = l then none else find? l t := by
  induction t with
  | nil => simp [erase]
  | cons e t ih =>
    simp only [erase] at ih
    by_cases h : e.1 = k <;> simp [erase, find?, h] <;> grind

end Table

end BookingNotices
