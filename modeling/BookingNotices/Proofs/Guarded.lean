import BookingNotices.Proofs.Room
import BookingNotices.Store.Guarded
import Mathlib.Data.Set.Card

/-!
# Rows under transactions

* `Store.WellKept`  : rows in the order of their identities, each filed under its own, none beyond
  the last one given out (`WellKept.put`, `WellKept.insert`, `WellKept.seed`);
* `Store.about`     : the identities of the rows about a booking, as many as `count` says
  (`encard_about`);
* `Guarded.Changes` : all that a call can do (`changes_call`);
* `Guarded.Sound`   : the committed store and the copy in a transaction are well kept, and the copy
  counts on from the committed store (`Sound.call`, `Sound.run`);
* `Guarded.Adds`    : what a creation answers and does, and `Guarded.Counts` what a count does;
* `calls_keep_rows` : what holds after any calls, as long as identities last.

A row enters a store in three ways: as a new one, as one that is there from the first, or with the
whole copy of a transaction. The next identity is free in all of them.
-/

namespace BookingNotices.Store

/-! ## Well-kept stores -/

/-- Rows in the order of their identities, each filed under its own, none beyond the last one given
out. -/
structure WellKept (s : Store) : Prop extends Filed s where
  sorted : s.rows.Sorted

/-- The last identity has not been given out. -/
def Spare (s : Store) : Prop := s.lastId < Int64.maxValue

instance (s : Store) : Decidable s.Spare := inferInstanceAs (Decidable (s.lastId < _))

variable {s : Store} {n row : Notice}

theorem Spare.toInt_lt (h : s.Spare) : s.lastId.toInt < 9223372036854775807 :=
  Int64.lt_iff_toInt_lt.mp h

theorem WellKept.empty : WellKept {} := ⟨Filed.empty, Table.Sorted.nil⟩

theorem WellKept.put (h : s.WellKept) (hrow : s.rows.find? n.id = some row) :
    (s.put n).WellKept := by
  refine ⟨⟨h.keyed.put n, h.last, fun id m hm => ?_⟩, h.sorted.insert⟩
  rcases find?_put_cases hm with ⟨rfl, -⟩ | ⟨-, hm⟩
  · exact h.ids n.id row hrow
  · exact h.ids id m hm

theorem WellKept.insert (h : s.WellKept) (hspare : s.Spare) (n : Notice) :
    (s.insert n).2.WellKept :=
  ⟨h.toFiled.insert hspare.toInt_lt n, h.sorted.insert⟩

theorem WellKept.seed (h : s.WellKept) (hspare : s.Spare) (n : Notice) :
    (s.seed n).2.WellKept := by
  refine ⟨?_, sorted_seed h.sorted n⟩
  cases hset : n.id.isUnset with
  | false => exact h.toFiled.seed hset
  | true =>
    have hinsert : s.seed n = s.insert n := if_pos hset
    rw [hinsert]
    exact h.toFiled.insert hspare.toInt_lt n

/-- The identities that rows have do not change with one of the rows. -/
theorem keys_put (h : s.rows.Sorted) (hrow : s.rows.find? n.id = some row) :
    (s.put n).rows.keys = s.rows.keys :=
  Table.map_insert_of_find? (by rfl) h hrow

/-! ## Counting -/

/-- The identities of the rows about a booking. -/
def about (s : Store) (booking : BookingId) : Set NoticeId :=
  {id | ∃ n, s.rows.find? id = some n ∧ n.booking = booking}

theorem encard_about (h : s.rows.Sorted) (booking : BookingId) :
    (s.about booking).encard = s.count booking := by
  let entries := s.rows.filter fun e => e.2.booking = booking
  have hnodup : (entries.map (·.1)).Nodup := by
    refine List.pairwise_map.mpr ((List.Pairwise.filter _ h).imp fun hlt heq => ?_)
    rw [heq] at hlt
    exact Std.Irrefl.irrefl _ hlt
  have hset : s.about booking = (entries.map (·.1)).toFinset := by
    ext id
    simp [about, entries, Table.find?_eq_some_iff_mem h]
  rw [hset, Set.encard_coe_eq_coe_finsetCard, List.toFinset_card_of_nodup hnodup, List.length_map,
    ← List.countP_eq_length_filter]
  rfl

namespace Guarded

/-! ## What a call does -/

section Acts

variable {g : Guarded} {name : String} {staged : Store} {act : Store → Reply × Store}

theorem locked_of_free (h : g.opened = none) :
    g.locked act = ((act g.committed).1, ⟨(act g.committed).2, none⟩) := by
  unfold locked
  rw [h]

theorem locked_of_opened {t : String × Store} (h : g.opened = some t) :
    g.locked act = (.blocked, g) := by
  unfold locked
  rw [h]

theorem inside_of_opened (h : g.opened = some (name, staged)) :
    g.inside name act = ((act staged).1, ⟨g.committed, some (name, (act staged).2)⟩) := by
  unfold inside
  rw [h]
  exact if_pos rfl

theorem inside_of_ne (h : ∀ staged, g.opened ≠ some (name, staged)) :
    g.inside name act = (.noTransaction, g) := by
  unfold inside
  split
  · rfl
  · rename_i other staged hopened
    refine if_neg fun hname => h staged ?_
    rw [hopened, hname]

theorem ending_of_opened (h : g.opened = some (name, staged)) (keep : Bool) :
    g.ending name keep = (.done, ⟨if keep then staged else g.committed, none⟩) := by
  unfold ending
  rw [h]
  exact if_pos rfl

theorem ending_of_ne (h : ∀ staged, g.opened ≠ some (name, staged)) (keep : Bool) :
    g.ending name keep = (.noTransaction, g) := by
  unfold ending
  split
  · rfl
  · rename_i other staged hopened
    refine if_neg fun hname => h staged ?_
    rw [hopened, hname]

end Acts

/-- All that a call can do. -/
inductive Changes (g : Guarded) : Guarded → Prop where
  | same : Changes g g
  | seeds (h : g.opened = none) (n : Notice) : Changes g ⟨(g.committed.seed n).2, none⟩
  | resolves (h : g.opened = none) {n row : Notice}
    (hrow : g.committed.rows.find? n.id = some row) : Changes g ⟨g.committed.put n, none⟩
  | begins (h : g.opened = none) (name : String) : Changes g ⟨g.committed, some (name, g.committed)⟩
  | creates {name : String} {staged : Store} (h : g.opened = some (name, staged)) (n : Notice) :
    Changes g ⟨g.committed, some (name, (staged.insert n).2)⟩
  | updates {name : String} {staged : Store} (h : g.opened = some (name, staged)) {n row : Notice}
    (hrow : staged.rows.find? n.id = some row) : Changes g ⟨g.committed, some (name, staged.put n)⟩
  | commits {name : String} {staged : Store} (h : g.opened = some (name, staged)) :
    Changes g ⟨staged, none⟩
  | givesUp {name : String} {staged : Store} (h : g.opened = some (name, staged)) :
    Changes g ⟨g.committed, none⟩

section Changes

variable {g : Guarded} {name : String}

/-- An act on the committed store does what it does there, or nothing. -/
theorem Changes.locked {act : Store → Reply × Store}
    (h : g.opened = none → Changes g ⟨(act g.committed).2, none⟩) : Changes g (g.locked act).2 := by
  cases hopened : g.opened with
  | none =>
    rw [locked_of_free hopened]
    exact h hopened
  | some t =>
    rw [locked_of_opened hopened]
    exact .same

/-- An act on the copy of a transaction does what it does there, or nothing. -/
theorem Changes.inside {act : Store → Reply × Store}
    (h : ∀ staged, g.opened = some (name, staged) →
      Changes g ⟨g.committed, some (name, (act staged).2)⟩) : Changes g (g.inside name act).2 := by
  by_cases hopened : ∃ staged, g.opened = some (name, staged)
  · obtain ⟨staged, hopened⟩ := hopened
    rw [inside_of_opened hopened]
    exact h staged hopened
  · rw [inside_of_ne (not_exists.mp hopened)]
    exact .same

/-- The end of a transaction is one if it is open, and nothing otherwise. -/
theorem Changes.ending {keep : Bool}
    (h : ∀ staged, g.opened = some (name, staged) →
      Changes g ⟨if keep then staged else g.committed, none⟩) :
    Changes g (g.ending name keep).2 := by
  by_cases hopened : ∃ staged, g.opened = some (name, staged)
  · obtain ⟨staged, hopened⟩ := hopened
    rw [ending_of_opened hopened]
    exact h staged hopened
  · rw [ending_of_ne (not_exists.mp hopened)]
    exact .same

/-- Nothing is replaced but a row that is there. -/
theorem replace_cases (n : Notice) (s : Store) :
    (replace n s).2 = s ∨
      0 < n.id.toInt ∧ (∃ row, s.rows.find? n.id = some row) ∧ (replace n s).2 = s.put n := by
  unfold replace
  split
  · rename_i s' hs'
    obtain ⟨hset, hrow, rfl⟩ := overwrite_eq_ok hs'
    exact Or.inr ⟨NoticeId.isUnset_eq_false_iff.mp hset, hrow, rfl⟩
  · exact Or.inl rfl

theorem conclude_cases (n : Notice) (claimedAt : Timestamp) (s : Store) :
    (conclude n claimedAt s).2 = s ∨
      0 < n.id.toInt ∧ (∃ row, s.rows.find? n.id = some row) ∧
        (conclude n claimedAt s).2 = s.put n := by
  unfold conclude
  split
  · rename_i s' hs'
    obtain ⟨hset, rfl, row, hrow, -⟩ := resolve_eq_some hs'
    exact Or.inr ⟨NoticeId.isUnset_eq_false_iff.mp hset, ⟨row, hrow⟩, rfl⟩
  · exact Or.inl rfl
  · exact Or.inl rfl

/-- An update replaces a row of the copy, or does nothing. -/
theorem updateIn_cases (g : Guarded) (name : String) (n : Notice) :
    (g.call (.updateIn name n)).2 = g ∨
      ∃ staged row, g.opened = some (name, staged) ∧ 0 < n.id.toInt ∧
        staged.rows.find? n.id = some row ∧
        (g.call (.updateIn name n)).2 = ⟨g.committed, some (name, staged.put n)⟩ := by
  unfold call
  dsimp only
  by_cases hopened : ∃ staged, g.opened = some (name, staged)
  · obtain ⟨staged, hopened⟩ := hopened
    rw [inside_of_opened hopened]
    dsimp only
    rcases replace_cases n staged with hsame | ⟨hpositive, ⟨row, hrow⟩, hput⟩
    · rw [hsame, ← hopened]
      exact Or.inl rfl
    · rw [hput]
      exact Or.inr ⟨staged, row, hopened, hpositive, hrow, rfl⟩
  · rw [inside_of_ne (not_exists.mp hopened)]
    exact Or.inl rfl

/-- The outcome of a claim replaces a committed row, or nothing happens. -/
theorem resolve_cases (g : Guarded) (n : Notice) (claimedAt : Timestamp) :
    (g.call (.resolve n claimedAt)).2 = g ∨
      ∃ row, g.opened = none ∧ 0 < n.id.toInt ∧ g.committed.rows.find? n.id = some row ∧
        (g.call (.resolve n claimedAt)).2 = ⟨g.committed.put n, none⟩ := by
  unfold call
  dsimp only
  split
  · exact Or.inl rfl
  · cases hopened : g.opened with
    | some t =>
      rw [locked_of_opened hopened]
      exact Or.inl rfl
    | none =>
      rw [locked_of_free hopened]
      dsimp only
      rcases conclude_cases n claimedAt g.committed with hsame | ⟨hpositive, ⟨row, hrow⟩, hput⟩
      · rw [hsame, ← hopened]
        exact Or.inl rfl
      · rw [hput]
        exact Or.inr ⟨row, rfl, hpositive, hrow, rfl⟩

end Changes

theorem changes_call (g : Guarded) (c : Call) : Changes g (g.call c).2 := by
  cases c with
  | seed n => exact Changes.locked fun h => .seeds h n
  | get id | count booking | withStatus status | all =>
    refine Changes.locked fun h => ?_
    rw [← h]
    exact .same
  | resolve n claimedAt =>
    rcases resolve_cases g n claimedAt with hsame | ⟨row, hopened, -, hrow, hput⟩
    · rw [hsame]
      exact .same
    · rw [hput]
      exact .resolves hopened hrow
  | begin name =>
    unfold call
    dsimp only
    split
    · exact .same
    · rename_i hopened
      exact .begins hopened name
  | countIn name booking | getIn name id =>
    refine Changes.inside fun staged h => ?_
    rw [← h]
    exact .same
  | createIn name n => exact Changes.inside fun staged h => .creates h n
  | updateIn name n =>
    rcases updateIn_cases g name n with hsame | ⟨staged, row, hopened, -, hrow, hput⟩
    · rw [hsame]
      exact .same
    · rw [hput]
      exact .updates hopened hrow
  | commit name => exact Changes.ending (fun staged h => .commits h)
  | rollback name => exact Changes.ending (fun staged h => .givesUp h)

/-! ## What calls keep -/

/-- The committed store and the copy in a transaction are well kept, and the copy counts on from the
committed store. -/
structure Sound (g : Guarded) : Prop where
  committed : g.committed.WellKept
  staged : ∀ name s, g.opened = some (name, s) → s.WellKept
  ahead : ∀ name s, g.opened = some (name, s) → g.committed.lastId.toInt ≤ s.lastId.toInt

/-- The last identity has not been given out, neither in the committed store nor in the copy. -/
def Spare (g : Guarded) : Prop := g.committed.Spare ∧ ∀ t ∈ g.opened, t.2.Spare

instance (g : Guarded) : Decidable g.Spare :=
  inferInstanceAs (Decidable (g.committed.Spare ∧ ∀ t ∈ g.opened, t.2.Spare))

theorem Spare.staged {g : Guarded} {name : String} {s : Store} (h : g.Spare)
    (hopened : g.opened = some (name, s)) : s.Spare := h.2 (name, s) hopened

theorem Sound.empty : Sound {} := ⟨WellKept.empty, nofun, nofun⟩

/-- A store that is well kept and has no transaction open. -/
theorem Sound.of_committed {s : Store} (h : s.WellKept) : Sound ⟨s, none⟩ := ⟨h, nofun, nofun⟩

/-- A transaction on a well-kept copy that counts on. -/
theorem Sound.of_staged {s staged : Store} (name : String) (h : s.WellKept)
    (hstaged : staged.WellKept) (hahead : s.lastId.toInt ≤ staged.lastId.toInt) :
    Sound ⟨s, some (name, staged)⟩ := by
  constructor
  · exact h
  · rintro _ _ ⟨⟩
    exact hstaged
  · rintro _ _ ⟨⟩
    exact hahead

theorem Sound.changes {g g' : Guarded} (h : g.Sound) (hspare : g.Spare) (hchanges : Changes g g') :
    g'.Sound := by
  cases hchanges with
  | same => exact h
  | seeds hopened n => exact .of_committed (h.committed.seed hspare.1 n)
  | resolves hopened hrow => exact .of_committed (h.committed.put hrow)
  | begins hopened name => exact .of_staged name h.committed h.committed (Int.le_refl _)
  | @creates name staged hopened n =>
    have hstaged := h.staged name staged hopened
    have hroom := hspare.staged hopened
    have hahead := h.ahead name staged hopened
    have hnext : (staged.insert n).2.lastId.toInt = staged.lastId.toInt + 1 :=
      toInt_next hroom.toInt_lt
    exact .of_staged name h.committed (hstaged.insert hroom n) (by omega)
  | @updates name staged hopened n row hrow =>
    exact .of_staged name h.committed ((h.staged name staged hopened).put hrow)
      (h.ahead name staged hopened)
  | @commits name staged hopened => exact .of_committed (h.staged name staged hopened)
  | givesUp hopened => exact .of_committed h.committed

theorem Sound.call {g : Guarded} (h : g.Sound) (hspare : g.Spare) (c : Call) :
    (g.call c).2.Sound := h.changes hspare (changes_call g c)

/-- Answers calls one after another. -/
def run (g : Guarded) (calls : List Call) : Guarded := calls.foldl (fun g c => (g.call c).2) g

/-- Identities last until each of the calls has begun. -/
def Lasts : Guarded → List Call → Prop
  | _, [] => True
  | g, c :: cs => g.Spare ∧ (g.call c).2.Lasts cs

instance decidableLasts : (g : Guarded) → (calls : List Call) → Decidable (g.Lasts calls)
  | _, [] => .isTrue trivial
  | g, c :: cs =>
    have := decidableLasts (g.call c).2 cs
    inferInstanceAs (Decidable (g.Spare ∧ (g.call c).2.Lasts cs))

theorem Sound.run {g : Guarded} {calls : List Call} (h : g.Sound) (hlasts : g.Lasts calls) :
    (g.run calls).Sound := by
  induction calls generalizing g with
  | nil => exact h
  | cons c cs ih =>
    obtain ⟨hspare, hrest⟩ := hlasts
    exact ih (h.call hspare c) hrest

/-! ## What calls find and leave -/

/-- The identities of the committed rows, and of the rows of the copy. -/
def ids (g : Guarded) : List NoticeId × Option (List NoticeId) :=
  (g.committed.rows.keys, g.opened.map fun (_, staged) => staged.rows.keys)

/-- A creation in a transaction answers an identity that no row has, and adds one row. -/
def Adds (g : Guarded) (name : String) (staged : Store) (n : Notice) : Prop :=
  ∃ id staged', g.call (.createIn name n) =
      (.row { n with id := id }, ⟨g.committed, some (name, staged')⟩) ∧
    g.committed.rows.find? id = none ∧ staged.rows.find? id = none ∧
    staged'.rows.Perm ((id, { n with id := id }) :: staged.rows)

/-- A call answers the number of rows of a store about a booking, and does nothing. -/
def Counts (g : Guarded) (c : Call) (s : Store) (booking : BookingId) : Prop :=
  ∃ k : Nat, g.call c = (.number k, g) ∧ (s.about booking).encard = k

section Sound

variable {g : Guarded} {name : String} {staged : Store}

theorem Sound.adds (h : g.Sound) (hopened : g.opened = some (name, staged))
    (hspare : staged.Spare) (n : Notice) : g.Adds name staged n := by
  have hnext : NoticeId.toInt ⟨staged.lastId + 1⟩ = staged.lastId.toInt + 1 :=
    toInt_next hspare.toInt_lt
  have hahead := h.ahead name staged hopened
  -- identities of rows are not beyond the last one of their store
  have hfree {s : Store} (hs : s.WellKept) (hle : s.lastId.toInt ≤ staged.lastId.toInt) :
      s.rows.find? ⟨staged.lastId + 1⟩ = none := by
    refine Option.eq_none_iff_forall_ne_some.mpr fun m hm => ?_
    have hbefore := (hs.ids _ m hm).2
    omega
  have hroom := hfree (h.staged name staged hopened) (Int.le_refl _)
  have hcall : g.call (.createIn name n) =
      (.row (staged.insert n).1, ⟨g.committed, some (name, (staged.insert n).2)⟩) := by
    unfold Guarded.call
    exact inside_of_opened hopened
  exact ⟨⟨staged.lastId + 1⟩, (staged.insert n).2, hcall, hfree h.committed hahead, hroom,
    Table.insert_perm_of_find?_none hroom⟩

theorem Sound.ids_updateIn (h : g.Sound) (name : String) (n : Notice) :
    (g.call (.updateIn name n)).2.ids = g.ids := by
  rcases updateIn_cases g name n with hsame | ⟨staged, row, hopened, -, hrow, hput⟩
  · rw [hsame]
  · have hkeys := keys_put (h.staged name staged hopened).sorted hrow
    rw [hput]
    unfold ids
    rw [hopened]
    exact congrArg (g.committed.rows.keys, some ·) hkeys

theorem Sound.ids_resolve (h : g.Sound) (n : Notice) (claimedAt : Timestamp) :
    (g.call (.resolve n claimedAt)).2.ids = g.ids := by
  rcases resolve_cases g n claimedAt with hsame | ⟨row, hopened, -, hrow, hput⟩
  · rw [hsame]
  · have hkeys := keys_put h.committed.sorted hrow
    rw [hput]
    unfold ids
    rw [hopened]
    exact congrArg (·, none) hkeys

/-- Nothing is done to a row that is not there. -/
theorem updateIn_eq_self {n : Notice} (h : n.id.toInt ≤ 0 ∨
      ∀ staged, g.opened = some (name, staged) → staged.rows.find? n.id = none) :
    (g.call (.updateIn name n)).2 = g := by
  rcases updateIn_cases g name n with hsame | ⟨staged, row, hopened, hpositive, hrow, -⟩
  · exact hsame
  · rcases h with hunset | hunknown
    · omega
    · rw [hunknown staged hopened] at hrow
      cases hrow

theorem resolve_eq_self {n : Notice} (claimedAt : Timestamp)
    (h : n.id.toInt ≤ 0 ∨ g.committed.rows.find? n.id = none) :
    (g.call (.resolve n claimedAt)).2 = g := by
  rcases resolve_cases g n claimedAt with hsame | ⟨row, -, hpositive, hrow, -⟩
  · exact hsame
  · rcases h with hunset | hunknown
    · omega
    · rw [hunknown] at hrow
      cases hrow

theorem Sound.counts (h : g.Sound) (hopened : g.opened = none) (booking : BookingId) :
    g.Counts (.count booking) g.committed booking := by
  have hcall : g.call (.count booking) = (.number (g.committed.count booking), g) := by
    unfold Guarded.call
    refine (locked_of_free hopened).trans ?_
    rw [← hopened]
  exact ⟨g.committed.count booking, hcall, encard_about h.committed.sorted booking⟩

theorem Sound.counts_staged (h : g.Sound) (hopened : g.opened = some (name, staged))
    (booking : BookingId) : g.Counts (.countIn name booking) staged booking := by
  have hcall : g.call (.countIn name booking) = (.number (staged.count booking), g) := by
    unfold Guarded.call
    refine (inside_of_opened hopened).trans ?_
    rw [← hopened]
  have hstaged := h.staged name staged hopened
  exact ⟨staged.count booking, hcall, encard_about hstaged.sorted booking⟩

end Sound

/-- After any calls on an empty store, as long as identities last, both the committed store and the
copy in a transaction have each row under its own identity, which is positive and not beyond the
last one given out. A creation answers an identity that no row has, and adds one row. An update in a
transaction and the outcome of a claim add and remove no row, and do nothing if their row has no
identity or is not there. A count is the number of rows about the booking. -/
theorem calls_keep_rows {calls : List Call} {g : Guarded} (hlasts : Lasts {} calls)
    (hg : run {} calls = g) :
    g.Sound ∧
    (∀ name staged n, g.opened = some (name, staged) → staged.Spare → g.Adds name staged n) ∧
    (∀ name n, (g.call (.updateIn name n)).2.ids = g.ids ∧
      ((n.id.toInt ≤ 0 ∨
          ∀ staged, g.opened = some (name, staged) → staged.rows.find? n.id = none) →
        (g.call (.updateIn name n)).2 = g)) ∧
    (∀ n claimedAt, (g.call (.resolve n claimedAt)).2.ids = g.ids ∧
      (n.id.toInt ≤ 0 ∨ g.committed.rows.find? n.id = none →
        (g.call (.resolve n claimedAt)).2 = g)) ∧
    (∀ booking, g.opened = none → g.Counts (.count booking) g.committed booking) ∧
    (∀ name staged booking, g.opened = some (name, staged) →
      g.Counts (.countIn name booking) staged booking) := by
  have hsound : g.Sound := hg ▸ Sound.empty.run hlasts
  exact ⟨hsound, fun name staged n hopened hspare => hsound.adds hopened hspare n,
    fun name n => ⟨hsound.ids_updateIn name n, updateIn_eq_self⟩,
    fun n claimedAt => ⟨hsound.ids_resolve n claimedAt, resolve_eq_self claimedAt⟩,
    fun booking hopened => hsound.counts hopened booking,
    fun name staged booking hopened => hsound.counts_staged hopened booking⟩

/-- A claimed row that is there from the first, a creation that is given up, one that is committed,
and one that is neither yet. -/
theorem rows_of_seeded_store :
    let new := Notice.pending ⟨42⟩ ⟨0, 0⟩
    let first : Notice := { new with id := ⟨5⟩, status := .processing }
    let calls : List Call := [.seed first, .begin "a", .createIn "a" new, .rollback "a",
      .resolve { first with status := .failed } ⟨0, 0⟩, .begin "b", .createIn "b" new,
      .updateIn "b" { new with id := ⟨6⟩, status := .processing }, .commit "b", .begin "c",
      .createIn "c" new]
    ∃ g staged, Lasts {} calls ∧ run {} calls = g ∧ g.opened = some ("c", staged) ∧
      staged.Spare ∧ g.ids = ([⟨5⟩, ⟨6⟩], some [⟨5⟩, ⟨6⟩, ⟨7⟩]) ∧ g.Sound ∧
      g.Adds "c" staged new ∧ g.Counts (.countIn "c" ⟨42⟩) staged ⟨42⟩ := by
  intro new first calls
  have hlasts : Lasts {} calls := by decide
  have hids : (run {} calls).ids = ([⟨5⟩, ⟨6⟩], some [⟨5⟩, ⟨6⟩, ⟨7⟩]) := by decide
  obtain ⟨g, hg⟩ : ∃ g, run {} calls = g := ⟨_, rfl⟩
  obtain ⟨staged, hopened, hspare⟩ :
      ∃ staged, g.opened = some ("c", staged) ∧ staged.Spare := by
    subst hg
    exact ⟨_, rfl, by decide⟩
  obtain ⟨hsound, hcreate, -, -, -, hcount⟩ := calls_keep_rows hlasts hg
  exact ⟨g, staged, hlasts, hg, hopened, hspare, hg ▸ hids, hsound,
    hcreate "c" staged new hopened hspare, hcount "c" staged ⟨42⟩ hopened⟩

end Guarded

end BookingNotices.Store
