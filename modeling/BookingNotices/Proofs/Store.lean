import BookingNotices.Proofs.Table
import BookingNotices.Store.Basic

/-!
# How the store may change

* `Notice.Follows`   : what may become of a row: its identity, booking and creation stay, its status
  never goes back, and a final row is frozen;
* `Store.Keyed`      : every row is filed under its own identity;
* `Store.put`        : the store with a row in place of the one of its identity; `overwrite` and
  `resolve` store nothing else (`overwrite_eq_ok`, `resolve_eq_some`);
* `Store.Evolves`    : no row is lost, and each follows what it was.
-/

namespace BookingNotices

/-- An identity is given out exactly if it is positive. -/
theorem NoticeId.isUnset_eq_false_iff {id : NoticeId} : id.isUnset = false ↔ 0 < id.toInt := by
  unfold NoticeId.isUnset NoticeId.toInt
  rw [decide_eq_false_iff_not, Int64.le_iff_toInt_le]
  exact Int.not_le

namespace Notice

/-- How far a status is from the first one. -/
def Status.rank : Status → Nat
  | .pending => 0
  | .processing => 1
  | .success => 2
  | .failed => 2

theorem Status.isFinal_iff (s : Status) : s.isFinal = true ↔ s = .success ∨ s = .failed := by
  cases s <;> decide

/-- Two versions of one notice. -/
structure Kin (n n' : Notice) : Prop where
  id : n'.id = n.id
  booking : n'.booking = n.booking
  created : n'.created = n.created

theorem Kin.refl (n : Notice) : Kin n n := ⟨rfl, rfl, rfl⟩

theorem Kin.trans {a b c : Notice} (h₁ : Kin a b) (h₂ : Kin b c) : Kin a c :=
  ⟨h₂.id.trans h₁.id, h₂.booking.trans h₁.booking, h₂.created.trans h₁.created⟩

theorem Kin.symm {a b : Notice} (h : Kin a b) : Kin b a :=
  ⟨h.id.symm, h.booking.symm, h.created.symm⟩

/-- What may become of a row. -/
structure Follows (n n' : Notice) : Prop extends Kin n n' where
  rank : n.status.rank ≤ n'.status.rank
  final : n.status.isFinal = true → n' = n

theorem Follows.refl (n : Notice) : Follows n n := ⟨Kin.refl n, Nat.le_refl _, fun _ => rfl⟩

theorem Follows.trans {a b c : Notice} (h₁ : Follows a b) (h₂ : Follows b c) : Follows a c := by
  refine ⟨h₁.toKin.trans h₂.toKin, Nat.le_trans h₁.rank h₂.rank, fun hfin => ?_⟩
  have hab : b = a := h₁.final hfin
  have hbc : c = b := h₂.final (hab ▸ hfin)
  rw [hbc, hab]

theorem Follows.pending {n n' : Notice} (h : Follows n n') (hn : n'.status = .pending) :
    n.status = .pending := by
  have hrank := h.rank
  rw [hn] at hrank
  cases hstatus : n.status with
  | pending => rfl
  | _ =>
    rw [hstatus] at hrank
    exact absurd hrank (by decide)

/-- A row that is not final may become any version of a status that is not before its own. -/
theorem Follows.of_kin {n n' : Notice} (hk : Kin n n') (hr : n.status.rank ≤ n'.status.rank)
    (ho : n.status = .pending ∨ n.status = .processing) : Follows n n' := by
  refine ⟨hk, hr, fun hfin => ?_⟩
  rcases ho with ho | ho <;> rw [ho] at hfin <;> cases hfin

end Notice

namespace Store

/-- Every row is filed under its own identity. -/
def Keyed (s : Store) : Prop := ∀ id n, s.rows.find? id = some n → n.id = id

theorem Keyed.empty : Keyed {} := fun _ _ h => nomatch h

/-- The store with a row in place of the one of its identity. -/
def put (s : Store) (n : Notice) : Store := { s with rows := s.rows.insert n.id n }

theorem find?_put (s : Store) (n : Notice) (id : NoticeId) :
    (s.put n).rows.find? id = if n.id = id then some n else s.rows.find? id :=
  Table.find?_insert n.id id n s.rows

theorem find?_put_self (s : Store) (n : Notice) : (s.put n).rows.find? n.id = some n := by
  rw [find?_put, if_pos rfl]

theorem find?_put_of_ne {n : Notice} {id : NoticeId} (h : id ≠ n.id) (s : Store) :
    (s.put n).rows.find? id = s.rows.find? id := by
  rw [find?_put, if_neg h.symm]

/-- A row is the one that was just written, or was there before. -/
theorem find?_put_cases {s : Store} {n m : Notice} {id : NoticeId}
    (h : (s.put n).rows.find? id = some m) :
    (id = n.id ∧ m = n) ∨ (id ≠ n.id ∧ s.rows.find? id = some m) := by
  by_cases hid : id = n.id
  · subst hid
    rw [find?_put_self] at h
    cases h
    exact Or.inl ⟨rfl, rfl⟩
  · rw [find?_put_of_ne hid] at h
    exact Or.inr ⟨hid, h⟩

/-- A row that is written twice is as it was written last. -/
theorem put_put (s : Store) {n m : Notice} (h : n.id = m.id) : (s.put n).put m = s.put m := by
  unfold put
  rw [h, Table.insert_insert]

theorem Keyed.put {s : Store} (h : s.Keyed) (n : Notice) : (s.put n).Keyed := by
  intro id m hm
  rcases find?_put_cases hm with ⟨rfl, rfl⟩ | ⟨-, hm⟩
  · rfl
  · exact h id m hm

/-! ## What the calls store -/

theorem get_eq_ok {s : Store} {id : NoticeId} {n : Notice} :
    s.get id = .ok n ↔ s.rows.find? id = some n := by
  unfold get
  split
  · rename_i m hm
    rw [hm]
    simp
  · rename_i hm
    rw [hm]
    simp

theorem overwrite_eq_ok {s s' : Store} {n : Notice} (h : s.overwrite n = .ok s') :
    n.id.isUnset = false ∧ (∃ row, s.rows.find? n.id = some row) ∧ s' = s.put n := by
  unfold overwrite at h
  split at h
  · cases h
  · rename_i hset
    split at h
    · rename_i hhas
      cases h
      exact ⟨by simpa using hset, Option.isSome_iff_exists.mp hhas, rfl⟩
    · cases h

theorem claimHolds_iff {s : Store} {id : NoticeId} {since : Timestamp} :
    s.claimHolds id since = true ↔
      ∃ row, s.rows.find? id = some row ∧ row.status = .processing ∧ row.updated = since := by
  unfold claimHolds
  split
  · rename_i row hrow
    rw [hrow]
    simp
  · rename_i hrow
    rw [hrow]
    simp

/-- The outcome of a claim is stored exactly when the claim holds. -/
theorem resolve_eq_some {s s' : Store} {n : Notice} {since : Timestamp}
    (h : s.resolve n since = .ok (some s')) :
    n.id.isUnset = false ∧ s' = s.put n ∧
      ∃ row, s.rows.find? n.id = some row ∧ row.status = .processing ∧ row.updated = since := by
  unfold resolve at h
  split at h
  · cases h
  · split at h
    · rename_i hclaim
      cases ho : s.overwrite n with
      | error f => rw [ho] at h; cases h
      | ok t =>
        rw [ho] at h
        cases h
        obtain ⟨hset, _, rfl⟩ := overwrite_eq_ok ho
        exact ⟨hset, rfl, claimHolds_iff.mp hclaim⟩
    · cases h

theorem resolve_of_claimHolds {s : Store} {n : Notice} {since : Timestamp}
    (hset : n.id.isUnset = false) (hclaim : s.claimHolds n.id since = true) :
    s.resolve n since = .ok (some (s.put n)) := by
  obtain ⟨row, hrow, -⟩ := claimHolds_iff.mp hclaim
  have hhas : s.rows.has n.id = true := by
    unfold Table.has
    rw [hrow]
    rfl
  unfold resolve overwrite
  rw [hset, hclaim, hhas]
  rfl

/-- A claim that is lost stores nothing. -/
theorem resolve_eq_none {s : Store} {n : Notice} {since : Timestamp}
    (hset : n.id.isUnset = false) (hlost : s.claimHolds n.id since = false) :
    s.resolve n since = .ok none := by
  unfold resolve
  rw [hset, hlost]
  rfl

/-! ## Evolution -/

/-- No row is lost, and each follows what it was. -/
def Evolves (s s' : Store) : Prop :=
  ∀ id n, s.rows.find? id = some n → ∃ n', s'.rows.find? id = some n' ∧ n.Follows n'

theorem Evolves.refl (s : Store) : s.Evolves s := fun _ n h => ⟨n, h, Notice.Follows.refl n⟩

theorem Evolves.of_eq {s s' : Store} (h : s' = s) : s.Evolves s' := h ▸ Evolves.refl s

theorem Evolves.trans {a b c : Store} (h₁ : a.Evolves b) (h₂ : b.Evolves c) : a.Evolves c := by
  intro id n hn
  obtain ⟨m, hm, hnm⟩ := h₁ id n hn
  obtain ⟨k, hk, hmk⟩ := h₂ id m hm
  exact ⟨k, hk, hnm.trans hmk⟩

theorem Evolves.put {s : Store} {row n : Notice} (hrow : s.rows.find? n.id = some row)
    (hf : row.Follows n) : s.Evolves (s.put n) := by
  intro id m hm
  rw [find?_put]
  split
  · rename_i hid
    subst hid
    rw [hrow] at hm
    cases hm
    exact ⟨n, rfl, hf⟩
  · exact ⟨m, hm, Notice.Follows.refl m⟩

/-- A final row stays as it is. -/
theorem Evolves.final {s s' : Store} (h : s.Evolves s') {id : NoticeId} {n : Notice}
    (hn : s.rows.find? id = some n) (hfin : n.status.isFinal = true) :
    s'.rows.find? id = some n := by
  obtain ⟨n', hn', hf⟩ := h id n hn
  rw [hn', hf.final hfin]

/-! ## New rows -/

/-- The word after one that is not the largest. -/
theorem toInt_next {k : Int64} (h : k.toInt < 9223372036854775807) :
    (k + 1).toInt = k.toInt + 1 := by
  have hle := k.le_toInt
  rw [Int64.toInt_add]
  exact Int.bmod_eq_of_le (by simp; omega) (by simp; omega)

/-- The next identity is free. -/
def Roomy (s : Store) : Prop := s.rows.find? ⟨s.lastId + 1⟩ = none

theorem find?_insert (s : Store) (n : Notice) (id : NoticeId) :
    (s.insert n).2.rows.find? id =
      if (⟨s.lastId + 1⟩ : NoticeId) = id then some { n with id := ⟨s.lastId + 1⟩ }
      else s.rows.find? id :=
  Table.find?_insert _ id _ s.rows

theorem find?_insert_self (s : Store) (n : Notice) :
    (s.insert n).2.rows.find? ⟨s.lastId + 1⟩ = some { n with id := ⟨s.lastId + 1⟩ } := by
  rw [find?_insert, if_pos rfl]

/-- A row is the new one, or was there before. -/
theorem find?_insert_cases {s : Store} {n m : Notice} {id : NoticeId}
    (h : (s.insert n).2.rows.find? id = some m) :
    (id = ⟨s.lastId + 1⟩ ∧ m = { n with id := ⟨s.lastId + 1⟩ }) ∨ s.rows.find? id = some m := by
  rw [find?_insert] at h
  split at h
  · rename_i hid
    cases h
    exact Or.inl ⟨hid.symm, rfl⟩
  · exact Or.inr h

/-- A new row takes no other row's place. -/
theorem Roomy.find?_insert {s : Store} (h : s.Roomy) (n : Notice) {id : NoticeId} {m : Notice}
    (hm : s.rows.find? id = some m) : (s.insert n).2.rows.find? id = some m := by
  rw [Store.find?_insert, if_neg]
  · exact hm
  · rintro rfl
    rw [h] at hm
    cases hm

theorem Keyed.insert {s : Store} (h : s.Keyed) (n : Notice) : (s.insert n).2.Keyed := by
  intro id m hm
  rcases find?_insert_cases hm with ⟨rfl, rfl⟩ | hm
  · rfl
  · exact h id m hm

/-- Rows that are there from the first are filed under their own identity, too. -/
theorem Keyed.seed {s : Store} (h : s.Keyed) (n : Notice) : (s.seed n).2.Keyed := by
  unfold Store.seed
  split
  · exact h.insert n
  · intro id m hm
    rw [Table.find?_insert] at hm
    split at hm
    · rename_i hid
      cases hm
      exact hid
    · exact h id m hm

theorem Evolves.insert {s : Store} (h : s.Roomy) (n : Notice) : s.Evolves (s.insert n).2 :=
  fun _ m hm => ⟨m, h.find?_insert n hm, Notice.Follows.refl m⟩

end Store

end BookingNotices
