import BookingNotices.Proofs.Creation

/-!
# Room for new rows

* `Store.Filed`  : every row is filed under its own identity, none beyond the last one given out; so
  are rows that are there from the first (`Filed.seed`, `Filed.insert`);
* `Store.Grown`  : a store that has grown out of another by one row for each of some bookings, while
  rows were rewritten (`Grown.put`, `Grown.insert`);
* `Grown.roomy`  : the next identity is free then, even if identities have to begin again below
  zero.

A creation finds no row of its booking, so no booking gets two new rows. There are far fewer
bookings than identities.
-/

namespace BookingNotices.Store

/-! ## Well-kept stores -/

/-- Every row is filed under its own identity, none beyond the last one given out. -/
structure Filed (s : Store) : Prop where
  keyed : s.Keyed
  last : 0 ≤ s.lastId.toInt
  ids : ∀ id n, s.rows.find? id = some n → 0 < id.toInt ∧ id.toInt ≤ s.lastId.toInt

theorem Filed.empty : Filed {} := ⟨Keyed.empty, Int.le_refl 0, fun _ _ h => nomatch h⟩

theorem sorted_seed {s : Store} (h : s.rows.Sorted) (n : Notice) : (s.seed n).2.rows.Sorted := by
  unfold Store.seed
  split <;> exact Table.Sorted.insert h

/-- A row that is there from the first, with an identity of its own. -/
theorem Filed.seed {s : Store} (h : s.Filed) {n : Notice} (hset : n.id.isUnset = false) :
    (s.seed n).2.Filed := by
  have hpositive := NoticeId.isUnset_eq_false_iff.mp hset
  have hlast : (s.seed n).2.lastId = if s.lastId ≤ n.id.value then n.id.value else s.lastId := by
    unfold Store.seed
    rw [hset]
    rfl
  have hmax : s.lastId.toInt ≤ (s.seed n).2.lastId.toInt ∧
      n.id.toInt ≤ (s.seed n).2.lastId.toInt := by
    rw [hlast]
    split
    · rename_i hle
      exact ⟨Int64.le_iff_toInt_le.mp hle, Int.le_refl _⟩
    · rename_i hnot
      rw [Int64.le_iff_toInt_le] at hnot
      exact ⟨Int.le_refl _, Int.le_of_lt (Int.not_le.mp hnot)⟩
  refine ⟨h.keyed.seed n, Int.le_trans h.last hmax.1, fun id m hm => ?_⟩
  have hrows : (s.seed n).2.rows = s.rows.insert n.id n := by
    unfold Store.seed
    rw [hset]
    rfl
  rw [hrows, Table.find?_insert] at hm
  split at hm
  · rename_i hid
    subst hid
    exact ⟨hpositive, hmax.2⟩
  · obtain ⟨hpos, hle⟩ := h.ids id m hm
    exact ⟨hpos, Int.le_trans hle hmax.1⟩

/-- So is a new row, as long as identities last. -/
theorem Filed.insert {s : Store} (h : s.Filed) (hlast : s.lastId.toInt < 9223372036854775807)
    (n : Notice) : (s.insert n).2.Filed := by
  have hpositive := h.last
  have hnext : (s.insert n).2.lastId.toInt = s.lastId.toInt + 1 := toInt_next hlast
  refine ⟨h.keyed.insert n, by omega, fun id m hm => ?_⟩
  rcases find?_insert_cases hm with ⟨rfl, -⟩ | hm
  · have hid : NoticeId.toInt ⟨s.lastId + 1⟩ = s.lastId.toInt + 1 := hnext
    omega
  · have := h.ids id m hm
    omega

/-! ## Growth -/

/-- A store that has grown out of another by one row for each of these bookings. -/
structure Grown (s₀ s : Store) (made : List BookingId) : Prop where
  once : made.Nodup
  last : s.lastId = s₀.lastId + Int64.ofNat made.length
  ids : ∀ id n, s.rows.find? id = some n → (∃ n₀, s₀.rows.find? id = some n₀) ∨
    ∃ k, 0 < k ∧ k ≤ made.length ∧ id.value = s₀.lastId + Int64.ofNat k
  kept : ∀ b ∈ made, ∃ id n, s.rows.find? id = some n ∧ n.booking = b

theorem Grown.refl (s : Store) : Grown s s [] :=
  ⟨List.nodup_nil, (Int64.add_zero _).symm, fun _ n h => Or.inl ⟨n, h⟩, fun _ h => nomatch h⟩

/-- Rows are rewritten, but keep their bookings. -/
theorem Grown.put {s₀ s : Store} {made : List BookingId} (h : Grown s₀ s made) {row n : Notice}
    (hrow : s.rows.find? n.id = some row) (hbooking : n.booking = row.booking) :
    Grown s₀ (s.put n) made := by
  refine ⟨h.once, h.last, fun id m hm => ?_, fun b hb => ?_⟩
  · rcases find?_put_cases hm with ⟨rfl, -⟩ | ⟨-, hm⟩
    · exact h.ids n.id row hrow
    · exact h.ids id m hm
  · obtain ⟨id, m, hm, rfl⟩ := h.kept b hb
    by_cases hid : id = n.id
    · subst hid
      rw [hrow] at hm
      cases hm
      exact ⟨n.id, n, find?_put_self s n, hbooking⟩
    · exact ⟨id, m, (find?_put_of_ne hid s).trans hm, rfl⟩

section Room

variable {s₀ s : Store} {made : List BookingId}

/-- The identity of the next row, as the old store counts. -/
theorem Grown.next (h : Grown s₀ s made) :
    s.lastId + 1 = s₀.lastId + Int64.ofNat (made.length + 1) := by
  rw [h.last, Int64.ofNat_add, Int64.add_assoc]
  rfl

/-- The next identity is free. -/
theorem Grown.roomy (h : Grown s₀ s made) (hfiled : s₀.Filed) : s.Roomy := by
  unfold Roomy
  have hle := BookingId.length_le_of_nodup h.once
  have toInt_ofNat {k : Nat} (hk : k ≤ made.length + 1) : (Int64.ofNat k).toInt = k :=
    Int64.toInt_ofNat_of_lt (by omega)
  have hlast := s₀.lastId.toInt_lt
  have hlast₀ := hfiled.last
  rw [h.next]
  refine Option.eq_none_iff_forall_ne_some.mpr fun n hn => ?_
  rcases h.ids _ n hn with ⟨n₀, hn₀⟩ | ⟨k, hpos, hk, hid⟩
  · -- the sum is beyond the last identity of the old store, or has passed the largest word
    obtain ⟨hpositive, hbefore⟩ := hfiled.ids _ n₀ hn₀
    have hsum : (s₀.lastId + Int64.ofNat (made.length + 1)).toInt =
        (s₀.lastId.toInt + (made.length + 1 : Nat)).bmod (2 ^ 64) := by
      rw [Int64.toInt_add, toInt_ofNat (Nat.le_refl _)]
    unfold NoticeId.toInt at hpositive hbefore
    dsimp only at hpositive hbefore
    rw [hsum, Int.bmod_def] at hpositive hbefore
    split at hpositive <;> omega
  · -- two of the new rows would have one identity
    dsimp only at hid
    have heq := congrArg Int64.toInt ((Int64.add_right_inj _).mp hid)
    rw [toInt_ofNat (Nat.le_refl _), toInt_ofNat (Nat.le_succ_of_le hk)] at heq
    omega

theorem Grown.insert (h : Grown s₀ s made) (hfiled : s₀.Filed) {n : Notice}
    (hnew : s.count n.booking = 0) : Grown s₀ (s.insert n).2 (n.booking :: made) := by
  have hroom := h.roomy hfiled
  refine ⟨List.nodup_cons.mpr ⟨fun hmem => ?_, h.once⟩, h.next, fun id m hm => ?_, fun b hb => ?_⟩
  · obtain ⟨id, m, hm, hbooking⟩ := h.kept _ hmem
    have := count_pos hm
    rw [hbooking] at this
    omega
  · rcases find?_insert_cases hm with ⟨rfl, -⟩ | hm
    · exact Or.inr ⟨made.length + 1, Nat.succ_pos _, Nat.le_refl _, h.next⟩
    · refine (h.ids id m hm).imp_right ?_
      rintro ⟨k, hpos, hk, hid⟩
      exact ⟨k, hpos, Nat.le_succ_of_le hk, hid⟩
  · rcases List.mem_cons.mp hb with rfl | hb
    · exact ⟨⟨s.lastId + 1⟩, { n with id := ⟨s.lastId + 1⟩ }, find?_insert_self s n, rfl⟩
    · obtain ⟨id, m, hm, hbooking⟩ := h.kept b hb
      exact ⟨id, m, hroom.find?_insert n hm, hbooking⟩

end Room

end BookingNotices.Store
