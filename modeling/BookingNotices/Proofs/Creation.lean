import BookingNotices.Proofs.Announcement
import BookingNotices.Service.Consumer

/-!
# One row for a booking

* `Store.Sound`         : a store that only creations have filled: identities are given out one
  after the other, and no booking has two rows;
* `Sound.roomy`         : the next identity is free, because there are fewer bookings than
  identities;
* `Sound.filter_booking`, `Sound.id_inj` : the row of a booking is its only one;
* `Sound.put`, `Sound.create` : rewriting a row and creating one keep a store sound;
* `create_of_count_pos`, `create_of_count_zero` : over a store that does not fail, a booking that
  has a row gets no other and nothing is published, and a booking that has none gets one exactly if
  it is announced.
-/

namespace BookingNotices

/-- There are no more bookings than identities of bookings. -/
theorem BookingId.length_le_of_nodup {bookings : List BookingId} (h : bookings.Nodup) :
    bookings.length ≤ 4294967296 := by
  have hnodup : (bookings.map BookingId.toNat).Nodup := by
    refine (List.pairwise_map.mpr ?_ : (bookings.map BookingId.toNat).Pairwise (· ≠ ·))
    refine h.imp fun hne heq => hne ?_
    rename_i a b
    cases a
    cases b
    exact congrArg BookingId.mk (UInt32.toNat_inj.mp heq)
  have hsub : bookings.map BookingId.toNat ⊆ List.range 4294967296 := by
    intro n hn
    obtain ⟨b, -, rfl⟩ := List.mem_map.mp hn
    exact List.mem_range.mpr b.value.toNat_lt
  have hle := hnodup.length_le_of_subset hsub
  rwa [List.length_map, List.length_range] at hle

namespace Store

/-- The bookings of the rows. -/
def bookings (s : Store) : List BookingId := s.rows.map fun e => e.2.booking

theorem count_eq (s : Store) (booking : BookingId) :
    s.count booking = s.bookings.count booking := by
  unfold count bookings
  rw [List.count, List.countP_map]
  refine List.countP_congr fun e _ => ?_
  simp

theorem count_pos {s : Store} {id : NoticeId} {n : Notice} (h : s.rows.find? id = some n) :
    0 < s.count n.booking :=
  List.countP_pos_iff.mpr ⟨(id, n), Table.find?_mem h, by simp⟩

/-- A store that only creations have filled. -/
structure Sound (s : Store) : Prop where
  keyed : s.Keyed
  sorted : s.rows.Sorted
  last : s.lastId.toInt = s.rows.length
  ids : ∀ e ∈ s.rows, 0 < e.1.toInt ∧ e.1.toInt ≤ s.rows.length
  once : s.bookings.Nodup

theorem Sound.empty : Sound {} :=
  ⟨(fun _ _ h => nomatch h), Table.Sorted.nil, rfl, (fun _ h => nomatch h), List.nodup_nil⟩

/-- A row is the only one of its booking. -/
theorem Sound.filter_booking {s : Store} (h : s.Sound) {id : NoticeId} {n : Notice}
    (hrow : s.rows.find? id = some n) :
    (s.rows.filter fun e => e.2.booking = n.booking) = [(id, n)] := by
  have hmem : (id, n) ∈ s.rows.filter fun e => e.2.booking = n.booking :=
    List.mem_filter.mpr ⟨Table.find?_mem hrow, by simp⟩
  have hlength : (s.rows.filter fun e => e.2.booking = n.booking).length ≤ 1 := by
    rw [← List.countP_eq_length_filter]
    exact Nat.le_trans (Nat.le_of_eq (count_eq s n.booking))
      (List.nodup_iff_count.mp h.once n.booking)
  generalize (s.rows.filter fun e => e.2.booking = n.booking) = entries at hmem hlength
  match entries, hlength with
  | [e], _ => rw [List.mem_singleton.mp hmem]

theorem Sound.id_inj {s : Store} (h : s.Sound) {i j : NoticeId} {n m : Notice}
    (hn : s.rows.find? i = some n) (hm : s.rows.find? j = some m)
    (hbooking : n.booking = m.booking) : i = j := by
  have hfilter := h.filter_booking hn
  rw [hbooking, h.filter_booking hm] at hfilter
  cases hfilter
  rfl

/-- There are no more rows than bookings. -/
theorem Sound.length_le {s : Store} (h : s.Sound) : s.rows.length ≤ 4294967296 := by
  have hle := BookingId.length_le_of_nodup h.once
  unfold bookings at hle
  rwa [List.length_map] at hle

/-- The identity of the next row. -/
theorem Sound.toInt_next {s : Store} (h : s.Sound) :
    (s.lastId + 1).toInt = s.rows.length + 1 := by
  have hle := h.length_le
  have hlast := h.last
  rw [Store.toInt_next (by omega), hlast]

/-- The next identity is free. -/
theorem Sound.roomy {s : Store} (h : s.Sound) : s.Roomy := by
  unfold Roomy
  rw [Table.find?_eq_none_iff]
  intro e he hid
  have hle := (h.ids e he).2
  have hnext := h.toInt_next
  rw [hid] at hle
  unfold NoticeId.toInt at hle
  dsimp only at hle
  omega

theorem bookings_put {s : Store} (hsorted : s.rows.Sorted) {row n : Notice}
    (hrow : s.rows.find? n.id = some row) (hbooking : n.booking = row.booking) :
    (s.put n).bookings = s.bookings :=
  Table.map_insert_of_find? hbooking hsorted hrow

theorem Sound.put {s : Store} (h : s.Sound) {row n : Notice}
    (hrow : s.rows.find? n.id = some row) (hbooking : n.booking = row.booking) :
    (s.put n).Sound := by
  have hbookings := bookings_put h.sorted hrow hbooking
  have hlength : (s.put n).rows.length = s.rows.length := by
    have := congrArg List.length hbookings
    unfold bookings at this
    rwa [List.length_map, List.length_map] at this
  refine ⟨h.keyed.put n, h.sorted.insert, ?_, fun e he => ?_, ?_⟩
  · rw [hlength]
    exact h.last
  · rw [hlength]
    rcases Table.mem_insert he with rfl | he
    · exact h.ids (n.id, row) (Table.find?_mem hrow)
    · exact h.ids e he
  · rw [hbookings]
    exact h.once

theorem bookings_insert {s : Store} (h : s.Sound) (n : Notice) :
    (s.insert n).2.bookings.Perm (n.booking :: s.bookings) :=
  (Table.insert_perm_of_find?_none h.roomy).map _

theorem Sound.insert {s : Store} (h : s.Sound) {n : Notice} (hnew : s.count n.booking = 0) :
    (s.insert n).2.Sound := by
  have hperm := bookings_insert h n
  have hnext := h.toInt_next
  have hlength : (s.insert n).2.rows.length = s.rows.length + 1 := by
    have := hperm.length_eq
    unfold bookings at this
    rwa [List.length_map, List.length_cons, List.length_map] at this
  refine ⟨h.keyed.insert n, h.sorted.insert, ?_, fun e he => ?_, ?_⟩
  · rw [hlength]
    exact hnext
  · rw [hlength]
    rcases Table.mem_insert he with rfl | he
    · unfold NoticeId.toInt
      dsimp only
      omega
    · have := h.ids e he
      omega
  · rw [hperm.nodup_iff]
    refine List.nodup_cons.mpr ⟨fun hmem => ?_, h.once⟩
    rw [count_eq] at hnew
    have := List.count_pos_iff.mpr hmem
    omega

end Store

/-! ## Creating a row -/

/-- The row of a booking that has none is created exactly if it can be announced. -/
theorem Transaction.create_apply {w : World} (h : w.Reliable) {s : Store} {booking : BookingId}
    (hzero : s.count booking = 0) (cause : Option String) :
    create booking cause s w =
      match announce (s.insert (Notice.pending booking w.now.1)).1.id cause
          (s.insert (Notice.pending booking w.now.1)).2 w.now.2 with
      | (.error e, w') => (.error e, w')
      | (.ok ((), t), w') => (.ok ((s.insert (Notice.pending booking w.now.1)).1, t), w') := by
  have hnow := h.steady (World.Aside.now w).toSteady
  unfold create
  rw [bind_apply, count_apply h]
  dsimp only
  rw [if_neg (by omega), now_bind, bind_apply, insert_apply hnow]
  dsimp only
  rw [bind_apply]
  rcases announce _ cause _ w.now.2 with ⟨_ | ⟨_, t⟩, w'⟩ <;> rfl

namespace World

/-- A creation keeps a store sound, whether it succeeds or not. -/
theorem sound_create {w : World} (h : w.store.Sound) (booking : BookingId)
    (cause : Option String) : (w.create booking cause).2.store.Sound := by
  rcases w.create_cases booking cause with ⟨e, he, hw⟩ | ⟨n, w', rfl, hzero, -, hw, -⟩
  · rw [hw.store]
    exact h
  · rw [hw]
    exact h.insert hzero

/-- A booking that has a row gets no other, and nothing changes. -/
theorem create_of_count_pos {w : World} (h : w.Reliable) {booking : BookingId}
    (hpos : 0 < w.store.count booking) (cause : Option String) :
    w.create booking cause = (.error (.alreadyExists booking), w) := by
  have hwork : Transaction.create booking cause w.store w =
      (.error (.alreadyExists booking), w) := by
    unfold Transaction.create
    rw [Transaction.bind_apply, Transaction.count_apply h]
    dsimp only
    rw [if_pos hpos]
    rfl
  unfold create
  rw [Transaction.run_of_reliable (Transaction.aside_create booking cause) h, hwork]

/-- A booking that has no row gets one exactly if that can be announced. -/
theorem create_of_count_zero {w : World} (h : w.Reliable) {booking : BookingId}
    (hzero : w.store.count booking = 0) (cause : Option String) :
    (w.bus.refuses = true ∧ ∃ e, (w.create booking cause).1 = .error e ∧ e.isRetryable = true ∧
      (w.create booking cause).2.store = w.store ∧ (w.create booking cause).2.bus = w.bus.skip) ∨
    (w.bus.refuses = false ∧ ∃ n event,
      n = Notice.pending booking (w.clock.answer w.clock.used) ∧
      (w.create booking cause).1 = .ok (w.store.insert n).1 ∧
      (w.create booking cause).2.store = (w.store.insert n).2 ∧
      event.AnnouncesOnly (w.store.insert n).1.id ∧
      (w.create booking cause).2.bus = w.bus.accept event) := by
  unfold create
  rw [Transaction.run_of_reliable (Transaction.aside_create booking cause) h,
    Transaction.create_apply h hzero]
  have haside := Transaction.aside_announce
    (w.store.insert (Notice.pending booking w.now.1)).1.id cause
    (w.store.insert (Notice.pending booking w.now.1)).2 w.now.2
  rcases Transaction.announce_cases (w.store.insert (Notice.pending booking w.now.1)).1.id cause
      (w.store.insert (Notice.pending booking w.now.1)).2 w.now.2 with
    ⟨hrefuses, e, w', hann, hretry, hbus⟩ | ⟨hrefuses, event, w', hann, honly, hbus⟩
  · rw [hann] at haside ⊢
    exact Or.inl ⟨hrefuses, e, rfl, hretry, haside.store, hbus⟩
  · rw [hann]
    exact Or.inr ⟨hrefuses, _, event, rfl, rfl, rfl, honly, hbus⟩

end World

end BookingNotices
