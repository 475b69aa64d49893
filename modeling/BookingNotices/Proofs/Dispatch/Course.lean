import BookingNotices.Proofs.Creation
import BookingNotices.Proofs.Dispatch.Basic
import BookingNotices.Proofs.Healthy

/-!
# Payments on their way to an end

* `Bus.Delivery.Pays`, `Bus.Delivery.Calls` : what the delivery of a payment asks for, and that of
  an announcement;
* `Store.endings`  : how the rows of a booking stand;
* `Store.Course`   : every booking that was paid for has a row or a payment that waits, every row
  that waits has an announcement that does, and every other row has come to its end and was told;
* `Course.dropped`, `Course.retried`, `Course.created`, `Course.resolved` : what a delivery does to
  it;
* `Course.endings_eq`, `Course.mem_told_iff` : where the course ends when nothing waits.
-/

namespace BookingNotices

/-! ## What deliveries ask for -/

/-- The booking that an event says was paid for. -/
def Event.paidBooking? (e : Event) : Option BookingId :=
  (PaymentCompleted.ofEvent e).toOption.map (·.booking)

namespace Bus.Delivery

/-- The delivery of a payment for a booking. -/
def Pays (booking : BookingId) (d : Bus.Delivery Consumer) : Prop :=
  d.handler = .paymentCompleted ∧ d.event.paidBooking? = some booking

/-- The delivery of an announcement of a row. -/
def Calls (id : NoticeId) (d : Bus.Delivery Consumer) : Prop :=
  d.handler = .noticeCreated ∧ Event.Created.ofEvent d.event = .ok ⟨id⟩

theorem Pays.not_calls {booking : BookingId} {d : Bus.Delivery Consumer} (h : d.Pays booking)
    (id : NoticeId) : ¬ d.Calls id := by
  intro hcalls
  have hhandler := hcalls.1
  rw [h.1] at hhandler
  cases hhandler

theorem Pays.inj {a b : BookingId} {d : Bus.Delivery Consumer} (ha : d.Pays a) (hb : d.Pays b) :
    a = b := Option.some.inj (ha.2.symm.trans hb.2)

theorem Calls.inj {a b : NoticeId} {d : Bus.Delivery Consumer} (ha : d.Calls a) (hb : d.Calls b) :
    a = b := by
  have heq := ha.2.symm.trans hb.2
  cases heq
  rfl

/-- The delivery of a new announcement. -/
theorem Calls.of_announcesOnly {id : NoticeId} {e : Event} (h : e.AnnouncesOnly id)
    (attempts : Nat) : Calls id ⟨e, .noticeCreated, attempts⟩ := ⟨rfl, h.2⟩

end Bus.Delivery

namespace Store

/-! ## The rows of a booking -/

/-- How the rows of a booking stand: their status, and their document. -/
def endings (s : Store) (booking : BookingId) : List (Notice.Status × String) :=
  (s.rows.filter fun e => e.2.booking = booking).map fun e => (e.2.status, e.2.document)

theorem exists_of_count_pos {s : Store} (h : s.Sound) {booking : BookingId}
    (hpos : 0 < s.count booking) : ∃ id n, s.rows.find? id = some n ∧ n.booking = booking := by
  obtain ⟨⟨id, n⟩, hmem, hbooking⟩ := List.countP_pos_iff.mp hpos
  exact ⟨id, n, (Table.find?_eq_some_iff_mem h.sorted).mpr hmem, by simpa using hbooking⟩

theorem Sound.endings_of_find? {s : Store} (h : s.Sound) {id : NoticeId} {n : Notice}
    (hrow : s.rows.find? id = some n) : s.endings n.booking = [(n.status, n.document)] := by
  unfold endings
  rw [h.filter_booking hrow]
  rfl

theorem endings_of_count_zero {s : Store} {booking : BookingId} (h : s.count booking = 0) :
    s.endings booking = [] := by
  have hnone : (s.rows.filter fun e => e.2.booking = booking) = [] :=
    List.length_eq_zero_iff.mp (List.countP_eq_length_filter.symm.trans h)
  unfold endings
  rw [hnone]
  rfl

/-! ## The course of payments -/

/-- The payments for some bookings are on their way to an end; some of the bookings were told. -/
structure Course (r : Registry) (bookings : List BookingId) (s : Store)
    (queue : List (Bus.Delivery Consumer)) (told : List BookingId) : Prop where
  sound : s.Sound
  expected : ∀ d ∈ queue, (∃ booking ∈ bookings, d.Pays booking) ∨ ∃ id, d.Calls id
  awaited : ∀ booking ∈ bookings, 0 < s.count booking ∨ ∃ d ∈ queue, d.Pays booking
  wanted : ∀ id n, s.rows.find? id = some n → n.booking ∈ bookings
  waiting : ∀ id n, s.rows.find? id = some n → n.status = .pending →
    n.document = "" ∧ ∃ d ∈ queue, d.Calls id
  ended : ∀ id n, s.rows.find? id = some n → n.status ≠ .pending →
    n.booking ∈ told ∧ r.ending? n.booking = some (n.status, n.document)
  once : told.Nodup
  kept : ∀ booking ∈ told, ∃ id n, s.rows.find? id = some n ∧ n.booking = booking ∧
    n.status ≠ .pending

theorem Course.begin {r : Registry} {bookings : List BookingId}
    {queue : List (Bus.Delivery Consumer)}
    (hexpected : ∀ d ∈ queue, ∃ booking ∈ bookings, d.Pays booking)
    (hawaited : ∀ booking ∈ bookings, ∃ d ∈ queue, d.Pays booking) :
    Course r bookings {} queue [] where
  sound := Sound.empty
  expected d hd := Or.inl (hexpected d hd)
  awaited booking hbooking := Or.inr (hawaited booking hbooking)
  wanted _ _ h := nomatch h
  waiting _ _ h := nomatch h
  ended _ _ h := nomatch h
  once := List.nodup_nil
  kept _ h := nomatch h

section Steps

variable {r : Registry} {bookings : List BookingId} {s : Store} {d : Bus.Delivery Consumer}
  {rest : List (Bus.Delivery Consumer)} {told : List BookingId}

/-- What waits for something else than this delivery waits on behind it. -/
theorem exists_of_cons {P : Bus.Delivery Consumer → Prop} (h : ∃ e ∈ d :: rest, P e) (hd : ¬ P d)
    (more : List (Bus.Delivery Consumer)) : ∃ e ∈ rest ++ more, P e := by
  obtain ⟨e, he, hP⟩ := h
  rcases List.mem_cons.mp he with rfl | he
  · exact absurd hP hd
  · exact ⟨e, List.mem_append_left _ he, hP⟩

/-- The announcement of a row may wait behind the others. -/
theorem Course.expected_announced (h : Course r bookings s (d :: rest) told) {e : Event}
    {id : NoticeId} (honly : e.AnnouncesOnly id) :
    ∀ d' ∈ rest ++ [⟨e, .noticeCreated, 0⟩],
      (∃ booking ∈ bookings, d'.Pays booking) ∨ ∃ id, d'.Calls id := by
  intro d' hd'
  rcases List.mem_append.mp hd' with hd' | hd'
  · exact h.expected d' (List.mem_cons_of_mem d hd')
  · rw [List.mem_singleton.mp hd']
    exact Or.inr ⟨id, .of_announcesOnly honly 0⟩

/-- A delivery that asks for what is done already is dropped. -/
theorem Course.dropped (h : Course r bookings s (d :: rest) told)
    (hpays : ∀ booking, d.Pays booking → 0 < s.count booking)
    (hcalls : ∀ id, d.Calls id → ∀ row, s.rows.find? id = some row → row.status ≠ .pending) :
    Course r bookings s rest told := by
  refine { h with expected := fun e he => ?_, awaited := fun booking hbooking => ?_,
                  waiting := fun id n hn hpending => ?_ }
  · exact h.expected e (List.mem_cons_of_mem d he)
  · refine (h.awaited booking hbooking).elim Or.inl ?_
    rintro ⟨e, he, hpaid⟩
    rcases List.mem_cons.mp he with rfl | he
    · exact Or.inl (hpays booking hpaid)
    · exact Or.inr ⟨e, he, hpaid⟩
  · obtain ⟨hblank, e, he, hcalled⟩ := h.waiting id n hn hpending
    rcases List.mem_cons.mp he with rfl | he
    · exact absurd hpending (hcalls id hcalled n hn)
    · exact ⟨hblank, e, he, hcalled⟩

/-- A delivery that has failed goes to the end of the queue. -/
theorem Course.retried (h : Course r bookings s (d :: rest) told) :
    Course r bookings s (rest ++ [d.next]) told := by
  have hmove {P : Bus.Delivery Consumer → Prop} (hnext : P d → P d.next)
      (hP : ∃ e ∈ d :: rest, P e) : ∃ e ∈ rest ++ [d.next], P e := by
    obtain ⟨e, he, hP⟩ := hP
    rcases List.mem_cons.mp he with rfl | he
    · exact ⟨e.next, List.mem_append_right _ List.mem_cons_self, hnext hP⟩
    · exact ⟨e, List.mem_append_left _ he, hP⟩
  refine { h with expected := fun e he => ?_, awaited := fun booking hbooking => ?_,
                  waiting := fun id n hn hpending => ?_ }
  · rcases List.mem_append.mp he with he | he
    · exact h.expected e (List.mem_cons_of_mem d he)
    · rw [List.mem_singleton.mp he]
      exact h.expected d List.mem_cons_self
  · exact (h.awaited booking hbooking).imp_right (hmove fun hpays => hpays)
  · obtain ⟨hblank, hcalled⟩ := h.waiting id n hn hpending
    exact ⟨hblank, hmove (fun hcalls => hcalls) hcalled⟩

/-- A payment leads to the row of its booking, which is announced. -/
theorem Course.created (h : Course r bookings s (d :: rest) told) {n : Notice} {e : Event}
    (hpays : d.Pays n.booking) (hwanted : n.booking ∈ bookings) (hzero : s.count n.booking = 0)
    (hpending : n.status = .pending) (hblank : n.document = "")
    (honly : e.AnnouncesOnly ⟨s.lastId + 1⟩) :
    Course r bookings (s.insert n).2 (rest ++ [⟨e, .noticeCreated, 0⟩]) told := by
  have hroom := h.sound.roomy
  refine ⟨h.sound.insert hzero, h.expected_announced honly, fun booking hbooking => ?_,
    fun id m hm => ?_, fun id m hm hm' => ?_, fun id m hm hm' => ?_, h.once,
    fun booking hbooking => ?_⟩
  · by_cases hself : booking = n.booking
    · have hpos := count_pos (find?_insert_self s n)
      rw [hself]
      exact Or.inl hpos
    · rcases h.awaited booking hbooking with hpos | hwaits
      · obtain ⟨id, m, hm, rfl⟩ := exists_of_count_pos h.sound hpos
        exact Or.inl (count_pos (hroom.find?_insert n hm))
      · exact Or.inr (exists_of_cons hwaits (fun hpaid => hself (hpaid.inj hpays)) _)
  · rcases find?_insert_cases hm with ⟨-, rfl⟩ | hm
    · exact hwanted
    · exact h.wanted id m hm
  · rcases find?_insert_cases hm with ⟨rfl, rfl⟩ | hm
    · exact ⟨hblank, _, List.mem_append_right _ List.mem_cons_self, .of_announcesOnly honly 0⟩
    · obtain ⟨hm_blank, hwaits⟩ := h.waiting id m hm hm'
      exact ⟨hm_blank, exists_of_cons hwaits (hpays.not_calls id) _⟩
  · rcases find?_insert_cases hm with ⟨-, rfl⟩ | hm
    · exact absurd hpending hm'
    · exact h.ended id m hm hm'
  · obtain ⟨id, m, hm, hm'⟩ := h.kept booking hbooking
    exact ⟨id, m, hroom.find?_insert n hm, hm'⟩

/-- An announcement leads a row to its end, which is told, and to one more announcement. -/
theorem Course.resolved (h : Course r bookings s (d :: rest) told) {row m : Notice} {e : Event}
    (hrow : s.rows.find? row.id = some row) (hcalls : d.Calls row.id)
    (hpending : row.status = .pending) (hkin : row.Kin m) (hfinal : m.status.isFinal = true)
    (hending : r.ending? row.booking = some (m.status, m.document))
    (honly : e.AnnouncesOnly row.id) :
    Course r bookings (s.put m) (rest ++ [⟨e, .noticeCreated, 0⟩]) (told ++ [row.booking]) := by
  have hopen : m.status ≠ .pending := fun hstatus => by
    rw [hstatus] at hfinal
    cases hfinal
  have hself : s.rows.find? m.id = some row := by
    rw [hkin.id]
    exact hrow
  refine ⟨h.sound.put hself hkin.booking, h.expected_announced honly, fun booking hbooking => ?_,
    fun id n hn => ?_, fun id n hn hn' => ?_, fun id n hn hn' => ?_, ?_, fun booking hbooking => ?_⟩
  · rcases h.awaited booking hbooking with hpos | hwaits
    · rw [count_eq, ← bookings_put h.sound.sorted hself hkin.booking, ← count_eq] at hpos
      exact Or.inl hpos
    · exact Or.inr (exists_of_cons hwaits (fun hpaid => hpaid.not_calls row.id hcalls) _)
  · rcases find?_put_cases hn with ⟨-, rfl⟩ | ⟨-, hn⟩
    · rw [hkin.booking]
      exact h.wanted row.id row hrow
    · exact h.wanted id n hn
  · rcases find?_put_cases hn with ⟨-, rfl⟩ | ⟨hid, hn⟩
    · exact absurd hn' hopen
    · obtain ⟨hblank, hwaits⟩ := h.waiting id n hn hn'
      refine ⟨hblank, exists_of_cons hwaits (fun hcalled => hid ?_) _⟩
      rw [hkin.id]
      exact hcalled.inj hcalls
  · rcases find?_put_cases hn with ⟨-, rfl⟩ | ⟨-, hn⟩
    · rw [hkin.booking]
      exact ⟨List.mem_append_right _ List.mem_cons_self, hending⟩
    · obtain ⟨htold, hended⟩ := h.ended id n hn hn'
      exact ⟨List.mem_append_left _ htold, hended⟩
  · refine List.nodup_append.mpr ⟨h.once, List.pairwise_singleton _ _, fun a ha b hb hab => ?_⟩
    -- the row of a booking that was told is not the one that waits
    obtain ⟨id, n, hn, hbooking, hn'⟩ := h.kept a ha
    rw [List.mem_singleton.mp hb, ← hbooking] at hab
    have hid := h.sound.id_inj hn hrow hab
    subst hid
    rw [hrow] at hn
    cases hn
    exact hn' hpending
  · rcases List.mem_append.mp hbooking with hbooking | hbooking
    · obtain ⟨id, n, hn, hn'⟩ := h.kept booking hbooking
      refine ⟨id, n, (find?_put_of_ne (fun hid => ?_) s).trans hn, hn'⟩
      rw [hid, hself] at hn
      cases hn
      exact hn'.2 hpending
    · rw [List.mem_singleton.mp hbooking]
      exact ⟨m.id, m, find?_put_self s m, hkin.booking, hopen⟩

end Steps

/-! ## The end of the course -/

section End

variable {r : Registry} {bookings : List BookingId} {s : Store} {told : List BookingId}
  (h : Course r bookings s [] told)

include h

/-- When nothing waits, every booking that was paid for has its one row. -/
theorem Course.exists_of_mem {booking : BookingId} (hbooking : booking ∈ bookings) :
    ∃ id n, s.rows.find? id = some n ∧ n.booking = booking := by
  rcases h.awaited booking hbooking with hpos | ⟨d, hd, -⟩
  · exact exists_of_count_pos h.sound hpos
  · cases hd

/-- When nothing waits, every row has come to its end. -/
theorem Course.ended_of_find? {id : NoticeId} {n : Notice} (hn : s.rows.find? id = some n) :
    n.booking ∈ told ∧ r.ending? n.booking = some (n.status, n.document) := by
  refine h.ended id n hn fun hpending => ?_
  obtain ⟨-, d, hd, -⟩ := h.waiting id n hn hpending
  cases hd

theorem Course.endings_eq (booking : BookingId) :
    s.endings booking = if booking ∈ bookings then (r.ending? booking).toList else [] := by
  split
  · rename_i hbooking
    obtain ⟨id, n, hn, rfl⟩ := h.exists_of_mem hbooking
    rw [h.sound.endings_of_find? hn, (h.ended_of_find? hn).2]
    rfl
  · rename_i hnot
    refine endings_of_count_zero (Nat.eq_zero_of_not_pos fun hpos => hnot ?_)
    obtain ⟨id, n, hn, rfl⟩ := exists_of_count_pos h.sound hpos
    exact h.wanted id n hn

/-- When nothing waits, just the bookings that were paid for were told. -/
theorem Course.mem_told_iff (booking : BookingId) : booking ∈ told ↔ booking ∈ bookings := by
  refine ⟨fun htold => ?_, fun hbooking => ?_⟩
  · obtain ⟨id, n, hn, rfl, -⟩ := h.kept booking htold
    exact h.wanted id n hn
  · obtain ⟨id, n, hn, rfl⟩ := h.exists_of_mem hbooking
    exact (h.ended_of_find? hn).1

end End

end Store

end BookingNotices
