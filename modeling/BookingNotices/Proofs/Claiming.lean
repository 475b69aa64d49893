import BookingNotices.Proofs.Announcement
import BookingNotices.Proofs.Run

/-!
# Claims over a store that does not fail

* `Transaction.claim_of_pending` : a row that waits is taken exactly if that can be announced;
* `Worker.step_claiming`         : so a worker gets its claim, or fails with an error that may pass;
* `Transaction.renew_of_stale`, `Worker.step_renewing` : a claim that is overdue is renewed;
* `World.process_of_not_waiting` : where no row waits, nothing changes.
-/

namespace BookingNotices

namespace Transaction

variable {w : World} (h : w.Reliable)

include h

theorem lock_apply {s : Store} {id : NoticeId} {n : Notice} (hrow : s.rows.find? id = some n) :
    lock id s w = (.ok (n, s), w) := by
  unfold lock
  rw [bind_apply, call_apply h]
  dsimp only
  rw [get_bind, Store.get_eq_ok.mpr hrow]
  rfl

theorem lock_of_none {s : Store} {id : NoticeId} (hrow : s.rows.find? id = none) :
    lock id s w = (.error (.ofFailure (Store.notFound id)), w) := by
  have hget : s.get id = .error (Store.notFound id) := by
    unfold Store.get
    rw [hrow]
  unfold lock
  rw [bind_apply, call_apply h]
  dsimp only
  rw [get_bind, hget]
  rfl

theorem overwrite_apply {s : Store} {n row : Notice} (hset : n.id.isUnset = false)
    (hrow : s.rows.find? n.id = some row) : overwrite n s w = (.ok (n, s.put n), w) := by
  have hwrite : s.overwrite n = .ok (s.put n) := by
    have hhas : s.rows.has n.id = true := by
      unfold Table.has
      rw [hrow]
      rfl
    unfold Store.overwrite
    rw [hset, hhas]
    rfl
  unfold overwrite
  rw [bind_apply, call_apply h]
  dsimp only
  rw [get_bind, hwrite]
  rfl

/-- A row that waits is taken exactly if that can be announced. -/
theorem claim_of_pending {s : Store} {id : NoticeId} {row n : Notice}
    (hrow : s.rows.find? id = some row) (hid : row.id = id) (hset : id.isUnset = false)
    (hpending : row.status = .pending)
    (hn : n = { row with status := .processing, updated := w.clock.answer w.clock.used }) :
    claim id s w =
      match announce id none (s.put n) w.now.2 with
      | (.error e, w') => (.error e, w')
      | (.ok ((), s'), w') => (.ok (some n, s'), w') := by
  subst hid
  have hclaim : row.claim w.now.1 = .ok n := by
    unfold Notice.claim Notice.advance
    rw [hpending, hn]
    rfl
  have hwrite : overwrite n s w.now.2 = (.ok (n, s.put n), w.now.2) :=
    overwrite_apply (h.steady (World.Aside.now w).toSteady) (by rw [hn]; exact hset)
      (by rw [hn]; exact hrow)
  unfold claim
  rw [bind_apply, lock_apply h hrow]
  dsimp only
  rw [if_neg (by rw [hpending]; exact fun hne => hne rfl), now_bind, hclaim]
  dsimp only
  rw [bind_apply, hwrite]
  dsimp only
  rw [bind_apply]
  rcases announce row.id none (s.put n) w.now.2 with ⟨_ | ⟨_, s'⟩, w'⟩ <;> rfl

/-- A claim that is overdue is renewed at the next reading of the clock. -/
theorem renew_of_stale {s : Store} {id : NoticeId} {threshold : Nat} {row n : Notice}
    (hrow : s.rows.find? id = some row) (hid : row.id = id) (hset : id.isUnset = false)
    (hstale : row.isStale (w.clock.answer w.clock.used) threshold = true)
    (hn : n = { row with updated := w.clock.answer (w.clock.used + 1) }) :
    renew id threshold s w = (.ok (some n, s.put n), w.now.2.now.2) := by
  subst hid
  have hprocessing : row.status = .processing := by
    unfold Notice.isStale at hstale
    simp only [Bool.and_eq_true, decide_eq_true_eq] at hstale
    exact hstale.1
  have htouch : row.touch w.now.2.now.1 = .ok n := by
    unfold Notice.touch
    rw [if_pos hprocessing, hn]
    rfl
  have hwrite : overwrite n s w.now.2.now.2 = (.ok (n, s.put n), w.now.2.now.2) :=
    overwrite_apply (h.steady ((World.Aside.now w).trans (World.Aside.now _)).toSteady)
      (by rw [hn]; exact hset) (by rw [hn]; exact hrow)
  unfold renew
  rw [bind_apply, lock_apply h hrow]
  dsimp only
  rw [now_bind, show row.isStale w.now.1 threshold = true from hstale, if_neg (by decide), now_bind,
    htouch]
  dsimp only
  rw [bind_apply, hwrite]
  rfl

/-- Where no row waits there is nothing to take, and no error that may pass. -/
theorem claim_of_not_waiting {s : Store} {id : NoticeId}
    (hnot : ∀ row, s.rows.find? id = some row → row.status ≠ .pending) :
    claim id s w = (.ok (none, s), w) ∨
      ∃ e, claim id s w = (.error e, w) ∧ e.isRetryable = false := by
  unfold claim
  rw [bind_apply]
  cases hrow : s.rows.find? id with
  | none =>
    rw [lock_of_none h hrow]
    exact Or.inr ⟨_, rfl, rfl⟩
  | some row =>
    rw [lock_apply h hrow]
    dsimp only
    rw [if_pos (hnot row hrow)]
    exact Or.inl rfl

end Transaction

namespace Worker

variable {w : World} (h : w.Reliable)

include h

/-- A row that waits is claimed exactly if that can be announced. -/
theorem step_claiming {id : NoticeId} {row n : Notice} (hrow : w.store.rows.find? id = some row)
    (hid : row.id = id) (hset : id.isUnset = false) (hpending : row.status = .pending)
    (hn : n = { row with status := .processing, updated := w.clock.answer w.clock.used }) :
    (w.bus.refuses = true ∧ ∃ e w', (Worker.claiming id).step w = (failing e, w') ∧
      e.isRetryable = true ∧ w.Aside w' ∧ w'.bus = w.bus.skip) ∨
    (w.bus.refuses = false ∧ ∃ event w', (Worker.claiming id).step w = (.findingBooking n, w') ∧
      event.AnnouncesOnly id ∧ w'.bus = w.bus.accept event ∧ w'.store = w.store.put n ∧
      w'.outbox.sent = w.outbox.sent) := by
  have hclaim := Transaction.claim_of_pending h hrow hid hset hpending hn
  have haside := (World.Aside.now w).trans
    (Transaction.aside_announce id none (w.store.put n) w.now.2)
  dsimp only [step]
  rw [Transaction.run_of_reliable (Transaction.aside_claim id) h, hclaim]
  rcases Transaction.announce_cases id none (w.store.put n) w.now.2 with
    ⟨hrefuses, e, w', hann, hretry, hbus⟩ | ⟨hrefuses, event, w', hann, honly, hbus⟩
  · rw [hann] at haside ⊢
    exact Or.inl ⟨hrefuses, e, w', rfl, hretry, haside, hbus⟩
  · rw [hann] at haside ⊢
    exact Or.inr ⟨hrefuses, event, _, rfl, honly, hbus, rfl, haside.sent⟩

/-- A claim that is overdue is renewed. -/
theorem step_renewing {id : NoticeId} {threshold : Nat} {row n : Notice}
    (hrow : w.store.rows.find? id = some row) (hid : row.id = id) (hset : id.isUnset = false)
    (hstale : row.isStale (w.clock.answer w.clock.used) threshold = true)
    (hn : n = { row with updated := w.clock.answer (w.clock.used + 1) }) :
    ∃ w', (Worker.renewing id threshold).step w = (.findingBooking n, w') ∧ w'.bus = w.bus ∧
      w'.store = w.store.put n ∧ w'.outbox.sent = w.outbox.sent := by
  dsimp only [step]
  rw [Transaction.run_of_reliable (Transaction.aside_renew id threshold) h,
    Transaction.renew_of_stale h hrow hid hset hstale hn]
  exact ⟨_, rfl, rfl, rfl, rfl⟩

end Worker

/-- Where no row waits, a worker has nothing to do, and nothing changes. -/
theorem World.process_of_not_waiting {w : World} (h : w.Reliable) {id : NoticeId}
    (hnot : ∀ row, w.store.rows.find? id = some row → row.status ≠ .pending) :
    (w.process id).2 = w ∧ ∀ e, (w.process id).1 = .error e → e.isRetryable = false := by
  have hrun := Transaction.run_of_reliable (Transaction.aside_claim id) h Option.isSome
  unfold process
  rw [Worker.run_of_going rfl]
  dsimp only [Worker.step]
  rcases Transaction.claim_of_not_waiting h hnot with hclaim | ⟨e, hclaim, hretry⟩
  · rw [hrun, hclaim]
    dsimp only [Worker.afterTaking]
    rw [Worker.run_of_result rfl]
    exact ⟨rfl, fun _ he => nomatch he⟩
  · rw [hrun, hclaim]
    dsimp only [Worker.afterTaking]
    rw [Worker.run_of_result rfl]
    refine ⟨rfl, fun e' he' => ?_⟩
    cases he'
    exact hretry

end BookingNotices
