import BookingNotices.Proofs.Frame
import BookingNotices.Proofs.Store

/-!
# What a transaction does

* `World.Calls`       : nothing happens but calls on the store;
* `World.Steady`      : what no step of the service changes;
* `World.Aside`       : nothing is stored and nothing is mailed;
* `bind_eq_ok`        : work that succeeds succeeds in each of its parts;
* `run_cases`         : a transaction fails and stores nothing, or its copy becomes the store;
* `claim_eq_ok`, `renew_eq_ok` : what a row was, and what it is, when a worker has taken it;
* `World.Reliable`    : no call on the store is made to fail; then a transaction ends as its work
  does (`run_of_reliable`);
* `create_cases`      : the ends of a creation.
-/

namespace BookingNotices

/-! ## The world around a step -/

namespace World

/-- Nothing happens but calls on the store, of which no more are to fail than before. -/
def Calls (w w' : World) : Prop :=
  ∃ faults, w' = { w with storeFaults := faults } ∧
    ∀ c, (faults c).length ≤ (w.storeFaults c).length

theorem Calls.refl (w : World) : w.Calls w := ⟨w.storeFaults, rfl, fun _ => Nat.le_refl _⟩

theorem Calls.trans {a b c : World} (h₁ : a.Calls b) (h₂ : b.Calls c) : a.Calls c := by
  obtain ⟨faults, rfl, hle₁⟩ := h₁
  obtain ⟨faults', rfl, hle₂⟩ := h₂
  exact ⟨faults', rfl, fun call => Nat.le_trans (hle₂ call) (hle₁ call)⟩

theorem Calls.clock {w w' : World} (h : w.Calls w') : w'.clock = w.clock := by
  obtain ⟨faults, rfl, -⟩ := h
  rfl

theorem Calls.bus {w w' : World} (h : w.Calls w') : w'.bus = w.bus := by
  obtain ⟨faults, rfl, -⟩ := h
  rfl

theorem Calls.now {w w' : World} (h : w.Calls w') : w.now.2.Calls w'.now.2 := by
  obtain ⟨faults, rfl, hle⟩ := h
  exact ⟨faults, rfl, hle⟩

/-- What no step changes: the readings of the clock, and no call on the store gets worse. -/
structure Steady (w w' : World) : Prop where
  clock : w'.clock.answer = w.clock.answer
  faults : ∀ c, (w'.storeFaults c).length ≤ (w.storeFaults c).length

theorem Steady.refl (w : World) : w.Steady w := ⟨rfl, fun _ => Nat.le_refl _⟩

theorem Steady.trans {a b c : World} (h₁ : a.Steady b) (h₂ : b.Steady c) : a.Steady c :=
  ⟨h₂.clock.trans h₁.clock, fun call => Nat.le_trans (h₂.faults call) (h₁.faults call)⟩

/-- No row changes and nothing is mailed. -/
structure Aside (w w' : World) : Prop extends Steady w w' where
  store : w'.store = w.store
  sent : w'.outbox.sent = w.outbox.sent

theorem Aside.refl (w : World) : w.Aside w := ⟨Steady.refl w, rfl, rfl⟩

theorem Aside.trans {a b c : World} (h₁ : a.Aside b) (h₂ : b.Aside c) : a.Aside c :=
  ⟨h₁.toSteady.trans h₂.toSteady, h₂.store.trans h₁.store, h₂.sent.trans h₁.sent⟩

theorem Calls.aside {w w' : World} (h : w.Calls w') : w.Aside w' := by
  obtain ⟨faults, rfl, hle⟩ := h
  exact ⟨⟨rfl, hle⟩, rfl, rfl⟩

theorem Calls.setFaults {w : World} {c : StoreCall} {gaps : List Nat}
    (h : gaps.length ≤ (w.storeFaults c).length) : w.Calls (w.setFaults c gaps) := by
  refine ⟨_, rfl, fun d => ?_⟩
  split
  · rename_i hd
    rwa [hd]
  · exact Nat.le_refl _

theorem Calls.storeFails (w : World) (c : StoreCall) : w.Calls (w.storeFails c).2 := by
  unfold World.storeFails
  split
  · exact Calls.refl w
  · rename_i gaps hfaults
    exact Calls.setFaults (by rw [hfaults]; exact Nat.le_succ _)
  · rename_i gap gaps hfaults
    exact Calls.setFaults (by rw [hfaults]; exact Nat.le_refl _)

theorem Calls.of_storeFails {w w' : World} {c : StoreCall} {b : Bool}
    (h : w.storeFails c = (b, w')) : w.Calls w' := by
  have := Calls.storeFails w c
  rwa [h] at this

/-- A call that fails uses up a fault. -/
theorem storeFails_eq_true {w w' : World} {c : StoreCall} (h : w.storeFails c = (true, w')) :
    (w'.storeFaults c).length < (w.storeFaults c).length := by
  unfold storeFails at h
  split at h
  · cases h
  · rename_i gaps hfaults
    cases h
    dsimp only [setFaults]
    rw [if_pos rfl, hfaults]
    exact Nat.lt_succ_self _
  · cases h

theorem storeFails_of_nil {w : World} {c : StoreCall} (h : w.storeFaults c = []) :
    w.storeFails c = (false, w) := by
  unfold storeFails
  rw [h]

theorem Aside.storeFails (w : World) (c : StoreCall) : w.Aside (w.storeFails c).2 :=
  (Calls.storeFails w c).aside

theorem Aside.of_storeFails {w w' : World} {c : StoreCall} {b : Bool}
    (h : w.storeFails c = (b, w')) : w.Aside w' := (Calls.of_storeFails h).aside

theorem Aside.now (w : World) : w.Aside w.now.2 := ⟨⟨rfl, fun _ => Nat.le_refl _⟩, rfl, rfl⟩

theorem Aside.freshId (w : World) : w.Aside w.freshId.2 :=
  ⟨⟨rfl, fun _ => Nat.le_refl _⟩, rfl, rfl⟩

theorem Aside.publish (w : World) (e : Event) : w.Aside (w.publish e).2 :=
  ⟨⟨rfl, fun _ => Nat.le_refl _⟩, rfl, rfl⟩

theorem aside_frame : Frame Aside :=
  ⟨Aside.refl, Aside.trans, Aside.storeFails, Aside.now, Aside.freshId⟩

theorem aside_publishes : Publishes Aside := Aside.publish

end World

namespace Transaction

variable {α β : Type}

/-! ## Work in parts -/

/-- Work that succeeds succeeds in each of its parts. -/
theorem bind_eq_ok {x : Transaction α} {f : α → Transaction β} {s s' : Store} {w w' : World} {b : β}
    (h : (x >>= f) s w = (.ok (b, s'), w')) :
    ∃ a s₁ w₁, x s w = (.ok (a, s₁), w₁) ∧ f a s₁ w₁ = (.ok (b, s'), w') := by
  rw [bind_apply] at h
  split at h
  · rename_i a s₁ w₁ hx
    exact ⟨a, s₁, w₁, hx, h⟩
  · cases h

theorem aside_announce (id : NoticeId) (cause : Option String) :
    Respects World.Aside (announce id cause) :=
  .announce World.aside_frame World.aside_publishes id cause

theorem aside_claim (id : NoticeId) : Respects World.Aside (claim id) :=
  .claim World.aside_frame World.aside_publishes id

theorem aside_renew (id : NoticeId) (threshold : Nat) :
    Respects World.Aside (renew id threshold) :=
  .renew World.aside_frame id threshold

theorem aside_create (booking : BookingId) (cause : Option String) :
    Respects World.Aside (create booking cause) :=
  .create World.aside_frame World.aside_publishes booking cause

/-! ## The parts of the service's transactions -/

theorem call_eq_ok {c : StoreCall} {s s' : Store} {w w' : World} {u : Unit}
    (h : call c s w = (.ok (u, s'), w')) : s' = s ∧ w.Calls w' := by
  unfold call at h
  split at h
  · cases h
  · rename_i hfail
    cases h
    exact ⟨rfl, .of_storeFails hfail⟩

theorem now_eq_ok {s s' : Store} {w w' : World} {t : Timestamp}
    (h : now s w = (.ok (t, s'), w')) :
    t = w.clock.answer w.clock.used ∧ s' = s ∧ w' = w.now.2 := by
  cases h
  exact ⟨rfl, rfl, rfl⟩

theorem publish_eq_ok {e : Event} {s s' : Store} {w w' : World} {u : Unit}
    (h : publish e s w = (.ok (u, s'), w')) : s' = s := by
  unfold publish at h
  split at h
  · cases h
  · cases h
    rfl

theorem announce_eq_ok {id : NoticeId} {cause : Option String} {s s' : Store} {w w' : World}
    {u : Unit} (h : announce id cause s w = (.ok (u, s'), w')) : s' = s := by
  unfold announce at h
  obtain ⟨_, s₁, w₁, hfresh, k₁⟩ := bind_eq_ok h
  obtain ⟨_, s₂, w₂, hnow, k₂⟩ := bind_eq_ok k₁
  obtain rfl := publish_eq_ok k₂
  obtain ⟨-, rfl, -⟩ := now_eq_ok hnow
  cases hfresh
  rfl

theorem lock_eq_ok {id : NoticeId} {s s' : Store} {w w' : World} {n : Notice}
    (h : lock id s w = (.ok (n, s'), w')) :
    s.rows.find? id = some n ∧ s' = s ∧ w.Calls w' := by
  unfold lock at h
  obtain ⟨_, s₁, w₁, hcall, k₁⟩ := bind_eq_ok h
  obtain ⟨rfl, hcalls⟩ := call_eq_ok hcall
  obtain ⟨_, s₂, w₂, hget, k₂⟩ := bind_eq_ok k₁
  cases hget
  cases hrow : s₁.get id with
  | error f =>
    rw [hrow] at k₂
    cases k₂
  | ok m =>
    rw [hrow] at k₂
    cases k₂
    exact ⟨Store.get_eq_ok.mp hrow, rfl, hcalls⟩

theorem overwrite_eq_ok {n m : Notice} {s s' : Store} {w w' : World}
    (h : overwrite n s w = (.ok (m, s'), w')) :
    m = n ∧ n.id.isUnset = false ∧ s' = s.put n ∧ w.Calls w' := by
  unfold overwrite at h
  obtain ⟨_, s₁, w₁, hcall, k₁⟩ := bind_eq_ok h
  obtain ⟨rfl, hcalls⟩ := call_eq_ok hcall
  obtain ⟨_, s₂, w₂, hget, k₂⟩ := bind_eq_ok k₁
  cases hget
  cases hwrite : s₁.overwrite n with
  | error f =>
    rw [hwrite] at k₂
    cases k₂
  | ok t =>
    obtain ⟨hset, _, rfl⟩ := Store.overwrite_eq_ok hwrite
    rw [hwrite] at k₂
    cases k₂
    exact ⟨rfl, hset, rfl, hcalls⟩

/-! ## Taking a row -/

/-- A claim finds a row that waits, writes it down as taken at this instant, and announces it. -/
theorem claim_eq_ok {id : NoticeId} {s s' : Store} {w w' : World} {n : Notice}
    (h : claim id s w = (.ok (some n, s'), w')) :
    ∃ row, s.rows.find? id = some row ∧ row.status = .pending ∧
      n = { row with status := .processing, updated := w.clock.answer w.clock.used } ∧
      n.id.isUnset = false ∧ s' = s.put n ∧
      ∃ w₁, w.now.2.Calls w₁ ∧ announce id none s' w₁ = (.ok ((), s'), w') := by
  unfold claim at h
  obtain ⟨row, s₁, w₁, hlock, k₁⟩ := bind_eq_ok h
  obtain ⟨hrow, rfl, hlocked⟩ := lock_eq_ok hlock
  split at k₁
  · cases k₁
  · rename_i hpending
    have hpending : row.status = .pending := Decidable.not_not.mp hpending
    obtain ⟨now, s₂, w₂, hnow, k₂⟩ := bind_eq_ok k₁
    obtain ⟨rfl, rfl, rfl⟩ := now_eq_ok hnow
    rw [hlocked.clock] at k₂
    have hclaim (now : Timestamp) :
        row.claim now = .ok { row with status := .processing, updated := now } := by
      unfold Notice.claim Notice.advance
      rw [hpending]
      rfl
    rw [hclaim] at k₂
    obtain ⟨m, s₃, w₃, hwrite, k₃⟩ := bind_eq_ok k₂
    obtain ⟨rfl, hset, rfl, hwritten⟩ := overwrite_eq_ok hwrite
    obtain ⟨_, s₄, w₄, hann, k₄⟩ := bind_eq_ok k₃
    obtain rfl := announce_eq_ok hann
    cases k₄
    exact ⟨row, hrow, hpending, rfl, hset, rfl, w₃, hlocked.now.trans hwritten, hann⟩

/-- A renewal finds a claim that is as old as the threshold, and writes down the instant at which
the clock is read next. -/
theorem renew_eq_ok {id : NoticeId} {threshold : Nat} {s s' : Store} {w w' : World} {n : Notice}
    (h : renew id threshold s w = (.ok (some n, s'), w')) :
    ∃ row, s.rows.find? id = some row ∧
      row.isStale (w.clock.answer w.clock.used) threshold = true ∧
      n = { row with updated := w.clock.answer (w.clock.used + 1) } ∧
      n.id.isUnset = false ∧ s' = s.put n ∧ w.now.2.now.2.Calls w' := by
  unfold renew at h
  obtain ⟨row, s₁, w₁, hlock, k₁⟩ := bind_eq_ok h
  obtain ⟨hrow, rfl, hlocked⟩ := lock_eq_ok hlock
  obtain ⟨now, s₂, w₂, hnow, k₂⟩ := bind_eq_ok k₁
  obtain ⟨rfl, rfl, rfl⟩ := now_eq_ok hnow
  split at k₂
  · cases k₂
  · rename_i hstale
    have hstale : row.isStale (w.clock.answer w.clock.used) threshold = true := by
      rw [← hlocked.clock]
      simpa using hstale
    have hprocessing : row.status = .processing := by
      unfold Notice.isStale at hstale
      simp only [Bool.and_eq_true, decide_eq_true_eq] at hstale
      exact hstale.1
    obtain ⟨later, s₃, w₃, hlater, k₃⟩ := bind_eq_ok k₂
    obtain ⟨rfl, rfl, rfl⟩ := now_eq_ok hlater
    have htouch : row.touch (w₁.now.2.clock.answer w₁.now.2.clock.used) =
        .ok { row with updated := w.clock.answer (w.clock.used + 1) } := by
      rw [hlocked.now.clock]
      unfold Notice.touch
      rw [if_pos hprocessing]
      rfl
    rw [htouch] at k₃
    obtain ⟨m, s₄, w₄, hwrite, k₄⟩ := bind_eq_ok k₃
    obtain ⟨rfl, hset, rfl, hwritten⟩ := overwrite_eq_ok hwrite
    cases k₄
    exact ⟨row, hrow, hstale, rfl, hset, rfl, hlocked.now.now.trans hwritten⟩

/-! ## Creating a row -/

theorem count_eq_ok {booking : BookingId} {s s' : Store} {w w' : World} {c : Nat}
    (h : count booking s w = (.ok (c, s'), w')) :
    c = s.count booking ∧ s' = s ∧ w.Calls w' := by
  unfold count at h
  obtain ⟨_, s₁, w₁, hcall, k₁⟩ := bind_eq_ok h
  obtain ⟨rfl, hcalls⟩ := call_eq_ok hcall
  cases k₁
  exact ⟨rfl, rfl, hcalls⟩

theorem insert_eq_ok {n m : Notice} {s s' : Store} {w w' : World}
    (h : insert n s w = (.ok (m, s'), w')) : (m, s') = s.insert n ∧ w.Calls w' := by
  unfold insert at h
  obtain ⟨_, s₁, w₁, hcall, k₁⟩ := bind_eq_ok h
  obtain ⟨rfl, hcalls⟩ := call_eq_ok hcall
  cases k₁
  exact ⟨rfl, hcalls⟩

/-- A creation finds no row of the booking, stores one that waits, and announces it. -/
theorem create_eq_ok {booking : BookingId} {cause : Option String} {s s' : Store} {w w' : World}
    {n : Notice} (h : create booking cause s w = (.ok (n, s'), w')) :
    s.count booking = 0 ∧
      (n, s') = s.insert (Notice.pending booking (w.clock.answer w.clock.used)) ∧
      ∃ w₁, w.now.2.Calls w₁ ∧ announce n.id cause s' w₁ = (.ok ((), s'), w') := by
  unfold create at h
  obtain ⟨c, s₁, w₁, hcount, k₁⟩ := bind_eq_ok h
  obtain ⟨rfl, rfl, hcounted⟩ := count_eq_ok hcount
  dsimp only at k₁
  split at k₁
  · obtain ⟨_, s₂, w₂, hthrow, -⟩ := bind_eq_ok k₁
    cases hthrow
  · obtain ⟨now, s₂, w₂, hnow, k₂⟩ := bind_eq_ok k₁
    obtain ⟨rfl, rfl, rfl⟩ := now_eq_ok hnow
    rw [hcounted.clock] at k₂
    obtain ⟨m, s₃, w₃, hwrite, k₃⟩ := bind_eq_ok k₂
    obtain ⟨hinsert, hwritten⟩ := insert_eq_ok hwrite
    obtain ⟨_, s₄, w₄, hann, k₄⟩ := bind_eq_ok k₃
    obtain rfl := announce_eq_ok hann
    cases k₄
    exact ⟨by omega, hinsert, w₃, hcounted.now.trans hwritten, hann⟩

/-! ## The end of a transaction -/

/-- A transaction fails and stores nothing, or its copy becomes the store if it is to be kept. -/
theorem run_cases {t : Transaction α} (ht : Respects World.Aside t) (keep : α → Bool) (w : World) :
    (∃ e w', t.run keep w = (.error e, w') ∧ w.Aside w') ∨
      ∃ w₁ a staged w₂ w', w.Calls w₁ ∧ t w.store w₁ = (.ok (a, staged), w₂) ∧ w₂.Calls w' ∧
        w.Aside w' ∧
        t.run keep w = (.ok a, if keep a then { w' with store := staged } else w') := by
  unfold run
  split
  · rename_i w₁ hbegin
    exact Or.inl ⟨_, _, rfl, World.Aside.of_storeFails hbegin⟩
  · rename_i w₁ hbegin
    have hbegun := World.Aside.of_storeFails hbegin
    have hw := ht w₁.store w₁
    split
    · rename_i e w₂ hwork
      rw [hwork] at hw
      exact Or.inl ⟨e, _, rfl, (hbegun.trans hw).trans (World.Aside.storeFails w₂ .rollback)⟩
    · rename_i a staged w₂ hwork
      rw [hwork] at hw
      dsimp only
      split
      · rename_i w₃ hend
        exact Or.inl ⟨_, _, rfl, (hbegun.trans hw).trans (World.Aside.of_storeFails hend)⟩
      · rename_i w₃ hend
        rw [hbegun.store] at hwork
        exact Or.inr ⟨w₁, a, staged, w₂, w₃, World.Calls.of_storeFails hbegin, hwork,
          World.Calls.of_storeFails hend, (hbegun.trans hw).trans (World.Aside.of_storeFails hend),
          rfl⟩

end Transaction

/-! ## A store that does not fail -/

namespace World

/-- No call on the store is made to fail. -/
def Reliable (w : World) : Prop := ∀ c, w.storeFaults c = []

theorem Reliable.steady {w w' : World} (h : w.Reliable) (hw : w.Steady w') : w'.Reliable := by
  intro c
  have hle := hw.faults c
  rw [h c] at hle
  exact List.length_eq_zero_iff.mp (Nat.le_zero.mp hle)

end World

namespace Transaction

theorem call_apply {w : World} (h : w.Reliable) (c : StoreCall) (s : Store) :
    call c s w = (.ok ((), s), w) := by
  unfold call
  rw [World.storeFails_of_nil (h c)]

theorem count_apply {w : World} (h : w.Reliable) (booking : BookingId) (s : Store) :
    count booking s w = (.ok (s.count booking, s), w) := by
  unfold count
  rw [bind_apply, call_apply h]
  rfl

theorem insert_apply {w : World} (h : w.Reliable) (n : Notice) (s : Store) :
    insert n s w = (.ok (s.insert n), w) := by
  unfold insert
  rw [bind_apply, call_apply h]
  rfl

/-- A transaction on a store that does not fail ends as its work does. -/
theorem run_of_reliable {α : Type} {t : Transaction α} (ht : Respects World.Aside t) {w : World}
    (h : w.Reliable) (keep : α → Bool) :
    t.run keep w =
      match t w.store w with
      | (.error e, w') => (.error e, w')
      | (.ok (a, staged), w') => (.ok a, if keep a then { w' with store := staged } else w') := by
  have hw' := h.steady (ht w.store w).toSteady
  unfold run
  rw [World.storeFails_of_nil (h .begin)]
  dsimp only
  rcases hwork : t w.store w with ⟨_ | ⟨a, staged⟩, w'⟩
  · rw [hwork] at hw'
    dsimp only at hw' ⊢
    rw [World.storeFails_of_nil (hw' .rollback)]
  · rw [hwork] at hw'
    dsimp only at hw' ⊢
    rw [World.storeFails_of_nil (hw' _)]

end Transaction

/-! ## The ends of a creation -/

namespace World

/-- A creation stores nothing, or the one row that it returns. -/
theorem create_cases (w : World) (booking : BookingId) (cause : Option String) :
    (∃ e, (w.create booking cause).1 = .error e ∧ w.Aside (w.create booking cause).2) ∨
      ∃ n w', n = Notice.pending booking (w.clock.answer w.clock.used) ∧ w.store.count booking = 0 ∧
        (w.create booking cause).1 = .ok (w.store.insert n).1 ∧
        (w.create booking cause).2 = { w' with store := (w.store.insert n).2 } ∧ w.Aside w' := by
  unfold create
  rcases Transaction.run_cases (Transaction.aside_create booking cause) (fun _ => true) w with
    ⟨e, w', hrun, hw⟩ | ⟨w₁, n, staged, w₂, w', hbegun, hwork, -, hw, hrun⟩
  · rw [hrun]
    exact Or.inl ⟨e, rfl, hw⟩
  · obtain ⟨hzero, hinsert, -⟩ := Transaction.create_eq_ok hwork
    rw [hbegun.clock] at hinsert
    cases hinsert
    rw [hrun]
    exact Or.inr ⟨_, w', rfl, hzero, rfl, rfl, hw⟩

/-- A creation sends no mail. -/
theorem sent_create (w : World) (booking : BookingId) (cause : Option String) :
    (w.create booking cause).2.outbox.sent = w.outbox.sent := by
  rcases w.create_cases booking cause with ⟨e, -, hw⟩ | ⟨n, w', -, -, -, hworld, hw⟩
  · exact hw.sent
  · rw [hworld]
    exact hw.sent

end World

end BookingNotices
