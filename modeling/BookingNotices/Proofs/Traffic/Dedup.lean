import BookingNotices.Proofs.Creation
import BookingNotices.Proofs.Traffic.Step

/-!
# A booking gets one notice

* `Traffic.Sound`      : no booking has two rows (`Sound.begin`, `Sound.happens`);
* `Traffic.creations`  : how the creations for a booking ended, and which of them were announced;
* `Traffic.Deduped`    : they were refused until one was announced, which succeeded, and from then
  on the notice existed already (`Deduped.happens`);
* `created_once`       : that is so however creations, workers, sweeps and deliveries are mixed,
  unless the store fails, and even then no booking gets a second row.

The count of the rows of a booking is read in the transaction that adds one, and no two transactions
are open at once. A transaction whose announcement is refused gives its identity back.
-/

namespace BookingNotices

namespace Traffic

/-! ## Sound stores -/

/-- Traffic that is sane, over a sound store. -/
structure Sound (t : Traffic) : Prop extends Sane t where
  sound : t.world.store.Sound

theorem Sound.roomy {t : Traffic} (h : t.Sound) : t.Roomy := fun _ _ _ => h.sound.roomy

theorem Sound.happens {t t' : Traffic} (h : t.Sound) (hhappens : t.Happens t') : t'.Sound := by
  refine ⟨h.toSane.happens h.roomy hhappens, ?_⟩
  cases hhappens with
  | rested hrest =>
    rw [hrest.store]
    exact h.sound
  | created => exact World.sound_create h.sound _ _
  | worked hi hk hk' hacts =>
    rcases hacts.store (h.fits _ _ ((workerOf?_of_call hi).trans hk)) with
      hstore | ⟨row, n, hrow, hfollows, hstore⟩
    · rw [hstore]
      exact h.sound
    · rw [hstore]
      exact h.sound.put hrow hfollows.booking

theorem Sound.begin {w : World} (hempty : w.store = {}) : Sound { world := w } := by
  have hsound : w.store.Sound := by
    rw [hempty]
    exact Store.Sound.empty
  exact ⟨Sane.of_keyed hsound.keyed, hsound⟩

/-- Whatever fails, no booking ever has two rows. -/
theorem sound_run {w : World} (hempty : w.store = {}) (moves : List Move) :
    (Traffic.run { world := w } moves).Sound :=
  run_induction (P := Sound) (Q := fun _ => True)
    (fun _ m h _ => h.happens (happens_step h.toSane m)) moves { world := w }
    (Sound.begin hempty) fun _ _ => trivial

end Traffic

/-! ## How creations end -/

/-- How a creation for a booking ended, and whether it was announced. -/
def Deed.creation? (booking : BookingId) : Deed → Option (Except Notice.Error Notice × Bool)
  | .created b result announced => if b = booking then some (result, announced) else none
  | _ => none

namespace Traffic

/-- How the creations for a booking ended, and which of them were announced. -/
def creations (booking : BookingId) (t : Traffic) : List (Except Notice.Error Notice × Bool) :=
  t.log.filterMap fun e => e.deed.creation? booking

/-- A creation that was not announced, and may succeed later. -/
def Refused (c : Except Notice.Error Notice × Bool) : Prop :=
  ∃ e, c = (.error e, false) ∧ e.isRetryable = true

/-- A creation for a booking that has a notice already. -/
def Repeated (booking : BookingId) (c : Except Notice.Error Notice × Bool) : Prop :=
  c = (.error (.alreadyExists booking), false)

/-- The creations for a booking were refused until one was announced, which succeeded; all others
were repeated. -/
structure Deduped (booking : BookingId) (t : Traffic) : Prop where
  absent : t.world.store.count booking = 0 → ∀ c ∈ t.creations booking, Refused c
  present : 0 < t.world.store.count booking → ∃ before n after,
    t.creations booking = before ++ (.ok n, true) :: after ∧ (∀ c ∈ before, Refused c) ∧
      ∀ c ∈ after, Repeated booking c

theorem creations_append (booking : BookingId) (w : World) (calls : List Call) (log : List Entry)
    (i : Nat) (ds : List Deed) :
    creations booking ⟨w, calls, log ++ entries i ds⟩ =
      (log.filterMap fun e => e.deed.creation? booking) ++
        ds.filterMap (Deed.creation? booking) := by
  unfold creations entries
  rw [List.filterMap_append, List.filterMap_map]
  rfl

/-- Neither the rows nor the creations of the booking change. -/
theorem Deduped.of_eq {booking : BookingId} {t t' : Traffic} (h : Deduped booking t)
    (hcount : t'.world.store.count booking = t.world.store.count booking)
    (hcreations : t'.creations booking = t.creations booking) : Deduped booking t' := by
  constructor
  · rw [hcount, hcreations]
    exact h.absent
  · rw [hcount, hcreations]
    exact h.present

theorem count_create_of_ne {w : World} (h : w.store.Sound) {booking b : BookingId}
    (hb : b ≠ booking) (cause : Option String) :
    (w.create b cause).2.store.count booking = w.store.count booking := by
  rcases w.create_cases b cause with ⟨e, he, hw⟩ | ⟨n, w', rfl, -, -, hw, -⟩
  · rw [hw.store]
  · have hperm := Store.bookings_insert h (Notice.pending b (w.clock.answer w.clock.used))
    rw [hw, Store.count_eq, Store.count_eq, hperm.count_eq]
    exact List.count_cons_of_ne hb

section Created

variable {booking : BookingId} {t : Traffic} {calls : List Call} {i : Nat}

/-- How a creation for the booking ends is the last of its creations. -/
theorem creations_create (cause : Option String) :
    creations booking ⟨(t.world.create booking cause).2, calls,
      t.log ++ entries i [Call.creationDeed t.world booking cause]⟩ =
      t.creations booking ++ [((t.world.create booking cause).1, decide
        (t.world.bus.published.length <
          (t.world.create booking cause).2.bus.published.length))] := by
  rw [creations_append]
  unfold Call.creationDeed
  simp [Deed.creation?, creations]

/-- A creation for a booking that has no notice is refused, or is the first to succeed. -/
theorem Deduped.created_of_absent (h : Deduped booking t) (hsound : t.world.store.Sound)
    (hreliable : t.world.Reliable) (hzero : t.world.store.count booking = 0)
    (cause : Option String) :
    Deduped booking ⟨(t.world.create booking cause).2, calls,
      t.log ++ entries i [Call.creationDeed t.world booking cause]⟩ := by
  have habsent := h.absent hzero
  rcases World.create_of_count_zero hreliable hzero cause with
    ⟨-, e, he, hretry, hstore, hbus⟩ | ⟨-, n, event, hn, hresult, hstore, -, hbus⟩
  · have hrefused : Refused ((t.world.create booking cause).1,
        t.world.bus.published.length < (t.world.create booking cause).2.bus.published.length) := by
      refine ⟨e, ?_, hretry⟩
      rw [he, hbus]
      simp [Bus.skip]
    constructor
    · intro _ c hc
      rw [creations_create] at hc
      rcases List.mem_append.mp hc with hc | hc
      · exact habsent c hc
      · rw [List.mem_singleton.mp hc]
        exact hrefused
    · intro hpos
      have hpos : 0 < (t.world.create booking cause).2.store.count booking := hpos
      rw [hstore] at hpos
      omega
  · constructor
    · intro hzero'
      have hzero' : (t.world.create booking cause).2.store.count booking = 0 := hzero'
      have hperm := Store.bookings_insert hsound n
      have hbooking : n.booking = booking := by rw [hn]; rfl
      rw [hstore, Store.count_eq, hperm.count_eq, hbooking, List.count_cons_self] at hzero'
      omega
    · intro _
      refine ⟨t.creations booking, (t.world.store.insert n).1, [], ?_, habsent,
        fun c hc => nomatch hc⟩
      rw [creations_create, hresult, hbus]
      simp [Bus.accept]

/-- A creation for a booking that has a notice is repeated. -/
theorem Deduped.created_of_present (h : Deduped booking t) (hreliable : t.world.Reliable)
    (hpos : 0 < t.world.store.count booking) (cause : Option String) :
    Deduped booking ⟨(t.world.create booking cause).2, calls,
      t.log ++ entries i [Call.creationDeed t.world booking cause]⟩ := by
  obtain ⟨before, n, after, heq, hbefore, hafter⟩ := h.present hpos
  have hcreate := World.create_of_count_pos hreliable hpos cause
  constructor
  · intro hzero
    have hzero : (t.world.create booking cause).2.store.count booking = 0 := hzero
    rw [hcreate] at hzero
    dsimp only at hzero
    omega
  · intro _
    refine ⟨before, n, after ++ [(.error (.alreadyExists booking), false)], ?_, hbefore, ?_⟩
    · rw [creations_create, hcreate, heq]
      simp
    · intro c hc
      rcases List.mem_append.mp hc with hc | hc
      · exact hafter c hc
      · exact List.mem_singleton.mp hc

theorem Deduped.created (h : Deduped booking t) (hsound : t.world.store.Sound)
    (hreliable : t.world.Reliable) (cause : Option String) :
    Deduped booking ⟨(t.world.create booking cause).2, calls,
      t.log ++ entries i [Call.creationDeed t.world booking cause]⟩ := by
  rcases Nat.eq_zero_or_pos (t.world.store.count booking) with hzero | hpos
  · exact h.created_of_absent hsound hreliable hzero cause
  · exact h.created_of_present hreliable hpos cause

end Created

theorem Deduped.happens {booking : BookingId} {t t' : Traffic} (h : Deduped booking t)
    (hsound : t.Sound) (hreliable : t.world.Reliable) (hhappens : t.Happens t') :
    Deduped booking t' := by
  cases hhappens with
  | rested hrest =>
    refine h.of_eq (by rw [hrest.store]) ?_
    unfold creations
    rw [hrest.log]
  | @created i c c' b cause hi hc hidle hidle' =>
    by_cases hb : b = booking
    · subst hb
      exact h.created hsound.sound hreliable cause
    · refine h.of_eq (count_create_of_ne hsound.sound hb cause) ?_
      have hds : [Call.creationDeed t.world b cause].filterMap (Deed.creation? booking) = [] := by
        unfold Call.creationDeed
        simp [Deed.creation?, hb]
      rw [creations_append, hds]
      exact List.append_nil _
  | worked hi hk hk' hacts =>
    refine h.of_eq ?_ ?_
    · rcases hacts.store (hsound.fits _ _ ((workerOf?_of_call hi).trans hk)) with
        hstore | ⟨row, n, hrow, hfollows, hstore⟩
      · rw [hstore]
      · rw [hstore, Store.count_eq, Store.count_eq,
          Store.bookings_put hsound.sound.sorted hrow hfollows.booking]
    · rw [creations_append]
      cases hacts <;> exact List.append_nil _

/-! ## Every run -/

end Traffic

/-- No call on the store is made to fail; anything else may. -/
def Move.Reliable : Move → Prop
  | .change s => ∀ c, s.storeFaults c = []
  | _ => True

namespace Traffic

theorem reliable_step {t : Traffic} {m : Move} (hsane : t.Sane) (hm : m.Reliable)
    (h : t.world.Reliable) : (t.step m).world.Reliable := by
  rcases steady_step hsane m with ⟨s, rfl⟩ | hsteady
  · exact hm
  · exact h.steady hsteady

theorem deduped_run {w : World} (hempty : w.store = {}) (hreliable : w.Reliable)
    {moves : List Move} (hmoves : ∀ m ∈ moves, m.Reliable) (booking : BookingId) :
    (Traffic.run { world := w } moves).world.Reliable ∧
      Deduped booking (Traffic.run { world := w } moves) := by
  have hbegin : Deduped booking { world := w } := by
    constructor
    · intro _ c hc
      cases hc
    · intro hpos
      have hpos : 0 < w.store.count booking := hpos
      rw [hempty] at hpos
      cases hpos
  have hrun := run_induction (P := fun t => t.Sound ∧ t.world.Reliable ∧ Deduped booking t)
    (fun t m ht hm => by
      obtain ⟨hsound, hreliable, hdeduped⟩ := ht
      have hhappens := happens_step hsound.toSane m
      exact ⟨hsound.happens hhappens, reliable_step hsound.toSane hm hreliable,
        hdeduped.happens hsound hreliable hhappens⟩)
    moves { world := w } ⟨Sound.begin hempty, hreliable, hbegin⟩ hmoves
  exact hrun.2

/-- In traffic that begins with an empty store, however creations, workers, sweeps and deliveries
are mixed, and whatever fails, no booking has two rows. If the store does not fail, then creations
are refused, because they cannot be announced, as long as the booking has no row. Once it has one,
exactly one creation has succeeded, which is the one that was announced; all since then were
repeated, and so is the next, directly or because of a payment: it changes nothing, and publishes
nothing. -/
theorem created_once {w : World} (hempty : w.store = {}) (moves : List Move)
    (booking : BookingId) :
    let t := Traffic.run { world := w } moves
    t.world.store.count booking ≤ 1 ∧
    (w.Reliable → (∀ m ∈ moves, m.Reliable) →
      (t.world.store.count booking = 0 → ∀ c ∈ t.creations booking, Refused c) ∧
      (0 < t.world.store.count booking →
        (∃ before n after, t.creations booking = before ++ (.ok n, true) :: after ∧
          (∀ c ∈ before, Refused c) ∧ ∀ c ∈ after, Repeated booking c) ∧
        (∀ cause, t.world.create booking cause = (.error (.alreadyExists booking), t.world)) ∧
        ∀ e payment, Event.PaymentCompleted.ofEvent e = .ok payment → payment.booking = booking →
          t.world.consume .paymentCompleted e = (.ok (), t.world))) := by
  intro t
  have hsound : t.Sound := sound_run hempty moves
  refine ⟨?_, fun hreliable hmoves => ?_⟩
  · rw [Store.count_eq]
    exact List.nodup_iff_count.mp hsound.sound.once booking
  · obtain ⟨hreliable, hdeduped⟩ := deduped_run hempty hreliable hmoves booking
    refine ⟨hdeduped.absent, fun hpos => ?_⟩
    have hcreate := World.create_of_count_pos hreliable hpos
    refine ⟨hdeduped.present hpos, hcreate, fun e payment hread hbooking => ?_⟩
    subst hbooking
    unfold World.consume
    dsimp only
    rw [hread]
    dsimp only
    rw [hcreate]
    rfl

/-- The announcement of the first creation is refused; the second one succeeds, and the third one is
repeated. -/
theorem refused_creation_gives_way :
    let w := { World.oneBooking with bus := { refusals := .firstTimes 1 } }
    let moves :=
      List.replicate 3 (.start (.create ⟨7⟩ none)) ++ [.advance 0, .advance 1, .advance 2]
    let t := Traffic.run { world := w } moves
    w.store = {} ∧ w.Reliable ∧ (∀ m ∈ moves, m.Reliable) ∧ 0 < t.world.store.count ⟨7⟩ ∧
    t.world.create ⟨7⟩ none = (.error (.alreadyExists ⟨7⟩), t.world) ∧
    (t.creations ⟨7⟩).map (fun c => c.2) = [false, true, false] := by
  intro w moves t
  have hempty : w.store = {} := rfl
  have hreliable : w.Reliable := fun _ => rfl
  have hmoves : ∀ m ∈ moves, m.Reliable := by simp [moves, Move.Reliable]
  have hpos : 0 < t.world.store.count ⟨7⟩ := by decide +kernel
  obtain ⟨-, hdeduped⟩ := created_once hempty moves ⟨7⟩
  obtain ⟨-, hpresent⟩ := hdeduped hreliable hmoves
  have ht : t = Traffic.run { world := w } moves := rfl
  rw [← ht] at hpresent
  obtain ⟨-, hrepeated, -⟩ := hpresent hpos
  refine ⟨hempty, hreliable, hmoves, hpos, hrepeated none, ?_⟩
  decide +kernel

end Traffic

end BookingNotices
