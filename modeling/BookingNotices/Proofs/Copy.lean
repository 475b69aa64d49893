import BookingNotices.Proofs.Clock
import BookingNotices.Proofs.Shelf
import BookingNotices.Proofs.Worker

/-!
# A worker's own copy of a row

* `Notice.decided`    : what a claimed notice becomes once its booking is known;
* `Worker.file?`      : the claimed notice and its booking, as long as the outcome is not decided;
* `Worker.Copies`     : how a step changes what a worker carries;
* `Worker.copies_step` : every step of a worker changes it in one of these ways.

A worker takes its copy from the row when it takes the row, and decides on the copy. So whatever
holds of the row then, and of the booking that was looked up, holds of the outcome.
-/

namespace BookingNotices

namespace Notice

/-- The status in which the work on a booking's notice ends. -/
def Status.ofBooking : Booking.Status → Status
  | .confirmed => .success
  | .cancelled => .success
  | .initializing => .failed
  | .pending => .failed

/-- What a claimed notice becomes once its booking is known. -/
def decided (n : Notice) (b : Booking) (now : Timestamp) : Notice :=
  { n with
    status := .ofBooking b.status
    document := if b.isConfirmed then documentName b.id else n.document
    updated := now }

theorem decided_of_confirmed {b : Booking} (h : b.status = .confirmed) (n : Notice)
    (now : Timestamp) :
    n.decided b now =
      { n with status := .success, document := documentName b.id, updated := now } := by
  unfold decided Booking.isConfirmed
  rw [h]
  rfl

theorem decided_of_cancelled {b : Booking} (h : b.status = .cancelled) (n : Notice)
    (now : Timestamp) : n.decided b now = { n with status := .success, updated := now } := by
  unfold decided Booking.isConfirmed
  rw [h]
  rfl

theorem decided_of_open {b : Booking} (h : b.status = .initializing ∨ b.status = .pending)
    (n : Notice) (now : Timestamp) :
    n.decided b now = { n with status := .failed, updated := now } := by
  unfold decided Booking.isConfirmed
  rcases h with h | h <;> rw [h] <;> rfl

end Notice

namespace Worker

/-- The claimed notice and its booking, as long as the outcome is not decided. -/
def file? : Worker → Option (Notice × Booking)
  | .findingUser n b => some (n, b)
  | .findingShowtime n b _ => some (n, b)
  | .findingSeat n b _ _ => some (n, b)
  | .storing n b _ _ => some (n, b)
  | _ => none

theorem lease?_of_file? {k : Worker} {n : Notice} {b : Booking} (h : k.file? = some (n, b)) :
    k.lease? = some (n.id, n.updated) := by
  cases k with
  | findingUser => cases h; rfl
  | findingShowtime => cases h; rfl
  | findingSeat => cases h; rfl
  | storing => cases h; rfl
  | _ => cases h

/-- How a step changes what a worker carries. -/
inductive Copies (k : Worker) (w : World) : Worker → World → Prop where
  /-- the row is taken, and copied as it is stored -/
  | taken {n row i w'} (hrow : w.store.rows.find? n.id = some row)
      (hopen : row.status = .pending ∨ row.status = .processing)
      (hn : n = { row with status := .processing, updated := w.clock.answer i })
      (hi : w.clock.used ≤ i) (hi' : i < w'.clock.used) (hstore : w'.store = w.store.put n) :
      Copies k w (.findingBooking n) w'
  | found {n b w'} (hk : k = .findingBooking n)
      (hb : (w.registry.booking n.booking).1 = .ok b) : Copies k w (.findingUser n b) w'
  /-- another record is looked up -/
  | kept {n b k' w'} (hk : k.file? = some (n, b)) (hk' : k'.file? = some (n, b)) : Copies k w k' w'
  /-- an invoice is stored before it is decided that there is one -/
  | decided {n b user i w'} (hk : k.file? = some (n, b)) (hi : w.clock.used ≤ i)
      (hi' : i < w'.clock.used)
      (hblob : b.status = .confirmed → w'.shelf.has (Notice.documentName b.id) = true) :
      Copies k w (.resolving n.updated (n.decided b (w.clock.answer i)) b user) w'
  /-- the copy is stored, or given up -/
  | dropped {k' w'} (hk' : k'.lease? = none) : Copies k w k' w'

theorem Copies.failing {k : Worker} {w w' : World} (e : Notice.Error) :
    Copies k w (failing e) w' := .dropped rfl

/-! ## Taking a row -/

theorem copies_claiming {w : World} (hkeyed : w.store.Keyed) (id : NoticeId) :
    Copies (.claiming id) w ((Worker.claiming id).step w).1 ((Worker.claiming id).step w).2 := by
  dsimp only [step]
  rcases Transaction.run_cases (Transaction.aside_claim id) Option.isSome w with
    ⟨e, w', hrun, -⟩ | ⟨w₁, taken, staged, w₂, w', hbegun, hwork, hended, -, hrun⟩
  · rw [hrun]
    exact .failing e
  · rw [hrun]
    cases taken with
    | none => exact .dropped rfl
    | some n =>
      obtain ⟨row, hrow, hpending, hn, -, rfl, w₃, hwritten, hann⟩ := Transaction.claim_eq_ok hwork
      have hid : n.id = id := by rw [hn]; exact hkeyed id row hrow
      subst hid
      rw [hbegun.clock] at hn
      -- the clock is read once more for the announcement
      have hticks : w₃.Ticks w₂ := by
        have := Transaction.Respects.announce World.ticks_habit.toFrame World.ticks_publishes
          n.id none (w.store.put n) w₃
        rwa [hann] at this
      have hused : w.clock.used < w'.clock.used := by
        have hle := hticks.used
        rw [(hbegun.now.trans hwritten).clock] at hle
        rw [hended.clock]
        exact hle
      exact .taken hrow (Or.inl hpending) hn (Nat.le_refl _) hused rfl

theorem copies_renewing {w : World} (hkeyed : w.store.Keyed) (id : NoticeId) (threshold : Nat) :
    Copies (.renewing id threshold) w ((Worker.renewing id threshold).step w).1
      ((Worker.renewing id threshold).step w).2 := by
  dsimp only [step]
  rcases Transaction.run_cases (Transaction.aside_renew id threshold) Option.isSome w with
    ⟨e, w', hrun, -⟩ | ⟨w₁, taken, staged, w₂, w', hbegun, hwork, hended, -, hrun⟩
  · rw [hrun]
    exact .failing e
  · rw [hrun]
    cases taken with
    | none => exact .dropped rfl
    | some n =>
      obtain ⟨row, hrow, hstale, hn, -, rfl, hwritten⟩ := Transaction.renew_eq_ok hwork
      have hid : n.id = id := by rw [hn]; exact hkeyed id row hrow
      subst hid
      rw [hbegun.clock] at hn
      have hprocessing := Notice.processing_of_isStale hstale
      have hused : w.clock.used + 1 < w'.clock.used := by
        rw [((hbegun.now.now.trans hwritten).trans hended).clock]
        exact Nat.lt_succ_self _
      refine .taken hrow (Or.inr hprocessing) ?_ (Nat.le_succ _) hused rfl
      rw [hn, hprocessing]

/-! ## Deciding on the copy -/

/-- An invoice that is stored is on the shelf, under the name of its booking. -/
theorem storeInvoice_eq_ok {booking : Booking} {invoice : Invoice.Params} {w w' : World}
    {name : String} (h : storeInvoice booking invoice w = (.ok name, w')) :
    name = Notice.documentName booking.id ∧ w'.shelf.has name = true ∧ w'.clock = w.clock := by
  unfold storeInvoice at h
  split at h
  · cases h
  · rename_i bytes w₁ hrender
    have hclock : w₁.clock = w.clock := (congrArg (fun r => r.2.clock) hrender).symm
    dsimp only at h
    split at h
    · cases h
    · rename_i shelf hput
      cases h
      exact ⟨rfl, Shelf.has_of_put hput, hclock⟩

theorem copies_findingUser (w : World) {n : Notice} (booking : Booking)
    (hprocessing : n.status = .processing) :
    Copies (.findingUser n booking) w ((Worker.findingUser n booking).step w).1
      ((Worker.findingUser n booking).step w).2 := by
  have decided (user : User) (r : Registry) (hother : booking.status ≠ .confirmed) :
      Copies (.findingUser n booking) w
        (.resolving n.updated (n.decided booking w.next) booking user)
        (World.now { w with registry := r }).2 :=
    .decided rfl (Nat.le_refl _) (Nat.lt_succ_self _) fun hconfirmed => absurd hconfirmed hother
  dsimp only [step]
  split
  · exact .failing _
  · rename_i user registry hfound
    unfold afterUser
    split
    · exact .kept rfl rfl
    · rename_i hcancelled
      dsimp only [World.now, Supply.next]
      rw [Notice.complete_of_processing hprocessing, ← Notice.decided_of_cancelled hcancelled]
      exact decided user registry (by rw [hcancelled]; decide)
    · rename_i hopen
      dsimp only [World.now, Supply.next]
      rw [Notice.fail_of_processing hprocessing, ← Notice.decided_of_open (Or.inl hopen)]
      exact decided user registry (by rw [hopen]; decide)
    · rename_i hopen
      dsimp only [World.now, Supply.next]
      rw [Notice.fail_of_processing hprocessing, ← Notice.decided_of_open (Or.inr hopen)]
      exact decided user registry (by rw [hopen]; decide)

theorem copies_storing (w : World) {n : Notice} {booking : Booking} (user : User)
    (invoice : Invoice.Params) (hprocessing : n.status = .processing)
    (hconfirmed : booking.status = .confirmed) :
    Copies (.storing n booking user invoice) w ((Worker.storing n booking user invoice).step w).1
      ((Worker.storing n booking user invoice).step w).2 := by
  dsimp only [step]
  split
  · exact .failing _
  · rename_i name w' hstore
    obtain ⟨rfl, hblob, hclock⟩ := storeInvoice_eq_ok hstore
    cases hcomplete : n.completeWith (Notice.documentName booking.id) w'.now.1 with
    | error e => exact .failing e
    | ok m =>
      have hm := (Notice.completeWith_of_processing hprocessing hcomplete).1
      have hnow : w'.now.1 = w.clock.answer w.clock.used := by
        unfold World.now Supply.next
        rw [hclock]
      have hm : m = n.decided booking (w.clock.answer w.clock.used) := by
        rw [Notice.decided_of_confirmed hconfirmed, hm, hnow]
      rw [hm]
      refine .decided rfl (Nat.le_refl _) ?_ fun _ => hblob
      show w.clock.used < w'.clock.used + 1
      rw [hclock]
      exact Nat.lt_succ_self _

/-! ## Every step -/

theorem lease?_afterResolving (n : Notice) (booking : Booking) (user : User) :
    (afterResolving n booking user).lease? = none := by
  unfold afterResolving
  split <;> rfl

/-- Every step changes what a worker carries in one of these ways. -/
theorem copies_step {k : Worker} {w : World} (hkeyed : w.store.Keyed) (hfits : k.Fits w.store) :
    Copies k w (k.step w).1 (k.step w).2 := by
  cases k with
  | claiming id => exact copies_claiming hkeyed id
  | renewing id threshold => exact copies_renewing hkeyed id threshold
  | findingBooking n =>
    dsimp only [step]
    split
    · exact .failing _
    · rename_i booking registry hfound
      exact .found rfl (by rw [hfound])
  | findingUser n booking => exact copies_findingUser w booking hfits.processing
  | findingShowtime n booking user =>
    dsimp only [step]
    split
    · exact .failing _
    · exact .kept rfl rfl
  | findingSeat n booking user showtime =>
    dsimp only [step]
    split
    · exact .failing _
    · exact .kept rfl rfl
  | storing n booking user invoice =>
    exact copies_storing w user invoice hfits.1.processing hfits.2
  | resolving since n booking user =>
    dsimp only [step]
    split
    · exact .failing _
    · split
      · exact .failing _
      · exact .dropped rfl
      · exact .dropped (lease?_afterResolving n booking user)
  | composing n user email =>
    dsimp only [step]
    split
    · exact .failing _
    · exact .dropped rfl
  | sending n mail =>
    dsimp only [step]
    split
    · exact .failing _
    · exact .dropped rfl
  | ended result => exact .dropped rfl

end Worker

end BookingNotices
