import BookingNotices.Proofs.Transaction

/-!
# What a step of a worker does

* `Deed`              : what others can see of a step; `lands`, `due`, `hands`, `mails`, `spoils`
  and `completes` are the kinds of it that are counted, row by row;
* `Worker.lease?`     : the row that a worker has claimed, and the instant of that claim;
* `Worker.owed?`      : the notice whose outcome is stored and whose mail is still to go out;
* `Worker.Fits`       : what a worker carries agrees with the store (`Fits.mono`);
* `Worker.Acts`       : the kinds of step that a worker takes;
* `Worker.goes_step`  : every step is of one of these kinds, and leads to a worker that fits;
* `Worker.Stores`     : what a step does to the store (`Acts.stores`);
* `Acts.store`, `Acts.evolves` : it writes at most one row, which follows the one before it.
-/

namespace BookingNotices

/-! ## Deeds -/

/-- What others can see of a step. -/
inductive Deed where
  /-- somebody asked for a notice about a booking; was it announced? -/
  | created (booking : BookingId) (result : Except Notice.Error Notice) (announced : Bool)
  | claimed (n : Notice)
  | renewed (n : Notice) (threshold : Nat)
  /-- the outcome of a claim was stored -/
  | landed (n : Notice)
  /-- a mail about a notice was handed to the mailer; did it accept? -/
  | handed (n : Notice) (mail : Mail.Message) (accepted : Bool)
  /-- the outcome is stored, and its mail was given up -/
  | unsent (n : Notice) (e : Notice.Error)
  | completed (n : Notice)

namespace Deed

/-- The outcome of a row is stored. -/
@[simp] def lands (id : NoticeId) : Deed → Bool
  | .landed n => n.id = id
  | _ => false

/-- The outcome of a row is stored, and is to be mailed. -/
@[simp] def due (id : NoticeId) : Deed → Bool
  | .landed n => n.id = id && n.status = .success
  | _ => false

/-- A mail about a row is handed to the mailer. -/
@[simp] def hands (id : NoticeId) : Deed → Bool
  | .handed n _ _ => n.id = id
  | _ => false

/-- A mail about a row is accepted by the mailer. -/
@[simp] def mails (id : NoticeId) : Deed → Bool
  | .handed n _ accepted => n.id = id && accepted
  | _ => false

/-- The mail about a row is given up. -/
@[simp] def spoils (id : NoticeId) : Deed → Bool
  | .unsent n _ => n.id = id
  | _ => false

/-- The work on a row is complete. -/
@[simp] def completes (id : NoticeId) : Deed → Bool
  | .completed n => n.id = id
  | _ => false

end Deed

namespace World

/-- One row is written and nothing is mailed. -/
structure Puts (n : Notice) (w w' : World) : Prop extends Steady w w' where
  store : w'.store = w.store.put n
  sent : w'.outbox.sent = w.outbox.sent

theorem Aside.puts {w w' : World} (h : w.Aside w') (n : Notice) :
    Puts n w { w' with store := w.store.put n } := ⟨⟨h.clock, h.faults⟩, rfl, h.sent⟩

theorem Aside.registry (w : World) (r : Registry) : w.Aside { w with registry := r } :=
  ⟨⟨rfl, fun _ => Nat.le_refl _⟩, rfl, rfl⟩

theorem Aside.render (w : World) (p : Invoice.Params) : w.Aside (w.render p).2 :=
  ⟨⟨rfl, fun _ => Nat.le_refl _⟩, rfl, rfl⟩

theorem Aside.shelf (w : World) (s : Shelf) : w.Aside { w with shelf := s } :=
  ⟨⟨rfl, fun _ => Nat.le_refl _⟩, rfl, rfl⟩

end World

namespace Notice

/-- A worker's copy of a row that it has claimed. -/
structure Held (s : Store) (n : Notice) : Prop where
  processing : n.status = .processing
  set : n.id.isUnset = false
  row : ∃ row, s.rows.find? n.id = some row ∧ Kin n row

/-- A notice that tells the outcome of a booking. -/
structure Settles (n : Notice) (b : Booking) : Prop where
  final : n.status.isFinal = true
  told : (Email.forBooking b).isSome = true ↔ n.status = .success
  document : ∀ email, Email.forBooking b = some email → email.attachInvoice = true →
    n.hasDocument = true

/-- A row whose outcome is stored. -/
structure Stored (s : Store) (n : Notice) : Prop where
  success : n.status = .success
  row : s.rows.find? n.id = some n

theorem Held.mono {s s' : Store} {n : Notice} (hs : s.Evolves s') (h : n.Held s) : n.Held s' := by
  obtain ⟨row, hrow, hkin⟩ := h.row
  obtain ⟨row', hrow', hfollows⟩ := hs n.id row hrow
  exact ⟨h.processing, h.set, row', hrow', hkin.trans hfollows.toKin⟩

theorem Stored.mono {s s' : Store} {n : Notice} (hs : s.Evolves s') (h : n.Stored s) :
    n.Stored s' :=
  ⟨h.success, hs.final h.row ((Status.isFinal_iff _).mpr (Or.inl h.success))⟩

/-! ## The steps of a claimed notice -/

theorem processing_of_isStale {n : Notice} {now : Timestamp} {threshold : Nat}
    (h : n.isStale now threshold = true) : n.status = .processing := by
  unfold isStale at h
  rw [Bool.and_eq_true, decide_eq_true_eq] at h
  exact h.1

theorem complete_of_processing {n : Notice} (h : n.status = .processing) (now : Timestamp) :
    n.complete now = .ok { n with status := .success, updated := now } := by
  unfold complete advance
  rw [h]
  rfl

theorem fail_of_processing {n : Notice} (h : n.status = .processing) (now : Timestamp) :
    n.fail now = .ok { n with status := .failed, updated := now } := by
  unfold fail advance
  rw [h]
  rfl

theorem completeWith_of_processing {n m : Notice} {document : String} {now : Timestamp}
    (h : n.status = .processing) (hm : n.completeWith document now = .ok m) :
    m = { n with status := .success, updated := now, document := document } ∧
      m.hasDocument = true := by
  unfold completeWith at hm
  split at hm
  · cases hm
  · rename_i hblank
    have hadvance : n.advance .success now = .ok { n with status := .success, updated := now } := by
      unfold advance
      rw [h]
      rfl
    rw [hadvance] at hm
    cases hm
    refine ⟨rfl, ?_⟩
    unfold hasDocument
    by_cases hempty : document = ""
    · subst hempty
      exact absurd rfl hblank
    · simpa using hempty

end Notice

namespace Worker

/-- What others can see of a step, from where the worker stood before and after it. -/
def deeds : Worker → Worker → List Deed
  | .claiming _, .findingBooking n => [.claimed n]
  | .renewing _ threshold, .findingBooking n => [.renewed n threshold]
  | .resolving _ n _ _, .composing _ _ _ => [.landed n]
  | .resolving _ n _ _, .ended (.ok (.completed _)) => [.landed n, .completed n]
  | .composing n _ _, .ended (.error e) => [.unsent n e]
  | .sending n mail, .ended (.error e) => [.handed n mail false, .unsent n e]
  | .sending n mail, .ended (.ok _) => [.handed n mail true, .completed n]
  | _, _ => []

/-- The row that a worker has claimed, and the instant of that claim. -/
def lease? : Worker → Option (NoticeId × Timestamp)
  | .findingBooking n => some (n.id, n.updated)
  | .findingUser n _ => some (n.id, n.updated)
  | .findingShowtime n _ _ => some (n.id, n.updated)
  | .findingSeat n _ _ _ => some (n.id, n.updated)
  | .storing n _ _ _ => some (n.id, n.updated)
  | .resolving since n _ _ => some (n.id, since)
  | _ => none

/-- The notice whose outcome is stored and whose mail is still to go out. -/
def owed? : Worker → Option Notice
  | .composing n _ _ => some n
  | .sending n _ => some n
  | _ => none

/-- What a worker carries agrees with the store. -/
def Fits (s : Store) : Worker → Prop
  | .findingBooking n => n.Held s
  | .findingUser n _ => n.Held s
  | .findingShowtime n booking _ => n.Held s ∧ booking.status = .confirmed
  | .findingSeat n booking _ _ => n.Held s ∧ booking.status = .confirmed
  | .storing n booking _ _ => n.Held s ∧ booking.status = .confirmed
  | .resolving _ n booking _ =>
    n.id.isUnset = false ∧ (∃ row, s.rows.find? n.id = some row ∧ n.Kin row) ∧ n.Settles booking
  | .composing n _ email => n.Stored s ∧ (email.attachInvoice = true → n.hasDocument = true)
  | .sending n _ => n.Stored s
  | .claiming _ => True
  | .renewing _ _ => True
  | .ended _ => True

theorem Fits.mono {s s' : Store} (hs : s.Evolves s') {k : Worker} (h : k.Fits s) : k.Fits s' := by
  cases k with
  | claiming => trivial
  | renewing => trivial
  | findingBooking => exact Notice.Held.mono hs h
  | findingUser => exact Notice.Held.mono hs h
  | findingShowtime => exact ⟨h.1.mono hs, h.2⟩
  | findingSeat => exact ⟨h.1.mono hs, h.2⟩
  | storing => exact ⟨h.1.mono hs, h.2⟩
  | resolving since n =>
    obtain ⟨hset, ⟨row, hrow, hkin⟩, hsettles⟩ := h
    obtain ⟨row', hrow', hfollows⟩ := hs n.id row hrow
    exact ⟨hset, ⟨row', hrow', hkin.trans hfollows.toKin⟩, hsettles⟩
  | composing => exact ⟨h.1.mono hs, h.2⟩
  | sending => exact Notice.Stored.mono hs h
  | ended => trivial

/-! ## The kinds of step -/

/-- A worker stores the outcome of its claim, which still holds. -/
structure Resolves (k : Worker) (w : World) (n : Notice) (w' : World) : Prop where
  claim : ∃ since booking user, k = .resolving since n booking user ∧
    w.store.claimHolds n.id since = true
  puts : w.Puts n w'

/-- The kinds of step that a worker takes, with what others can see of each. -/
inductive Acts (k : Worker) (w : World) : Worker → World → List Deed → Prop where
  | claimed {row n now w'} (hk : k = .claiming n.id) (hrow : w.store.rows.find? n.id = some row)
      (hpending : row.status = .pending)
      (hn : n = { row with status := .processing, updated := now }) (hw : w.Puts n w') :
      Acts k w (.findingBooking n) w' [.claimed n]
  | renewed {row n threshold w'} (hk : k = .renewing n.id threshold)
      (hrow : w.store.rows.find? n.id = some row)
      (hstale : row.isStale (w.clock.answer w.clock.used) threshold = true)
      (hn : n = { row with updated := w.clock.answer (w.clock.used + 1) }) (hw : w.Puts n w') :
      Acts k w (.findingBooking n) w' [.renewed n threshold]
  /-- a step on the worker's own copy -/
  | worked {lease k' w'} (hk : k.lease? = some lease) (hk' : k'.lease? = some lease)
      (hw : w.Aside w') : Acts k w k' w' []
  /-- the claim is given up, is lost, or was never got -/
  | stopped {r w'} (hk : k.owed? = none) (hr : ∀ n, r ≠ .ok (.completed n)) (hw : w.Aside w') :
      Acts k w (.ended r) w' []
  /-- an outcome is stored that is to be told -/
  | landed {n user email w'} (h : k.Resolves w n w') (hn : n.status = .success) :
      Acts k w (.composing n user email) w' [.landed n]
  /-- an outcome is stored that nobody is told -/
  | settled {n w'} (h : k.Resolves w n w') (hn : n.status = .failed) :
      Acts k w (.ended (.ok (.completed n))) w' [.landed n, .completed n]
  | composed {n user email mail w'} (hk : k = .composing n user email) (hw : w.Aside w') :
      Acts k w (.sending n mail) w' []
  /-- the invoice cannot be read -/
  | spoiled {n user email e w'} (hk : k = .composing n user email) (he : e.isRetryable = true)
      (hw : w.Aside w') : Acts k w (.ended (.error e)) w' [.unsent n e]
  | refused {n mail e w'} (hk : k = .sending n mail) (he : e.isRetryable = true)
      (hw : w.Aside w') : Acts k w (.ended (.error e)) w' [.handed n mail false, .unsent n e]
  | accepted {n mail w'} (hk : k = .sending n mail) (hw : w.Steady w')
      (hstore : w'.store = w.store) (hsent : w'.outbox.sent = w.outbox.sent ++ [mail]) :
      Acts k w (.ended (.ok (.completed n))) w' [.handed n mail true, .completed n]

/-- A step of one of these kinds, to a worker that fits. -/
structure Goes (k : Worker) (w : World) (next : Worker × World) : Prop where
  acts : Acts k w next.1 next.2 (deeds k next.1)
  fits : next.1.Fits next.2.store

/-- A worker that has nothing to mail yet may fail. -/
theorem Goes.failing {k : Worker} {w w' : World} (e : Notice.Error) (hk : k.owed? = none)
    (hw : w.Aside w') : Goes k w (failing e, w') := by
  refine ⟨?_, trivial⟩
  have hdeeds : deeds k (Worker.failing e) = [] := by
    cases k with
    | composing => cases hk
    | sending => cases hk
    | _ => rfl
  rw [hdeeds]
  exact .stopped hk (fun _ h => nomatch h) hw

/-! ## Taking a row -/

theorem goes_claiming {w : World} (hkeyed : w.store.Keyed) (id : NoticeId) :
    Goes (.claiming id) w ((Worker.claiming id).step w) := by
  dsimp only [step]
  rcases Transaction.run_cases (Transaction.aside_claim id) Option.isSome w with
    ⟨e, w', hrun, hw⟩ | ⟨w₁, taken, staged, w₂, w', hbegun, hwork, -, hw, hrun⟩
  · rw [hrun]
    exact Goes.failing e rfl hw
  · rw [hrun]
    cases taken with
    | none => exact ⟨.stopped rfl (fun _ h => nomatch h) hw, trivial⟩
    | some n =>
      obtain ⟨row, hrow, hpending, hn, hset, rfl, -⟩ := Transaction.claim_eq_ok hwork
      have hid : n.id = id := by rw [hn]; exact hkeyed id row hrow
      subst hid
      refine ⟨.claimed rfl hrow hpending hn (hw.puts n), ?_⟩
      exact ⟨by rw [hn], hset, n, Store.find?_put_self _ n, Notice.Kin.refl n⟩

theorem goes_renewing {w : World} (hkeyed : w.store.Keyed) (id : NoticeId) (threshold : Nat) :
    Goes (.renewing id threshold) w ((Worker.renewing id threshold).step w) := by
  dsimp only [step]
  rcases Transaction.run_cases (Transaction.aside_renew id threshold) Option.isSome w with
    ⟨e, w', hrun, hw⟩ | ⟨w₁, taken, staged, w₂, w', hbegun, hwork, -, hw, hrun⟩
  · rw [hrun]
    exact Goes.failing e rfl hw
  · rw [hrun]
    cases taken with
    | none => exact ⟨.stopped rfl (fun _ h => nomatch h) hw, trivial⟩
    | some n =>
      obtain ⟨row, hrow, hstale, hn, hset, rfl, -⟩ := Transaction.renew_eq_ok hwork
      rw [hbegun.clock] at hstale hn
      have hid : n.id = id := by rw [hn]; exact hkeyed id row hrow
      subst hid
      refine ⟨.renewed rfl hrow hstale hn (hw.puts n), ?_⟩
      refine ⟨?_, hset, n, Store.find?_put_self _ n, Notice.Kin.refl n⟩
      rw [hn]
      show row.status = .processing
      exact Notice.processing_of_isStale hstale

/-! ## Working on the copy -/

theorem goes_findingBooking {w : World} {n : Notice} (h : n.Held w.store) :
    Goes (.findingBooking n) w ((Worker.findingBooking n).step w) := by
  dsimp only [step]
  split
  · exact Goes.failing _ rfl (World.Aside.registry w _)
  · exact ⟨.worked rfl rfl (World.Aside.registry w _), h⟩

/-- The outcome of a claimed notice is the worker's next aim, or the worker fails. -/
theorem goes_towards {k : Worker} {w w' : World} {n : Notice} {booking : Booking}
    {result : Except Notice.Error Notice} (user : User) (hk : k.lease? = some (n.id, n.updated))
    (howed : k.owed? = none) (h : n.Held w.store) (hw : w.Aside w')
    (hresult : ∀ m, result = .ok m → n.Kin m ∧ m.Settles booking) :
    Goes k w (towards n booking user result, w') := by
  cases result with
  | error e => exact Goes.failing e howed hw
  | ok m =>
    obtain ⟨hkin, hsettles⟩ := hresult m rfl
    have hdeeds : deeds k (towards n booking user (.ok m)) = [] := by
      cases k with
      | claiming => cases hk
      | renewing => cases hk
      | _ => rfl
    obtain ⟨row, hrow, hrowkin⟩ := h.row
    refine ⟨?_, ?_⟩
    · rw [hdeeds]
      exact .worked hk (by rw [← hkin.id]; rfl) hw
    · show m.id.isUnset = false ∧ (∃ row, w'.store.rows.find? m.id = some row ∧ m.Kin row) ∧ _
      rw [hw.store, hkin.id]
      exact ⟨h.set, ⟨row, hrow, hkin.symm.trans hrowkin⟩, hsettles⟩

theorem goes_findingUser {w : World} {n : Notice} (booking : Booking) (h : n.Held w.store) :
    Goes (.findingUser n booking) w ((Worker.findingUser n booking).step w) := by
  dsimp only [step]
  split
  · exact Goes.failing _ rfl (World.Aside.registry w _)
  · rename_i user registry hfound
    have hw := World.Aside.registry w registry
    unfold afterUser
    split
    · rename_i hconfirmed
      exact ⟨.worked rfl rfl hw, h, hconfirmed⟩
    · rename_i hcancelled
      refine goes_towards user rfl rfl h (hw.trans (World.Aside.now _)) fun m hm => ?_
      rw [Notice.complete_of_processing h.processing] at hm
      cases hm
      refine ⟨⟨rfl, rfl, rfl⟩, rfl, ?_, fun email hemail hattach => ?_⟩
      · unfold Notice.Email.forBooking
        rw [hcancelled]
        exact ⟨fun _ => rfl, fun _ => rfl⟩
      · unfold Notice.Email.forBooking at hemail
        rw [hcancelled] at hemail
        cases hemail
        cases hattach
    all_goals
      rename_i hopen
      refine goes_towards user rfl rfl h (hw.trans (World.Aside.now _)) fun m hm => ?_
      rw [Notice.fail_of_processing h.processing] at hm
      cases hm
      have hsilent : Notice.Email.forBooking booking = none := by
        unfold Notice.Email.forBooking
        rw [hopen]
      refine ⟨⟨rfl, rfl, rfl⟩, rfl, ?_, fun email hemail => ?_⟩
      · rw [hsilent]
        exact ⟨(nomatch ·), (nomatch ·)⟩
      · rw [hsilent] at hemail
        cases hemail

theorem goes_findingShowtime {w : World} {n : Notice} {booking : Booking} (user : User)
    (h : n.Held w.store ∧ booking.status = .confirmed) :
    Goes (.findingShowtime n booking user) w ((Worker.findingShowtime n booking user).step w) := by
  dsimp only [step]
  split
  · exact Goes.failing _ rfl (World.Aside.registry w _)
  · exact ⟨.worked rfl rfl (World.Aside.registry w _), h⟩

theorem goes_findingSeat {w : World} {n : Notice} {booking : Booking} (user : User)
    (showtime : Showtime) (h : n.Held w.store ∧ booking.status = .confirmed) :
    Goes (.findingSeat n booking user showtime) w
      ((Worker.findingSeat n booking user showtime).step w) := by
  dsimp only [step]
  split
  · exact Goes.failing _ rfl (World.Aside.registry w _)
  · exact ⟨.worked rfl rfl (World.Aside.registry w _), h⟩

theorem aside_storeInvoice (w : World) (booking : Booking) (invoice : Invoice.Params) :
    w.Aside (storeInvoice booking invoice w).2 := by
  have hw := World.Aside.render w invoice
  unfold storeInvoice
  split
  · rename_i f w' hrender
    rw [hrender] at hw
    exact hw
  · rename_i bytes w' hrender
    rw [hrender] at hw
    dsimp only
    split
    · exact hw.trans (World.Aside.shelf w' _)
    · exact hw.trans (World.Aside.shelf w' _)

theorem goes_storing {w : World} {n : Notice} {booking : Booking} (user : User)
    (invoice : Invoice.Params) (h : n.Held w.store ∧ booking.status = .confirmed) :
    Goes (.storing n booking user invoice) w
      ((Worker.storing n booking user invoice).step w) := by
  obtain ⟨hheld, hconfirmed⟩ := h
  have hw := aside_storeInvoice w booking invoice
  dsimp only [step]
  split
  · rename_i f w' hstore
    rw [hstore] at hw
    exact Goes.failing _ rfl hw
  · rename_i name w' hstore
    rw [hstore] at hw
    refine goes_towards user rfl rfl hheld (hw.trans (World.Aside.now _)) fun m hm => ?_
    obtain ⟨hm, hdocument⟩ := Notice.completeWith_of_processing hheld.processing hm
    refine ⟨by rw [hm]; exact ⟨rfl, rfl, rfl⟩, by rw [hm]; rfl, ?_, fun _ _ _ => hdocument⟩
    unfold Notice.Email.forBooking
    rw [hconfirmed, hm]
    exact ⟨fun _ => rfl, fun _ => rfl⟩

/-! ## Storing the outcome and mailing it -/

theorem goes_resolving {w : World} {n : Notice} {booking : Booking} (since : Timestamp)
    (user : User) (h : (Worker.resolving since n booking user).Fits w.store) :
    Goes (.resolving since n booking user) w
      ((Worker.resolving since n booking user).step w) := by
  obtain ⟨hset, -, hsettles⟩ := h
  dsimp only [step]
  split
  · rename_i w' hfails
    exact Goes.failing _ rfl (World.Aside.of_storeFails hfails)
  · rename_i w' hfails
    have hw := World.Aside.of_storeFails hfails
    split
    · exact Goes.failing _ rfl hw
    · exact ⟨.stopped rfl (fun _ h => nomatch h) hw, trivial⟩
    · rename_i store hstore
      rw [hw.store] at hstore
      obtain ⟨-, rfl, hclaim⟩ := Store.resolve_eq_some hstore
      have hresolves : Resolves (.resolving since n booking user) w n _ :=
        ⟨⟨since, booking, user, rfl, Store.claimHolds_iff.mpr hclaim⟩, hw.puts n⟩
      have htold := hsettles.told
      unfold afterResolving
      cases hemail : Notice.Email.forBooking booking with
      | none =>
        rw [hemail] at htold
        have hfailed : n.status = .failed := by
          rcases (Notice.Status.isFinal_iff _).mp hsettles.final with hsuccess | hfailed
          · exact absurd (htold.mpr hsuccess) (by decide)
          · exact hfailed
        exact ⟨.settled hresolves hfailed, trivial⟩
      | some email =>
        rw [hemail] at htold
        have hsuccess : n.status = .success := htold.mp rfl
        refine ⟨.landed hresolves hsuccess, ?_⟩
        exact ⟨⟨hsuccess, Store.find?_put_self _ n⟩, hsettles.document email hemail⟩

/-- A mail about a stored outcome cannot be composed only if its invoice cannot be read. -/
theorem isRetryable_of_compose {n : Notice} {user : User} {email : Notice.Email}
    {shelf shelf' : Shelf} {e : Notice.Error}
    (hdocument : email.attachInvoice = true → n.hasDocument = true)
    (h : n.compose user email shelf = (.error e, shelf')) : e.isRetryable = true := by
  unfold Notice.compose at h
  dsimp only at h
  split at h
  · cases h
  · rename_i hattach
    rw [hdocument (by simpa using hattach)] at h
    split at h
    · rename_i hmissing
      exact absurd hmissing (by decide)
    · split at h
      · rename_i hread
        cases h
        exact Shelf.isRetryable_of_read hread
      · cases h

theorem goes_composing {w : World} {n : Notice} (user : User) {email : Notice.Email}
    (h : (Worker.composing n user email).Fits w.store) :
    Goes (.composing n user email) w ((Worker.composing n user email).step w) := by
  dsimp only [step]
  split
  · rename_i e shelf hcompose
    exact ⟨.spoiled rfl (isRetryable_of_compose h.2 hcompose) (World.Aside.shelf w shelf), trivial⟩
  · exact ⟨.composed rfl (World.Aside.shelf w _), h.1⟩

theorem goes_sending {w : World} {n : Notice} (mail : Mail.Message) :
    Goes (.sending n mail) w ((Worker.sending n mail).step w) := by
  dsimp only [step, Outbox.send]
  split
  · rename_i f outbox hsend
    split at hsend
    · cases hsend
      exact ⟨.refused rfl rfl ⟨⟨rfl, fun _ => Nat.le_refl _⟩, rfl, rfl⟩, trivial⟩
    · cases hsend
  · rename_i outbox hsend
    split at hsend
    · cases hsend
    · cases hsend
      exact ⟨.accepted rfl ⟨rfl, fun _ => Nat.le_refl _⟩ rfl rfl, trivial⟩

/-- Every step of a worker is of one of the kinds, and leads to a worker that fits. -/
theorem goes_step {k : Worker} {w : World} (hkeyed : w.store.Keyed) (hfits : k.Fits w.store)
    (hgoing : k.result? = none) : Goes k w (k.step w) := by
  cases k with
  | claiming id => exact goes_claiming hkeyed id
  | renewing id threshold => exact goes_renewing hkeyed id threshold
  | findingBooking => exact goes_findingBooking hfits
  | findingUser _ booking => exact goes_findingUser booking hfits
  | findingShowtime _ _ user => exact goes_findingShowtime user hfits
  | findingSeat _ _ user showtime => exact goes_findingSeat user showtime hfits
  | storing _ _ user invoice => exact goes_storing user invoice hfits
  | resolving since _ _ user => exact goes_resolving since user hfits
  | composing _ user => exact goes_composing user hfits
  | sending _ mail => exact goes_sending mail
  | ended => cases hgoing

/-! ## What becomes of the store -/

/-- What a step does to the store. -/
inductive Stores (k : Worker) (w : World) (k' : Worker) (w' : World) : Prop where
  | nothing (hnot : ∀ id n, k = .claiming id → k' ≠ .findingBooking n)
      (hstore : w'.store = w.store)
  | claimed {row n now} (hk : k = .claiming n.id) (hk' : k' = .findingBooking n)
      (hrow : w.store.rows.find? n.id = some row) (hpending : row.status = .pending)
      (hn : n = { row with status := .processing, updated := now })
      (hstore : w'.store = w.store.put n)
  | renewed {row n now threshold} (hk : k = .renewing n.id threshold)
      (hk' : k' = .findingBooking n) (hrow : w.store.rows.find? n.id = some row)
      (hprocessing : row.status = .processing) (hn : n = { row with updated := now })
      (hstore : w'.store = w.store.put n)
  | resolved {row n} (h : k.Resolves w n w') (hrow : w.store.rows.find? n.id = some row)
      (hprocessing : row.status = .processing) (hkin : row.Kin n)
      (hfinal : n.status.isFinal = true) (hstore : w'.store = w.store.put n)

theorem Acts.stores {k k' : Worker} {w w' : World} {ds : List Deed} (h : k.Acts w k' w' ds)
    (hfits : k.Fits w.store) : k.Stores w k' w' := by
  have resolved {n : Notice} (hresolves : k.Resolves w n w') : k.Stores w k' w' := by
    obtain ⟨since, booking, user, hk, hclaim⟩ := hresolves.claim
    obtain ⟨row, hrow, hprocessing, -⟩ := Store.claimHolds_iff.mp hclaim
    rw [hk] at hfits
    obtain ⟨-, ⟨row', hrow', hkin⟩, hsettles⟩ := hfits
    rw [hrow] at hrow'
    cases hrow'
    exact .resolved hresolves hrow hprocessing hkin.symm hsettles.final hresolves.puts.store
  have nothing (hk : ∀ id, k ≠ .claiming id) (hstore : w'.store = w.store) : k.Stores w k' w' :=
    .nothing (fun id _ hclaiming => absurd hclaiming (hk id)) hstore
  cases h with
  | claimed hk hrow hpending hn hw => exact .claimed hk rfl hrow hpending hn hw.store
  | renewed hk hrow hstale hn hw =>
    exact .renewed hk rfl hrow (Notice.processing_of_isStale hstale) hn hw.store
  | landed hresolves => exact resolved hresolves
  | settled hresolves => exact resolved hresolves
  | worked hk _ hw =>
    refine nothing (fun id hclaiming => ?_) hw.store
    rw [hclaiming] at hk
    cases hk
  | stopped _ _ hw => exact .nothing (fun _ _ _ => Worker.noConfusion) hw.store
  | composed hk hw => exact nothing (by rw [hk]; exact fun _ => Worker.noConfusion) hw.store
  | spoiled hk _ hw => exact nothing (by rw [hk]; exact fun _ => Worker.noConfusion) hw.store
  | refused hk _ hw => exact nothing (by rw [hk]; exact fun _ => Worker.noConfusion) hw.store
  | accepted hk _ hstore => exact nothing (by rw [hk]; exact fun _ => Worker.noConfusion) hstore

/-- A step leaves the store as it is, or writes one row that follows the one before it. -/
theorem Acts.store {k k' : Worker} {w w' : World} {ds : List Deed} (h : k.Acts w k' w' ds)
    (hfits : k.Fits w.store) :
    w'.store = w.store ∨ ∃ row n, w.store.rows.find? n.id = some row ∧ row.Follows n ∧
      w'.store = w.store.put n := by
  cases h.stores hfits with
  | nothing _ hstore => exact Or.inl hstore
  | claimed _ _ hrow hpending hn hstore =>
    refine Or.inr ⟨_, _, hrow, ?_, hstore⟩
    subst hn
    refine Notice.Follows.of_kin ⟨rfl, rfl, rfl⟩ ?_ (Or.inl hpending)
    rw [hpending]
    exact Nat.zero_le _
  | renewed _ _ hrow hprocessing hn hstore =>
    refine Or.inr ⟨_, _, hrow, ?_, hstore⟩
    subst hn
    exact Notice.Follows.of_kin ⟨rfl, rfl, rfl⟩ (Nat.le_refl _) (Or.inr hprocessing)
  | resolved _ hrow hprocessing hkin hfinal hstore =>
    refine Or.inr ⟨_, _, hrow, Notice.Follows.of_kin hkin ?_ (Or.inr hprocessing), hstore⟩
    rw [hprocessing]
    rcases (Notice.Status.isFinal_iff _).mp hfinal with hn | hn <;> rw [hn] <;> decide

theorem Acts.evolves {k k' : Worker} {w w' : World} {ds : List Deed} (h : k.Acts w k' w' ds)
    (hfits : k.Fits w.store) : w.store.Evolves w'.store := by
  rcases h.store hfits with hstore | ⟨row, n, hrow, hfollows, hstore⟩
  · exact Store.Evolves.of_eq hstore
  · rw [hstore]
    exact Store.Evolves.put hrow hfollows

theorem Acts.keyed {k k' : Worker} {w w' : World} {ds : List Deed} (h : k.Acts w k' w' ds)
    (hfits : k.Fits w.store) (hkeyed : w.store.Keyed) : w'.store.Keyed := by
  rcases h.store hfits with hstore | ⟨row, n, hrow, hfollows, hstore⟩
  · rw [hstore]
    exact hkeyed
  · rw [hstore]
    exact hkeyed.put n

theorem Acts.steady {k k' : Worker} {w w' : World} {ds : List Deed} (h : k.Acts w k' w' ds) :
    w.Steady w' := by
  cases h with
  | claimed _ _ _ _ hw => exact hw.toSteady
  | renewed _ _ _ _ hw => exact hw.toSteady
  | landed hresolves => exact hresolves.puts.toSteady
  | settled hresolves => exact hresolves.puts.toSteady
  | accepted _ hw => exact hw
  | worked _ _ hw => exact hw.toSteady
  | stopped _ _ hw => exact hw.toSteady
  | composed _ hw => exact hw.toSteady
  | spoiled _ _ hw => exact hw.toSteady
  | refused _ _ hw => exact hw.toSteady

end Worker

end BookingNotices
