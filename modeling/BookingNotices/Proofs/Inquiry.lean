import BookingNotices.Proofs.Copy
import BookingNotices.Proofs.Run

/-!
# What a worker finds out about a claimed row

* `World.Finds`, `Describes` : what the lookups for a claimed notice find;
* `World.Hinders`            : what keeps its outcome from being decided: a lookup, the rendering
  or the put that fails;
* `Unasked`, `Apart`, `Spared`, `Unstored`, `Unprinted`, `Printed`, `Told` : what was left alone on
  the way, and what was not;
* `Worker.step_findingBooking`, ... : the steps of the inquiry as equations;
* `Worker.run_of_hinders`, `run_of_not_hindered` : the inquiry fails and stores nothing, or the
  outcome is decided (`Worker.Decides`).

Lookups are answered one after another, so what stands in the way of one of them depends on how many
came before it: `Registry.asked` counts them.
-/

namespace BookingNotices

namespace World

/-! ## What may be in the way -/

/-- The world behind so many lookups. -/
def asked (w : World) (count : Nat) : World := { w with registry := w.registry.asked count }

theorem asked_asked (w : World) (a b : Nat) : (w.asked a).asked b = w.asked (a + b) := by
  unfold asked
  simp only [Registry.asked_asked]

/-- The booking of a claimed notice is found, and then its user. -/
structure Finds (w : World) (n : Notice) (b : Booking) (u : User) : Prop where
  booking : (w.registry.booking n.booking).1 = .ok b
  user : ((w.registry.asked 1).user b.user).1 = .ok u

/-- The booking is confirmed, and all that its invoice says is found. -/
structure Describes (w : World) (n : Notice) (b : Booking) (u : User) (p : Invoice.Params) : Prop
    extends Finds w n b u where
  confirmed : b.status = .confirmed
  invoice : ∃ showtime seat, ((w.registry.asked 2).showtime b.showtime).1 = .ok showtime ∧
    ((w.registry.asked 3).seat b.seat).1 = .ok seat ∧ p = .ofBooking b u showtime seat

/-- The failures that keep the outcome of a claimed notice from being decided. -/
inductive Hinders (w : World) (n : Notice) : Failure → Prop where
  | booking {f} (h : (w.registry.booking n.booking).1 = .error f) : Hinders w n f
  | user {b f} (hbooking : (w.registry.booking n.booking).1 = .ok b)
      (h : ((w.registry.asked 1).user b.user).1 = .error f) : Hinders w n f
  | showtime {b u f} (hfinds : w.Finds n b u) (hconfirmed : b.status = .confirmed)
      (h : ((w.registry.asked 2).showtime b.showtime).1 = .error f) : Hinders w n f
  | seat {b u showtime f} (hfinds : w.Finds n b u) (hconfirmed : b.status = .confirmed)
      (hshowtime : ((w.registry.asked 2).showtime b.showtime).1 = .ok showtime)
      (h : ((w.registry.asked 3).seat b.seat).1 = .error f) : Hinders w n f
  | rendering {b u p f} (hdescribes : w.Describes n b u p) (h : (w.render p).1 = .error f) :
      Hinders w n f
  | put {b u p bytes e} (hdescribes : w.Describes n b u p) (hrender : (w.render p).1 = .ok bytes)
      (h : (w.shelf.put (Notice.documentName b.id) bytes).1 = .error e) : Hinders w n e.toFailure

/-- Nothing was looked up, rendered or put on the shelf. -/
structure Unasked (w w' : World) : Prop where
  registry : w'.registry = w.registry
  renderers : w'.renderers = w.renderers
  shelf : w'.shelf = w.shelf

/-- Nothing was looked up, rendered, put on the shelf or mailed. -/
structure Apart (w w' : World) : Prop extends Unasked w w' where
  outbox : w'.outbox = w.outbox

theorem apart_frame : Frame Apart where
  refl _ := ⟨⟨rfl, rfl, rfl⟩, rfl⟩
  trans h₁ h₂ := ⟨⟨h₂.registry.trans h₁.registry, h₂.renderers.trans h₁.renderers,
    h₂.shelf.trans h₁.shelf⟩, h₂.outbox.trans h₁.outbox⟩
  storeFails w c := by
    unfold World.storeFails
    split <;> exact ⟨⟨rfl, rfl, rfl⟩, rfl⟩
  now _ := ⟨⟨rfl, rfl, rfl⟩, rfl⟩
  freshId _ := ⟨⟨rfl, rfl, rfl⟩, rfl⟩

theorem apart_publishes : Publishes Apart := fun _ _ => ⟨⟨rfl, rfl, rfl⟩, rfl⟩

/-- Nothing was stored, put on the shelf or mailed. -/
structure Spared (w w' : World) : Prop where
  store : w'.store = w.store
  blobs : w'.shelf.blobs = w.shelf.blobs
  outbox : w'.outbox = w.outbox

/-- Nothing was stored or mailed, no call on the store has failed, and no blob was read. -/
structure Unstored (w w' : World) : Prop where
  store : w'.store = w.store
  outbox : w'.outbox = w.outbox
  faults : w'.storeFaults = w.storeFaults
  reads : w'.shelf.readFaults = w.shelf.readFaults

/-- No more than booking and user were looked up, and nothing was rendered or put. -/
structure Unprinted (w w' : World) : Prop where
  registry : w'.registry = w.registry.asked 2
  renderers : w'.renderers = w.renderers
  shelf : w'.shelf = w.shelf

/-- Four records were looked up, one invoice was rendered, and one blob was put. -/
structure Printed (name : String) (bytes : Bytes) (w w' : World) : Prop where
  registry : w'.registry = w.registry.asked 4
  renderers : w'.renderers = w.renderers.next.2
  blobs : w'.shelf.blobs = w.shelf.blobs.insert name bytes
  puts : w'.shelf.puts = w.shelf.puts + 1

/-- Nothing was looked up, rendered or put on the shelf, and nothing was read from there but the
invoice of a mail. -/
structure Told (mail? : Option Mail.Message) (w w' : World) : Prop where
  registry : w'.registry = w.registry
  renderers : w'.renderers = w.renderers
  blobs : w'.shelf.blobs = w.shelf.blobs
  puts : w'.shelf.puts = w.shelf.puts
  plain : (∀ mail, mail? = some mail → mail.attachment = none) → w'.shelf = w.shelf

theorem Unprinted.told {a b c : World} {mail? : Option Mail.Message} (h : a.Unprinted b)
    (hbc : b.Told mail? c) (hplain : ∀ mail, mail? = some mail → mail.attachment = none) :
    a.Unprinted c :=
  ⟨hbc.registry.trans h.registry, hbc.renderers.trans h.renderers,
    (hbc.plain hplain).trans h.shelf⟩

theorem Printed.told {a b c : World} {mail? : Option Mail.Message} {name : String} {bytes : Bytes}
    (h : a.Printed name bytes b) (hbc : b.Told mail? c) : a.Printed name bytes c :=
  ⟨hbc.registry.trans h.registry, hbc.renderers.trans h.renderers, hbc.blobs.trans h.blobs,
    hbc.puts.trans h.puts⟩

end World

theorem Shelf.puts_of_put {s s' : Shelf} {name : String} {bytes : Bytes}
    (h : s.put name bytes = (.ok (), s')) :
    s'.puts = s.puts + 1 ∧ s'.readFaults = s.readFaults := by
  unfold put at h
  split at h
  · cases h
  · dsimp only at h
    split at h
    · cases h
    · cases h
      exact ⟨rfl, rfl⟩

namespace Worker

open World

variable {w : World} {n : Notice} {b : Booking} {u : User}

/-! ## The steps of the inquiry -/

theorem run_of_step {k k' : Worker} {w' : World} (hgoing : k.result? = none)
    (hstep : k.step w = (k', w')) : k.run w = k'.run w' := by
  rw [run_of_going hgoing, hstep]

theorem run_of_ended {k : Worker} {r : Except Notice.Error Outcome} (hgoing : k.result? = none)
    (h : (k.step w).1 = .ended r) : k.run w = (r, (k.step w).2) := by
  rw [run_of_going hgoing, h]
  exact run_of_result rfl _

theorem run_failing (e : Notice.Error) (w : World) : (failing e).run w = (.error e, w) :=
  run_of_result rfl w

theorem step_findingBooking (n : Notice) (w : World) :
    (Worker.findingBooking n).step w =
      match (w.registry.booking n.booking).1 with
      | .error f => (failing (.ofFailure f), w.asked 1)
      | .ok b => (.findingUser n b, w.asked 1) := by
  have hsnd := w.registry.booking_snd n.booking
  dsimp only [step]
  rcases hfound : w.registry.booking n.booking with ⟨_ | b, r⟩ <;>
    rw [hfound] at hsnd <;> cases hsnd <;> rfl

theorem step_findingUser (n : Notice) (b : Booking) (w : World) :
    (Worker.findingUser n b).step w =
      match (w.registry.user b.user).1 with
      | .error f => (failing (.ofFailure f), w.asked 1)
      | .ok u => afterUser n b u (w.asked 1) := by
  have hsnd := w.registry.user_snd b.user
  dsimp only [step]
  rcases hfound : w.registry.user b.user with ⟨_ | u, r⟩ <;>
    rw [hfound] at hsnd <;> cases hsnd <;> rfl

theorem step_findingShowtime (n : Notice) (b : Booking) (u : User) (w : World) :
    (Worker.findingShowtime n b u).step w =
      match (w.registry.showtime b.showtime).1 with
      | .error f => (failing (.ofFailure f), w.asked 1)
      | .ok showtime => (.findingSeat n b u showtime, w.asked 1) := by
  have hsnd := w.registry.showtime_snd b.showtime
  dsimp only [step]
  rcases hfound : w.registry.showtime b.showtime with ⟨_ | s, r⟩ <;>
    rw [hfound] at hsnd <;> cases hsnd <;> rfl

theorem step_findingSeat (n : Notice) (b : Booking) (u : User) (showtime : Showtime) (w : World) :
    (Worker.findingSeat n b u showtime).step w =
      match (w.registry.seat b.seat).1 with
      | .error f => (failing (.ofFailure f), w.asked 1)
      | .ok seat => (.storing n b u (.ofBooking b u showtime seat), w.asked 1) := by
  have hsnd := w.registry.seat_snd b.seat
  dsimp only [step]
  rcases hfound : w.registry.seat b.seat with ⟨_ | s, r⟩ <;>
    rw [hfound] at hsnd <;> cases hsnd <;> rfl

/-- Without an invoice the outcome is decided as soon as the user is known. -/
theorem afterUser_of_unconfirmed (hprocessing : n.status = .processing)
    (hplain : b.status ≠ .confirmed) (u : User) (w : World) :
    afterUser n b u w = (.resolving n.updated (n.decided b w.next) b u, w.now.2) := by
  unfold afterUser
  cases hstatus : b.status with
  | confirmed => exact absurd hstatus hplain
  | cancelled =>
    rw [Notice.decided_of_cancelled hstatus]
    simp only [Notice.complete_of_processing hprocessing]
    rfl
  | initializing =>
    rw [Notice.decided_of_open (Or.inl hstatus)]
    simp only [Notice.fail_of_processing hprocessing]
    rfl
  | pending =>
    rw [Notice.decided_of_open (Or.inr hstatus)]
    simp only [Notice.fail_of_processing hprocessing]
    rfl

theorem afterUser_of_confirmed (hconfirmed : b.status = .confirmed) (n : Notice) (u : User)
    (w : World) : afterUser n b u w = (.findingShowtime n b u, w) := by
  unfold afterUser
  rw [hconfirmed]

/-! ## The inquiry -/

/-- The lookups of booking and user. -/
theorem run_of_finds (h : w.Finds n b u) :
    (Worker.findingBooking n).run w =
      (afterUser n b u (w.asked 2)).1.run (afterUser n b u (w.asked 2)).2 := by
  have hbooking : (Worker.findingBooking n).step w = (.findingUser n b, w.asked 1) := by
    rw [step_findingBooking, h.booking]
  have huser : (Worker.findingUser n b).step (w.asked 1) = afterUser n b u (w.asked 2) := by
    rw [step_findingUser, show (w.asked 1).registry = w.registry.asked 1 from rfl, h.user,
      asked_asked]
  rw [run_of_step rfl hbooking, run_of_going rfl, huser]

theorem run_of_confirmed (h : w.Finds n b u) (hconfirmed : b.status = .confirmed) :
    (Worker.findingBooking n).run w = (Worker.findingShowtime n b u).run (w.asked 2) := by
  rw [run_of_finds h, afterUser_of_confirmed hconfirmed]

theorem run_of_showtime (h : w.Finds n b u) (hconfirmed : b.status = .confirmed)
    {showtime : Showtime}
    (hshowtime : ((w.registry.asked 2).showtime b.showtime).1 = .ok showtime) :
    (Worker.findingBooking n).run w = (Worker.findingSeat n b u showtime).run (w.asked 3) := by
  have hstep : (Worker.findingShowtime n b u).step (w.asked 2) =
      (.findingSeat n b u showtime, w.asked 3) := by
    rw [step_findingShowtime, show (w.asked 2).registry = w.registry.asked 2 from rfl, hshowtime,
      asked_asked]
  rw [run_of_confirmed h hconfirmed, run_of_step rfl hstep]

theorem run_of_describes {p : Invoice.Params} (h : w.Describes n b u p) :
    (Worker.findingBooking n).run w = (Worker.storing n b u p).run (w.asked 4) := by
  obtain ⟨showtime, seat, hshowtime, hseat, rfl⟩ := h.invoice
  have hstep : (Worker.findingSeat n b u showtime).step (w.asked 3) =
      (.storing n b u (.ofBooking b u showtime seat), w.asked 4) := by
    rw [step_findingSeat, show (w.asked 3).registry = w.registry.asked 3 from rfl, hseat,
      asked_asked]
  rw [run_of_showtime h.toFinds h.confirmed hshowtime, run_of_step rfl hstep]

/-- If something is in the way, then the call returns that failure and has stored nothing. -/
theorem run_of_hinders {f : Failure} (h : w.Hinders n f) :
    ∃ w', (Worker.findingBooking n).run w = (.error (.ofFailure f), w') ∧ w.Spared w' := by
  cases h with
  | booking h =>
    have hstep : (Worker.findingBooking n).step w = (failing (.ofFailure f), w.asked 1) := by
      rw [step_findingBooking, h]
    rw [run_of_step rfl hstep, run_failing]
    exact ⟨_, rfl, rfl, rfl, rfl⟩
  | @user b _ hbooking h =>
    have hstep : (Worker.findingBooking n).step w = (.findingUser n b, w.asked 1) := by
      rw [step_findingBooking, hbooking]
    have huser : (Worker.findingUser n b).step (w.asked 1) =
        (failing (.ofFailure f), (w.asked 1).asked 1) := by
      rw [step_findingUser, show (w.asked 1).registry = w.registry.asked 1 from rfl, h]
    rw [run_of_step rfl hstep, run_of_step rfl huser, run_failing]
    exact ⟨_, rfl, rfl, rfl, rfl⟩
  | @showtime b u _ hfinds hconfirmed h =>
    have hstep : (Worker.findingShowtime n b u).step (w.asked 2) =
        (failing (.ofFailure f), (w.asked 2).asked 1) := by
      rw [step_findingShowtime, show (w.asked 2).registry = w.registry.asked 2 from rfl, h]
    rw [run_of_confirmed hfinds hconfirmed, run_of_step rfl hstep, run_failing]
    exact ⟨_, rfl, rfl, rfl, rfl⟩
  | @seat b u showtime _ hfinds hconfirmed hshowtime h =>
    have hstep : (Worker.findingSeat n b u showtime).step (w.asked 3) =
        (failing (.ofFailure f), (w.asked 3).asked 1) := by
      rw [step_findingSeat, show (w.asked 3).registry = w.registry.asked 3 from rfl, h]
    rw [run_of_showtime hfinds hconfirmed hshowtime, run_of_step rfl hstep, run_failing]
    exact ⟨_, rfl, rfl, rfl, rfl⟩
  | @rendering b u p _ hdescribes h =>
    have hrender : (w.asked 4).render p = (.error f, ((w.asked 4).render p).2) := Prod.ext h rfl
    have hstep : (Worker.storing n b u p).step (w.asked 4) =
        (failing (.ofFailure f), ((w.asked 4).render p).2) := by
      dsimp only [step]
      unfold storeInvoice
      rw [hrender]
    rw [run_of_describes hdescribes, run_of_step rfl hstep, run_failing]
    exact ⟨_, rfl, rfl, rfl, rfl⟩
  | @put b u p bytes e hdescribes hrendered h =>
    have hrender : (w.asked 4).render p = (.ok bytes, ((w.asked 4).render p).2) :=
      Prod.ext hrendered rfl
    have hput : w.shelf.put (Notice.documentName b.id) bytes =
        (.error e, (w.shelf.put (Notice.documentName b.id) bytes).2) := Prod.ext h rfl
    have hstep : (Worker.storing n b u p).step (w.asked 4) =
        (failing (.ofFailure e.toFailure), { ((w.asked 4).render p).2 with
          shelf := (w.shelf.put (Notice.documentName b.id) bytes).2 }) := by
      dsimp only [step]
      unfold storeInvoice
      rw [hrender]
      dsimp only
      rw [show ((w.asked 4).render p).2.shelf = w.shelf from rfl, hput]
    rw [run_of_describes hdescribes, run_of_step rfl hstep, run_failing]
    exact ⟨_, rfl, rfl, Shelf.put_eq_error hput, rfl⟩

/-- An invoice that is rendered and put decides the outcome of a confirmed booking. -/
theorem run_of_put {p : Invoice.Params} {bytes : Bytes} {shelf : Shelf}
    (hprocessing : n.status = .processing) (h : w.Describes n b u p)
    (hrendered : (w.render p).1 = .ok bytes)
    (hput : w.shelf.put (Notice.documentName b.id) bytes = (.ok (), shelf)) :
    (Worker.findingBooking n).run w =
      (Worker.resolving n.updated (n.decided b w.next) b u).run
        (World.now { ((w.asked 4).render p).2 with shelf := shelf }).2 := by
  have hrender : (w.asked 4).render p = (.ok bytes, ((w.asked 4).render p).2) :=
    Prod.ext hrendered rfl
  have hstep : (Worker.storing n b u p).step (w.asked 4) =
      (.resolving n.updated (n.decided b w.next) b u,
        (World.now { ((w.asked 4).render p).2 with shelf := shelf }).2) := by
    dsimp only [step]
    unfold storeInvoice
    rw [hrender]
    dsimp only
    rw [show ((w.asked 4).render p).2.shelf = w.shelf from rfl, hput]
    dsimp only
    rw [Notice.completeWith_documentName hprocessing, Notice.decided_of_confirmed h.confirmed]
    rfl
  rw [run_of_describes h, run_of_step rfl hstep]

/-- How far the inquiry has come when nothing was in the way, and the mail that is to tell it. -/
inductive Decides (w : World) (n : Notice) (b : Booking) (u : User) :
    Option Mail.Message → World → Prop where
  | printed {p bytes w'} (h : w.Describes n b u p) (hrender : (w.render p).1 = .ok bytes)
      (hw : w.Printed (Notice.documentName b.id) bytes w') :
      Decides w n b u (some ⟨u.email, Notice.Email.subjectLine, Notice.Email.confirmedBody,
        some ⟨Notice.documentName b.id, Invoice.contentType, bytes⟩⟩) w'
  | cancelled {w'} (h : b.status = .cancelled) (hw : w.Unprinted w') :
      Decides w n b u
        (some ⟨u.email, Notice.Email.subjectLine, Notice.Email.cancelledBody, none⟩) w'
  /-- nobody is told -/
  | opened {w'} (h : b.status = .initializing ∨ b.status = .pending) (hw : w.Unprinted w') :
      Decides w n b u none w'

theorem exists_decides_of_unprinted {w' : World} (hplain : b.status ≠ .confirmed)
    (hw : w.Unprinted w') (n : Notice) (u : User) : ∃ mail?, Decides w n b u mail? w' := by
  cases hstatus : b.status with
  | confirmed => exact absurd hstatus hplain
  | cancelled => exact ⟨_, .cancelled hstatus hw⟩
  | initializing => exact ⟨_, .opened (Or.inl hstatus) hw⟩
  | pending => exact ⟨_, .opened (Or.inr hstatus) hw⟩

/-- If nothing is in the way, then the outcome is decided, and nothing is stored or mailed yet. -/
theorem run_of_not_hindered (hprocessing : n.status = .processing) (h : ∀ f, ¬ w.Hinders n f) :
    ∃ b u mail? w', w.Finds n b u ∧ Decides w n b u mail? w' ∧ w.Unstored w' ∧
      (Worker.findingBooking n).run w =
        (Worker.resolving n.updated (n.decided b w.next) b u).run w' := by
  cases hbooking : (w.registry.booking n.booking).1 with
  | error f => exact absurd (.booking hbooking) (h f)
  | ok b =>
  cases huser : ((w.registry.asked 1).user b.user).1 with
  | error f => exact absurd (.user hbooking huser) (h f)
  | ok u =>
  have hfinds : w.Finds n b u := ⟨hbooking, huser⟩
  by_cases hconfirmed : b.status = .confirmed
  · cases hshowtime : ((w.registry.asked 2).showtime b.showtime).1 with
    | error f => exact absurd (.showtime hfinds hconfirmed hshowtime) (h f)
    | ok showtime =>
    cases hseat : ((w.registry.asked 3).seat b.seat).1 with
    | error f => exact absurd (.seat hfinds hconfirmed hshowtime hseat) (h f)
    | ok seat =>
    have hdescribes : w.Describes n b u (.ofBooking b u showtime seat) :=
      ⟨hfinds, hconfirmed, showtime, seat, hshowtime, hseat, rfl⟩
    cases hrender : (w.render (.ofBooking b u showtime seat)).1 with
    | error f => exact absurd (.rendering hdescribes hrender) (h f)
    | ok bytes =>
    rcases hput : w.shelf.put (Notice.documentName b.id) bytes with ⟨e | _, shelf⟩
    · exact absurd (.put hdescribes hrender (by rw [hput])) (h e.toFailure)
    · have hprinted : w.Printed (Notice.documentName b.id) bytes
          (World.now { ((w.asked 4).render (.ofBooking b u showtime seat)).2 with
            shelf := shelf }).2 :=
        ⟨rfl, rfl, (Shelf.put_eq_ok hput).2, (Shelf.puts_of_put hput).1⟩
      exact ⟨b, u, _, _, hfinds, .printed hdescribes hrender hprinted,
        ⟨rfl, rfl, rfl, (Shelf.puts_of_put hput).2⟩,
        run_of_put hprocessing hdescribes hrender hput⟩
  · have hunprinted : w.Unprinted (w.asked 2).now.2 := ⟨rfl, rfl, rfl⟩
    obtain ⟨mail?, hdecides⟩ := exists_decides_of_unprinted hconfirmed hunprinted n u
    refine ⟨b, u, mail?, (w.asked 2).now.2, hfinds, hdecides, ⟨rfl, rfl, rfl, rfl⟩, ?_⟩
    rw [run_of_finds hfinds, afterUser_of_unconfirmed hprocessing hconfirmed]
    rfl

end Worker

end BookingNotices
