import BookingNotices.Proofs.Claiming
import BookingNotices.Proofs.Resolution

/-!
# Work that nothing gets in the way of

* `World.Healthy`       : no call is made to fail, except that events may be refused;
* `World.Usual`         : what work leaves of the world around it; a healthy world stays healthy
  (`Healthy.usual`, `usual_habit`);
* `Registry.Complete`   : all that a booking's notice is made from is known;
* `Registry.ending?`, `Registry.mail?` : how the work on a booking's notice ends, and the mail that
  goes out then, to the booking's user (`address?_of_mail?`);
* `Healthy.not_hinders` : then nothing is in the way of the work, and what it tells is that mail
  (`Healthy.mail?_of_decides`);
* `Worker.run_claimed`  : a worker that has claimed a row in a healthy world ends so;
* `World.process_of_waiting`, `World.resume_of_stale` : so a row that waits, or was left behind by
  its worker, is `World.Resolved`.
-/

namespace BookingNotices

namespace World

/-! ## Healthy worlds -/

/-- No call is made to fail, except that events may be refused, and `render` makes the invoices. -/
structure Healthy (render : Invoice.Params → Bytes) (w : World) : Prop where
  reliable : w.Reliable
  up : w.registry.Up
  renders : ∀ i p, w.renderers.answer i p = .ok (render p)
  puts : ∀ i, w.shelf.faults.answer i = false
  reads : ∀ i, w.shelf.readFaults.answer i = none
  sends : ∀ i, w.outbox.faults.answer i = false

/-- What work leaves of the world around it. -/
structure Usual (w w' : World) : Prop where
  steady : w.Steady w'
  served : w.registry.Served w'.registry
  renderers : w'.renderers.answer = w.renderers.answer
  puts : w'.shelf.faults.answer = w.shelf.faults.answer
  reads : w'.shelf.readFaults.answer = w.shelf.readFaults.answer
  sends : w'.outbox.faults.answer = w.outbox.faults.answer

theorem Usual.refl (w : World) : w.Usual w := ⟨.refl w, .refl _, rfl, rfl, rfl, rfl⟩

theorem Usual.trans {a b c : World} (h₁ : a.Usual b) (h₂ : b.Usual c) : a.Usual c :=
  ⟨h₁.steady.trans h₂.steady, h₁.served.trans h₂.served, h₂.renderers.trans h₁.renderers,
    h₂.puts.trans h₁.puts, h₂.reads.trans h₁.reads, h₂.sends.trans h₁.sends⟩

theorem Healthy.usual {render : Invoice.Params → Bytes} {w w' : World} (h : w.Healthy render)
    (hw : w.Usual w') : w'.Healthy render := by
  refine ⟨h.reliable.steady hw.steady, h.up.served hw.served, ?_, ?_, ?_, ?_⟩
  · rw [hw.renderers]
    exact h.renders
  · rw [hw.puts]
    exact h.puts
  · rw [hw.reads]
    exact h.reads
  · rw [hw.sends]
    exact h.sends

theorem usual_habit : Habit Usual where
  refl := Usual.refl
  trans := Usual.trans
  storeFails w c := by
    have hcalls := Calls.storeFails w c
    have hsteady := hcalls.aside.toSteady
    generalize (w.storeFails c).2 = w' at hcalls hsteady ⊢
    obtain ⟨faults, rfl, -⟩ := hcalls
    exact ⟨hsteady, .refl _, rfl, rfl, rfl, rfl⟩
  now w := ⟨(Aside.now w).toSteady, .refl _, rfl, rfl, rfl, rfl⟩
  freshId w := ⟨(Aside.freshId w).toSteady, .refl _, rfl, rfl, rfl, rfl⟩
  store w s := ⟨⟨rfl, fun _ => Nat.le_refl _⟩, .refl _, rfl, rfl, rfl, rfl⟩
  lookUp w r hserved := ⟨(Aside.registry w r).toSteady, hserved, rfl, rfl, rfl, rfl⟩
  render w p := ⟨(Aside.render w p).toSteady, .refl _, rfl, rfl, rfl, rfl⟩
  read w name := by
    rw [Shelf.read_snd]
    exact ⟨(Aside.shelf w _).toSteady, .refl _, rfl, rfl, rfl, rfl⟩
  put w name bytes := by
    refine ⟨(Aside.shelf w _).toSteady, .refl _, rfl, ?_, ?_, rfl⟩ <;>
    · unfold Shelf.put
      split
      · rfl
      · dsimp only
        split <;> rfl
  send w m := by
    refine ⟨⟨rfl, fun _ => Nat.le_refl _⟩, .refl _, rfl, rfl, rfl, ?_⟩
    unfold Outbox.send
    dsimp only
    split <;> rfl

theorem usual_publishes : Publishes Usual :=
  fun w e => ⟨(Aside.publish w e).toSteady, .refl _, rfl, rfl, rfl, rfl⟩

theorem usual_queues : Queues Usual :=
  fun _ _ _ => ⟨⟨rfl, fun _ => Nat.le_refl _⟩, .refl _, rfl, rfl, rfl, rfl⟩

theorem bus_habit : Habit fun w w' => w'.bus = w.bus where
  refl _ := rfl
  trans h₁ h₂ := h₂.trans h₁
  storeFails w c := by
    unfold World.storeFails
    split <;> rfl
  now _ := rfl
  freshId _ := rfl
  store _ _ := rfl
  lookUp _ _ _ := rfl
  render _ _ := rfl
  read _ _ := rfl
  put _ _ _ := rfl
  send _ _ := rfl

end World

/-! ## How the work on a booking's notice ends -/

/-- What a partial function finds in a list. -/
theorem map_filter_isSome {α β : Type} (f : α → Option β) (as : List α) :
    (as.filter fun a => (f a).isSome).map f = (as.filterMap f).map some := by
  induction as with
  | nil => rfl
  | cons a as ih => cases h : f a <;> simp [h, ih]

namespace Registry

/-- What the invoice of a booking says. -/
def invoice? (r : Registry) (b : Booking) (u : User) : Option Invoice.Params := do
  let showtime ← r.showtimes.find? b.showtime
  let seat ← r.seats.find? b.seat
  return .ofBooking b u showtime seat

/-- All that a booking's notice is made from is known. -/
def Complete (r : Registry) (id : BookingId) : Prop :=
  ∃ b u, r.bookings.find? id = some b ∧ r.users.find? b.user = some u ∧
    (b.status = .confirmed →
      (∃ s, r.showtimes.find? b.showtime = some s) ∧ ∃ s, r.seats.find? b.seat = some s)

/-- How the work on a booking's notice ends: its status, and its document. -/
def ending? (r : Registry) (id : BookingId) : Option (Notice.Status × String) := do
  let b ← r.bookings.find? id
  return (.ofBooking b.status, if b.isConfirmed then Notice.documentName id else "")

theorem ending?_of_find? {r : Registry} {id : BookingId} {b : Booking}
    (hb : r.bookings.find? id = some b) :
    r.ending? id = some (match b.status with
      | .confirmed => (.success, Notice.documentName id)
      | .cancelled => (.success, "")
      | .initializing | .pending => (.failed, "")) := by
  unfold ending? Booking.isConfirmed
  rw [hb]
  show some (Notice.Status.ofBooking b.status, if decide (b.status = _) = true then _ else "") = _
  cases b.status <;> rfl

/-- The mail that tells the outcome of a booking, if it is told: a confirmed booking's mail comes
with the invoice. -/
def mail? (r : Registry) (render : Invoice.Params → Bytes) (id : BookingId) :
    Option Mail.Message := do
  let b ← r.bookings.find? id
  let u ← r.users.find? b.user
  let email ← Notice.Email.forBooking b
  if email.attachInvoice then
    let invoice ← r.invoice? b u
    return ⟨u.email, email.subject, email.body,
      some ⟨Notice.documentName id, Invoice.contentType, render invoice⟩⟩
  else return ⟨u.email, email.subject, email.body, none⟩

/-- Where the mails to a booking's user go. -/
def address? (r : Registry) (id : BookingId) : Option String := do
  let b ← r.bookings.find? id
  let u ← r.users.find? b.user
  return u.email

/-- The mail that tells the outcome of a booking goes to the booking's user. -/
theorem address?_of_mail? {r : Registry} {render : Invoice.Params → Bytes} {id : BookingId}
    {m : Mail.Message} (h : r.mail? render id = some m) : r.address? id = some m.recipient := by
  unfold mail? at h
  obtain ⟨b, hb, h⟩ := Option.bind_eq_some_iff.mp h
  obtain ⟨u, hu, h⟩ := Option.bind_eq_some_iff.mp h
  obtain ⟨email, -, h⟩ := Option.bind_eq_some_iff.mp h
  have hrecipient : m.recipient = u.email := by
    split at h
    · obtain ⟨p, -, h⟩ := Option.bind_eq_some_iff.mp h
      cases h
      rfl
    · cases h
      rfl
  unfold address?
  rw [hb, hrecipient]
  show (r.users.find? b.user).bind _ = _
  rw [hu]
  rfl

/-- The mails that tell the outcomes of some bookings go to their users. -/
theorem map_address? {r : Registry} {render : Invoice.Params → Bytes} {told : List BookingId}
    {mails : List Mail.Message} (h : told.map (r.mail? render) = mails.map some) :
    told.map r.address? = mails.map fun m => some m.recipient := by
  induction told generalizing mails with
  | nil =>
    cases mails with
    | nil => rfl
    | cons => cases h
  | cons booking told ih =>
    cases mails with
    | nil => cases h
    | cons m mails =>
      obtain ⟨hm, hmails⟩ := List.cons.inj h
      rw [List.map_cons, List.map_cons, ih hmails, Registry.address?_of_mail? hm]

theorem mail?_eq {r : Registry} {id : BookingId} {b : Booking} {u : User}
    (hb : r.bookings.find? id = some b) (hu : r.users.find? b.user = some u)
    (render : Invoice.Params → Bytes) :
    r.mail? render id = (Notice.Email.forBooking b).bind fun email =>
      if email.attachInvoice then (r.invoice? b u).bind fun p =>
        some ⟨u.email, email.subject, email.body,
          some ⟨Notice.documentName id, Invoice.contentType, render p⟩⟩
      else some ⟨u.email, email.subject, email.body, none⟩ := by
  unfold mail?
  rw [hb]
  show (r.users.find? b.user).bind _ = _
  rw [hu]
  rfl

theorem exists_invoice? {r : Registry} {b : Booking}
    (h : (∃ s, r.showtimes.find? b.showtime = some s) ∧ ∃ s, r.seats.find? b.seat = some s)
    (u : User) : ∃ p, r.invoice? b u = some p := by
  obtain ⟨⟨showtime, hshowtime⟩, seat, hseat⟩ := h
  unfold invoice?
  rw [hshowtime, hseat]
  exact ⟨_, rfl⟩

/-- A booking of which all is known is told exactly if it is confirmed or cancelled. -/
theorem isSome_mail?_iff {r : Registry} {id : BookingId} (h : r.Complete id)
    (render : Invoice.Params → Bytes) : (r.mail? render id).isSome = true ↔
      ∃ b, r.bookings.find? id = some b ∧ (b.status = .confirmed ∨ b.status = .cancelled) := by
  obtain ⟨b, u, hb, hu, hdetails⟩ := h
  have honly : (∃ b, r.bookings.find? id = some b ∧
      (b.status = .confirmed ∨ b.status = .cancelled)) ↔
      b.status = .confirmed ∨ b.status = .cancelled := by
    refine ⟨fun ⟨b', hb', htold⟩ => ?_, fun htold => ⟨b, hb, htold⟩⟩
    rw [hb] at hb'
    cases hb'
    exact htold
  rw [honly, mail?_eq hb hu]
  unfold Notice.Email.forBooking
  cases hstatus : b.status with
  | confirmed =>
    obtain ⟨p, hp⟩ := exists_invoice? (hdetails hstatus) u
    rw [hp]
    exact ⟨fun _ => Or.inl rfl, fun _ => rfl⟩
  | cancelled => exact ⟨fun _ => Or.inr rfl, fun _ => rfl⟩
  | initializing => simp
  | pending => simp

section Served

variable {r r' : Registry} (h : r.Served r')

include h

theorem Served.complete {id : BookingId} (hcomplete : r.Complete id) : r'.Complete id := by
  unfold Complete
  rw [h.bookings, h.users, h.showtimes, h.seats]
  exact hcomplete

theorem Served.ending? (id : BookingId) : r'.ending? id = r.ending? id := by
  unfold Registry.ending?
  rw [h.bookings]

theorem Served.mail? (render : Invoice.Params → Bytes) (id : BookingId) :
    r'.mail? render id = r.mail? render id := by
  unfold Registry.mail? invoice?
  rw [h.bookings, h.users, h.showtimes, h.seats]

end Served

end Registry

/-! ## A worker with its claim -/

namespace World

variable {render : Invoice.Params → Bytes} {w : World} {n : Notice} {b : Booking} {u : User}

namespace Healthy

variable (h : w.Healthy render)

include h

theorem render_eq (p : Invoice.Params) : (w.render p).1 = .ok (render p) :=
  h.renders w.renderers.used p

theorem put_documentName (booking : BookingId) (bytes : Bytes) :
    (w.shelf.put (Notice.documentName booking) bytes).1 = .ok () := by
  unfold Shelf.put Blob.checkName Supply.next
  rw [Notice.isName_documentName]
  dsimp only
  rw [h.puts]
  rfl

theorem send_eq (mail : Mail.Message) : (w.outbox.send mail).1 = .ok () := by
  unfold Outbox.send Supply.next
  dsimp only
  rw [h.sends]
  rfl

theorem reads_mail (mail : Mail.Message) : w.shelf.Reads mail := fun _ => h.reads _

/-- What is found about a notice is what the registry keeps. -/
theorem find?_of_finds (hcomplete : w.registry.Complete n.booking) (hfinds : w.Finds n b u) :
    w.registry.bookings.find? n.booking = some b ∧ w.registry.users.find? b.user = some u ∧
      (b.status = .confirmed → (∃ s, w.registry.showtimes.find? b.showtime = some s) ∧
        ∃ s, w.registry.seats.find? b.seat = some s) := by
  obtain ⟨b', u', hb, hu, hdetails⟩ := hcomplete
  have hbooking := hfinds.booking
  rw [Registry.booking_of_up h.up hb] at hbooking
  cases hbooking
  have huser := hfinds.user
  rw [Registry.user_of_up (h.up.served (.asked _ 1)) hu] at huser
  cases huser
  exact ⟨hb, hu, hdetails⟩

/-- Nothing is in the way of a notice about which all is known. -/
theorem not_hinders (hcomplete : w.registry.Complete n.booking) (f : Failure) :
    ¬ w.Hinders n f := by
  intro hhinders
  cases hhinders with
  | booking hfails =>
    obtain ⟨b, u, hb, -⟩ := hcomplete
    rw [Registry.booking_of_up h.up hb] at hfails
    cases hfails
  | user hbooking hfails =>
    obtain ⟨b, u, hb, hu, -⟩ := hcomplete
    rw [Registry.booking_of_up h.up hb] at hbooking
    cases hbooking
    rw [Registry.user_of_up (h.up.served (.asked _ 1)) hu] at hfails
    cases hfails
  | showtime hfinds hconfirmed hfails =>
    obtain ⟨-, -, hdetails⟩ := h.find?_of_finds hcomplete hfinds
    obtain ⟨⟨s, hs⟩, -⟩ := hdetails hconfirmed
    rw [Registry.showtime_of_up (h.up.served (.asked _ 2)) hs] at hfails
    cases hfails
  | seat hfinds hconfirmed _ hfails =>
    obtain ⟨-, -, hdetails⟩ := h.find?_of_finds hcomplete hfinds
    obtain ⟨-, s, hs⟩ := hdetails hconfirmed
    rw [Registry.seat_of_up (h.up.served (.asked _ 3)) hs] at hfails
    cases hfails
  | rendering _ hfails =>
    rw [h.render_eq] at hfails
    cases hfails
  | put _ _ hfails =>
    rw [h.put_documentName] at hfails
    cases hfails

/-- An invoice says what the registry keeps. -/
theorem invoice?_of_describes {p : Invoice.Params} (hcomplete : w.registry.Complete n.booking)
    (hdescribes : w.Describes n b u p) : w.registry.invoice? b u = some p := by
  obtain ⟨showtime, seat, hshowtime, hseat, rfl⟩ := hdescribes.invoice
  obtain ⟨-, -, hdetails⟩ := h.find?_of_finds hcomplete hdescribes.toFinds
  obtain ⟨⟨s, hs⟩, s', hs'⟩ := hdetails hdescribes.confirmed
  rw [Registry.showtime_of_up (h.up.served (.asked _ 2)) hs] at hshowtime
  rw [Registry.seat_of_up (h.up.served (.asked _ 3)) hs'] at hseat
  cases hshowtime
  cases hseat
  unfold Registry.invoice?
  rw [hs, hs']
  rfl

/-- The mail that is to tell a decided outcome is the one that tells the booking's. -/
theorem mail?_of_decides {mail? : Option Mail.Message} {w' : World} (hkeyed : w.registry.Keyed)
    (hcomplete : w.registry.Complete n.booking) (hfinds : w.Finds n b u)
    (hdecides : Worker.Decides w n b u mail? w') :
    w.registry.mail? render n.booking = mail? := by
  obtain ⟨hb, hu, -⟩ := h.find?_of_finds hcomplete hfinds
  rw [Registry.mail?_eq hb hu]
  unfold Notice.Email.forBooking
  cases hdecides with
  | printed hdescribes hrender =>
    rw [h.render_eq] at hrender
    cases hrender
    rw [hdescribes.confirmed, hkeyed _ _ hb]
    dsimp only [Option.bind]
    rw [h.invoice?_of_describes hcomplete hdescribes]
    rfl
  | cancelled hstatus =>
    rw [hstatus]
    rfl
  | opened hstatus => rcases hstatus with hstatus | hstatus <;> rw [hstatus] <;> rfl

end Healthy

end World

namespace Worker

open World

variable {render : Invoice.Params → Bytes} {w : World}

/-- In a healthy world a worker that has claimed a row stores how its work ends, and tells it. -/
theorem run_claimed (h : w.Healthy render) (hkeyed : w.registry.Keyed) {n : Notice}
    (hcomplete : w.registry.Complete n.booking) (hrow : w.store.rows.find? n.id = some n)
    (hset : n.id.isUnset = false) (hprocessing : n.status = .processing) :
    ∃ b now w', w.registry.bookings.find? n.booking = some b ∧
      (Worker.findingBooking n).run w = (.ok (.completed (n.decided b now)), w') ∧
      w'.store = w.store.put (n.decided b now) ∧ w'.bus = w.bus ∧
      w'.outbox.sent = w.outbox.sent ++ (w.registry.mail? render n.booking).toList := by
  obtain ⟨b, u, mail?, w₁, hfinds, hdecides, hw₁, hrun⟩ :=
    run_of_not_hindered hprocessing (h.not_hinders hcomplete)
  have hclaim : w₁.store.claimHolds n.id n.updated = true := by
    rw [hw₁.store]
    exact Store.claimHolds_iff.mpr ⟨n, hrow, hprocessing, rfl⟩
  obtain ⟨hends, -⟩ := concludes_resolving (m := n.decided b w.next) hset hclaim
    (hdecides.compose w.next)
  rw [← hrun] at hends
  have hconcludes := hends.unstored hw₁
  have hcall : (w.storeFails .resolve).1 = false := by
    rw [storeFails_of_nil (h.reliable .resolve)]
  obtain ⟨hok, hsent⟩ := hconcludes.told hcall fun mail _ => ⟨h.reads_mail mail, h.send_eq mail⟩
  refine ⟨b, w.next, ((Worker.findingBooking n).run w).2, Registry.booking_eq_ok hfinds.booking,
    Prod.ext hok rfl, hconcludes.stored hcall, habit_run bus_habit _ w nofun, ?_⟩
  rw [hsent, h.mail?_of_decides hkeyed hcomplete hfinds hdecides]

end Worker

/-- A decided notice has the status and the document in which the work on it ends. -/
theorem Registry.ending?_eq {r : Registry} {n : Notice} {b : Booking} (now : Timestamp)
    (hb : r.bookings.find? n.booking = some b) (hid : b.id = n.booking) (hblank : n.document = "") :
    r.ending? n.booking = some ((n.decided b now).status, (n.decided b now).document) := by
  unfold ending? Notice.decided
  rw [hb, hid, hblank]
  rfl

namespace World

variable {render : Invoice.Params → Bytes} {w w₁ : World} {row n : Notice}

/-- The work on a row has come to its end: the row has become `m`, and who is to be told was. -/
structure Resolved (render : Invoice.Params → Bytes) (row m : Notice) (w w' : World) : Prop where
  kin : row.Kin m
  final : m.status.isFinal = true
  ending : w.registry.ending? row.booking = some (m.status, m.document)
  store : w'.store = w.store.put m
  sent : w'.outbox.sent = w.outbox.sent ++ (w.registry.mail? render row.booking).toList

/-- In a healthy world a worker that has taken a row takes it to the end of the work on it. -/
theorem run_of_taken (h : w.Healthy render) (hkeyed : w.registry.Keyed) {k : Worker}
    (hgoing : k.result? = none) (hstep : k.step w = (.findingBooking n, w₁))
    (husual : w.Usual w₁) (hkin : row.Kin n) (hprocessing : n.status = .processing)
    (hblank : n.document = "") (hset : row.id.isUnset = false)
    (hcomplete : w.registry.Complete row.booking) (hstore : w₁.store = w.store.put n)
    (hsent : w₁.outbox.sent = w.outbox.sent) :
    ∃ m, (k.run w).1 = .ok (.completed m) ∧ Resolved render row m w (k.run w).2 ∧
      (k.run w).2.bus = w₁.bus := by
  have hserved := husual.served
  have hcomplete : w₁.registry.Complete n.booking := by
    rw [hkin.booking]
    exact hserved.complete hcomplete
  obtain ⟨b, now, w', hb, hrun, hstore', hbus', hsent'⟩ :=
    Worker.run_claimed (h.usual husual) (hkeyed.served hserved) hcomplete
      (by rw [hstore]; exact Store.find?_put_self _ n) (by rw [hkin.id]; exact hset) hprocessing
  have hid : b.id = n.booking := hkeyed.served hserved _ _ hb
  rw [Worker.run_of_going hgoing, hstep]
  dsimp only
  rw [hrun]
  refine ⟨n.decided b now, rfl, ⟨hkin.trans ⟨rfl, rfl, rfl⟩, ?_, ?_, ?_, ?_⟩, hbus'⟩
  · show (Notice.Status.ofBooking b.status).isFinal = true
    cases b.status <;> rfl
  · rw [← hkin.booking, ← Registry.ending?_eq now hb hid hblank, hserved.ending?]
  · rw [hstore', hstore]
    exact Store.put_put w.store rfl
  · rw [hsent', hsent, hserved.mail?, hkin.booking]

/-- In a healthy world a worker takes a row that waits to the end of the work on it, if that can be
announced. -/
theorem process_of_waiting (h : w.Healthy render) (hkeyed : w.registry.Keyed)
    (hrow : w.store.rows.find? row.id = some row) (hset : row.id.isUnset = false)
    (hpending : row.status = .pending) (hcomplete : w.registry.Complete row.booking)
    (hblank : row.document = "") :
    (w.bus.refuses = true ∧ ∃ e, (w.process row.id).1 = .error e ∧ e.isRetryable = true ∧
      w.Aside (w.process row.id).2 ∧ (w.process row.id).2.bus = w.bus.skip) ∨
    (w.bus.refuses = false ∧ ∃ m event, (w.process row.id).1 = .ok (.completed m) ∧
      Resolved render row m w (w.process row.id).2 ∧ event.AnnouncesOnly row.id ∧
      (w.process row.id).2.bus = w.bus.accept event) := by
  have husual := Worker.habit_step usual_habit (.claiming row.id) w fun _ _ => usual_publishes
  rcases Worker.step_claiming h.reliable hrow rfl hset hpending rfl with
    ⟨hrefuses, e, w', hstep, hretry, haside, hbus⟩ |
    ⟨hrefuses, event, w', hstep, honly, hbus, hstore, hsent⟩
  · unfold process
    rw [Worker.run_of_going rfl, hstep]
    dsimp only [Worker.failing]
    rw [Worker.run_of_result rfl]
    exact Or.inl ⟨hrefuses, e, rfl, hretry, haside, hbus⟩
  · rw [hstep] at husual
    have hkin : row.Kin { row with status := .processing, updated := w.next } := ⟨rfl, rfl, rfl⟩
    obtain ⟨m, hok, hresolved, hbus'⟩ := run_of_taken h hkeyed rfl hstep husual hkin rfl hblank
      hset hcomplete hstore hsent
    exact Or.inr ⟨hrefuses, m, event, hok, hresolved, honly, hbus'.trans hbus⟩

/-- In a healthy world a worker takes a row whose claim is overdue to the end of the work on it. -/
theorem resume_of_stale (h : w.Healthy render) (hkeyed : w.registry.Keyed) {threshold : Nat}
    (hrow : w.store.rows.find? row.id = some row) (hset : row.id.isUnset = false)
    (hstale : row.isStale w.next threshold = true) (hcomplete : w.registry.Complete row.booking)
    (hblank : row.document = "") :
    ∃ m, (w.resume row.id threshold).1 = .ok (.completed m) ∧
      Resolved render row m w (w.resume row.id threshold).2 ∧
      (w.resume row.id threshold).2.bus = w.bus := by
  have husual := Worker.habit_step usual_habit (.renewing row.id threshold) w nofun
  have hprocessing : row.status = .processing := by
    unfold Notice.isStale at hstale
    simp only [Bool.and_eq_true, decide_eq_true_eq] at hstale
    exact hstale.1
  obtain ⟨w', hstep, hbus, hstore, hsent⟩ :=
    Worker.step_renewing h.reliable hrow rfl hset hstale rfl
  rw [hstep] at husual
  have hkin : row.Kin { row with updated := w.clock.answer (w.clock.used + 1) } := ⟨rfl, rfl, rfl⟩
  obtain ⟨m, hok, hresolved, hbus'⟩ := run_of_taken h hkeyed rfl hstep husual hkin hprocessing
    hblank hset hcomplete hstore hsent
  exact ⟨m, hok, hresolved, hbus'.trans hbus⟩

/-- A world that knows a confirmed booking, a cancelled one, and one that is still open. -/
def threeBookings : World where
  clock := ⟨fun i => ⟨i, 0⟩, 0⟩
  ids := .constant ""
  registry :=
    (((((({} : Registry).putUser ⟨⟨3⟩, "ada@example.org", "Ada"⟩).putShowtime ⟨11⟩
      ⟨"Metropolis", "Odeon", "Berlin", "1", 0, 9180000⟩).putSeat ⟨⟨12⟩, "E5"⟩).putBooking
      ⟨⟨7⟩, .confirmed, ⟨3⟩, ⟨11⟩, ⟨12⟩, 9000, "USD"⟩).putBooking
      ⟨⟨8⟩, .cancelled, ⟨3⟩, ⟨11⟩, ⟨12⟩, 9000, "USD"⟩).putBooking
      ⟨⟨9⟩, .pending, ⟨3⟩, ⟨11⟩, ⟨12⟩, 9000, "USD"⟩

end World

end BookingNotices
