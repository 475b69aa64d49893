import BookingNotices.Proofs.Consumption
import BookingNotices.Proofs.Dispatch.Bound
import BookingNotices.Proofs.Dispatch.Course

/-!
# Payments converge

* `Bus.Patient`         : a delivery has failed no more often than events were refused, and fewer
  are refused than a delivery has attempts;
* `Plan`, `Plan.OnCourse` : what payments are to lead to, and a world on the way there;
* `OnCourse.deliver`    : every delivery keeps a world on course, and gives nothing up;
* `World.withPayments`  : the world in which some payments wait to be delivered;
* `dispatch_converges`  : when they are dispatched, every booking that was paid for gets its one
  row, which comes to its end and is told once, whatever the order and the repetitions of the
  payments.
-/

namespace BookingNotices

/-! ## Refused events and attempts -/

/-- A delivery has failed no more often than events were refused; fewer are refused than a delivery
has attempts. -/
structure Bus.Patient (limit refusals : Nat) (b : Bus Consumer) : Prop where
  subscriptions : b.subscriptions =
    [(Event.PaymentCompleted.topic, .paymentCompleted), (Event.Created.topic, .noticeCreated)]
  limit : b.attemptLimit = limit
  letters : b.deadLetters = []
  answers : ∀ i, b.refusals.answer i = decide (i < refusals)
  attempts : ∀ d ∈ b.queue, d.attempts ≤ min b.refusals.used refusals

namespace Bus.Patient

variable {limit refusals : Nat} {b : Bus Consumer}

theorem refuses_iff (h : b.Patient limit refusals) :
    b.refuses = true ↔ b.refusals.used < refusals := by
  unfold refuses Supply.next
  dsimp only
  rw [h.answers, decide_eq_true_eq]

theorem withQueue (h : b.Patient limit refusals) {queue : List (Bus.Delivery Consumer)}
    (hqueue : ∀ d ∈ queue, d ∈ b.queue) : Patient limit refusals { b with queue := queue } :=
  { h with attempts := fun d hd => h.attempts d (hqueue d hd) }

theorem handlersOf_created (h : b.Patient limit refusals) :
    b.handlersOf Event.Created.topic = [.noticeCreated] := by
  unfold handlersOf
  rw [h.subscriptions]
  rfl

/-- An announcement waits for its consumer. -/
theorem queue_accept (h : b.Patient limit refusals) {e : Event} {id : NoticeId}
    (honly : e.AnnouncesOnly id) : (b.accept e).queue = b.queue ++ [⟨e, .noticeCreated, 0⟩] := by
  show b.queue ++ (b.handlersOf e.topic).map _ = _
  rw [honly.1, h.handlersOf_created]
  rfl

theorem accept (h : b.Patient limit refusals) {e : Event} {id : NoticeId}
    (honly : e.AnnouncesOnly id) : (b.accept e).Patient limit refusals := by
  refine { h with attempts := fun d hd => ?_ }
  rw [h.queue_accept honly] at hd
  show d.attempts ≤ min (b.refusals.used + 1) refusals
  rcases List.mem_append.mp hd with hd | hd
  · have := h.attempts d hd
    omega
  · rw [List.mem_singleton.mp hd]
    exact Nat.zero_le _

/-- A delivery that fails because an event was refused has another attempt. -/
theorem retry (h : b.Patient limit refusals) (hlimit : refusals < limit)
    (hrefuses : b.refuses = true) {d : Bus.Delivery Consumer}
    (hd : d.attempts ≤ min b.refusals.used refusals) :
    d.next.attempts < b.skip.attemptLimit ∧
      Patient limit refusals { b.skip with queue := b.skip.queue ++ [d.next] } := by
  have hused := h.refuses_iff.mp hrefuses
  have hbound := h.limit
  refine ⟨?_, { h with attempts := fun d' hd' => ?_ }⟩
  · show d.attempts + 1 < b.attemptLimit
    omega
  · show d'.attempts ≤ min (b.refusals.used + 1) refusals
    rcases List.mem_append.mp hd' with hd' | hd'
    · have := h.attempts d' hd'
      omega
    · rw [List.mem_singleton.mp hd']
      show d.attempts + 1 ≤ _
      omega

end Bus.Patient

/-! ## What the consumers do -/

namespace World

theorem usual_consume (c : Consumer) (e : Event) (w : World) : w.Usual (consume c e w).2 := by
  unfold consume
  cases c with
  | noticeCreated =>
    dsimp only
    split
    · exact Usual.refl w
    · exact Worker.habit_run usual_habit _ w fun _ _ => usual_publishes
  | paymentCompleted =>
    dsimp only
    split
    · exact Usual.refl w
    · exact habit_create usual_habit usual_publishes w _ _

end World

/-! ## The plan -/

/-- What payments are to lead to. -/
structure Plan where
  registry : Registry
  keyed : registry.Keyed
  render : Invoice.Params → Bytes
  bookings : List BookingId
  complete : ∀ booking ∈ bookings, registry.Complete booking
  limit : Nat
  refusals : Nat
  patience : refusals < limit
  /-- what was sent before -/
  sent : List Mail.Message

namespace Plan

variable {p : Plan} {told : List BookingId} {w w' : World}

/-- A world on the way to what payments are to lead to; some of their bookings were told. -/
structure OnCourse (p : Plan) (told : List BookingId) (w : World) : Prop where
  healthy : w.Healthy p.render
  served : p.registry.Served w.registry
  patient : w.bus.Patient p.limit p.refusals
  course : w.store.Course p.registry p.bookings w.bus.queue told
  sent : w.outbox.sent = p.sent ++ told.filterMap (p.registry.mail? p.render)

/-- A consumer has done its work, or could not announce it and has left everything as it was. -/
def Handled (p : Plan) (w : World) (answered : Except Failure Unit × World) : Prop :=
  (answered.1 = .ok () ∧ ∃ told, p.OnCourse told answered.2) ∨
    ((∃ f, answered.1 = .error f) ∧ w.bus.refuses = true ∧ answered.2.store = w.store ∧
      answered.2.outbox.sent = w.outbox.sent ∧ answered.2.bus = w.bus.skip)

section Handling

variable {d : Bus.Delivery Consumer} {rest : List (Bus.Delivery Consumer)}
  (h : p.OnCourse told w) (hqueue : w.bus.queue = d :: rest)

include h hqueue

theorem OnCourse.popped : (w.withQueue rest).bus.Patient p.limit p.refusals ∧
    (w.withQueue rest).Healthy p.render ∧
    w.store.Course p.registry p.bookings (d :: rest) told := by
  refine ⟨h.patient.withQueue fun d' hd' => ?_, h.healthy.usual (World.usual_queues w rest _), ?_⟩
  · rw [hqueue]
    exact List.mem_cons_of_mem d hd'
  · rw [← hqueue]
    exact h.course

/-- What the delivery asks for is done already. -/
theorem OnCourse.dropped (hpays : ∀ booking, d.Pays booking → 0 < w.store.count booking)
    (hcalls : ∀ id, d.Calls id → ∀ row, w.store.rows.find? id = some row → row.status ≠ .pending) :
    p.OnCourse told (w.withQueue rest) := by
  obtain ⟨hpatient, hhealthy, hcourse⟩ := h.popped hqueue
  exact ⟨hhealthy, h.served, hpatient, hcourse.dropped hpays hcalls, h.sent⟩

theorem OnCourse.handle_payment {booking : BookingId} (hbooking : booking ∈ p.bookings)
    (hpays : d.Pays booking) (attempt : Nat) :
    p.Handled (w.withQueue rest)
      (World.consume d.handler (d.event.delivered attempt) (w.withQueue rest)) := by
  obtain ⟨hpatient, hhealthy, hcourse⟩ := h.popped hqueue
  obtain ⟨payment, hread, hpayment⟩ : ∃ payment,
      Event.PaymentCompleted.ofEvent (d.event.delivered attempt) = .ok payment ∧
        payment.booking = booking := by
    have hpaid : ((Event.PaymentCompleted.ofEvent (d.event.delivered attempt)).toOption.map
        (·.booking)) = some booking := hpays.2
    cases hread : Event.PaymentCompleted.ofEvent (d.event.delivered attempt) with
    | error f =>
      rw [hread] at hpaid
      cases hpaid
    | ok payment =>
      rw [hread] at hpaid
      exact ⟨payment, rfl, Option.some.inj hpaid⟩
  have husual := (World.usual_queues w rest w.bus.deadLetters).trans
    (World.usual_consume d.handler (d.event.delivered attempt) (w.withQueue rest))
  have hsent := (w.withQueue rest).sent_create booking (some (d.event.delivered attempt).id)
  rw [hpays.1, World.consume_payment hread, hpayment] at husual ⊢
  by_cases hzero : w.store.count booking = 0
  · rcases World.create_of_count_zero hhealthy.reliable hzero
        (some (d.event.delivered attempt).id) with
      ⟨hrefuses, e, he, hretry, hstore, hbus⟩ | ⟨hrefuses, n, event, hn, hok, hstore, honly, hbus⟩
    · exact Or.inr ⟨acknowledge_of_retryable he hretry, hrefuses, hstore, hsent, hbus⟩
    · rw [hok]
      refine Or.inl ⟨rfl, told, h.healthy.usual husual, h.served.trans husual.served, ?_, ?_, ?_⟩
      · rw [hbus]
        exact hpatient.accept honly
      · rw [hstore, hbus, hpatient.queue_accept honly, hn]
        exact hcourse.created hpays hbooking hzero rfl rfl honly
      · rw [hsent]
        exact h.sent
  · have hpos : 0 < w.store.count booking := Nat.pos_of_ne_zero hzero
    rw [World.create_of_count_pos hhealthy.reliable hpos]
    refine Or.inl ⟨rfl, told, h.dropped hqueue (fun other hother => ?_)
      fun id hcalls => absurd hcalls (hpays.not_calls id)⟩
    rw [hother.inj hpays]
    exact hpos

theorem OnCourse.handle_announcement {id : NoticeId} (hcalls : d.Calls id) (attempt : Nat) :
    p.Handled (w.withQueue rest)
      (World.consume d.handler (d.event.delivered attempt) (w.withQueue rest)) := by
  obtain ⟨hpatient, hhealthy, hcourse⟩ := h.popped hqueue
  have hread : Event.Created.ofEvent (d.event.delivered attempt) = .ok ⟨id⟩ := hcalls.2
  have husual := (World.usual_queues w rest w.bus.deadLetters).trans
    (World.usual_consume d.handler (d.event.delivered attempt) (w.withQueue rest))
  rw [hcalls.1, World.consume_created hread] at husual ⊢
  by_cases hwaits : ∃ row, w.store.rows.find? id = some row ∧ row.status = .pending
  · obtain ⟨row, hrow, hpending⟩ := hwaits
    obtain rfl := h.course.sound.keyed id row hrow
    have hset : row.id.isUnset = false := by
      have hpositive := (h.course.sound.ids (row.id, row) (Table.find?_mem hrow)).1
      unfold NoticeId.isUnset
      rw [decide_eq_false_iff_not, Int64.le_iff_toInt_le]
      exact Int.not_le.mpr hpositive
    rcases World.process_of_waiting hhealthy (p.keyed.served h.served) hrow hset hpending
        (h.served.complete (p.complete _ (h.course.wanted row.id row hrow)))
        (h.course.waiting row.id row hrow hpending).1
      with ⟨hrefuses, e, he, hretry, haside, hbus⟩ |
        ⟨hrefuses, m, event, hok, hresolved, honly, hbus⟩
    · exact Or.inr ⟨acknowledge_of_retryable he hretry, hrefuses, haside.store, haside.sent, hbus⟩
    · rw [hok]
      refine Or.inl ⟨rfl, told ++ [row.booking], h.healthy.usual husual,
        h.served.trans husual.served, ?_, ?_, ?_⟩
      · rw [hbus]
        exact hpatient.accept honly
      · rw [hresolved.store, hbus, hpatient.queue_accept honly]
        exact hcourse.resolved hrow hcalls hpending hresolved.kin hresolved.final
          ((h.served.ending? row.booking).symm.trans hresolved.ending) honly
      · have hmail := h.served.mail? p.render row.booking
        rw [hresolved.sent, List.filterMap_append, ← List.append_assoc, ← h.sent]
        show w.outbox.sent ++ (w.registry.mail? p.render row.booking).toList = _
        rw [hmail]
        cases htold : p.registry.mail? p.render row.booking <;> simp [htold]
  · have hnot : ∀ row, w.store.rows.find? id = some row → row.status ≠ .pending :=
      fun row hrow hpending => hwaits ⟨row, hrow, hpending⟩
    obtain ⟨hworld, hfails⟩ := World.process_of_not_waiting hhealthy.reliable hnot
    refine Or.inl ⟨acknowledge_of_not_retryable hfails, told, ?_⟩
    rw [hworld]
    refine h.dropped hqueue (fun booking hpays => absurd hcalls (hpays.not_calls id)) ?_
    intro other hother
    rw [hother.inj hcalls]
    exact hnot

end Handling

/-- Every delivery keeps a world on course, and gives nothing up. -/
theorem OnCourse.deliver {ending : Bus.Ending} (h : p.OnCourse told w)
    (hdeliver : Bus.deliver World.consume w = some (ending, w')) :
    (∃ told, p.OnCourse told w') ∧ ending ≠ .deadLettered := by
  obtain ⟨d, rest, hqueue, hsettles⟩ := World.deliver_eq_some hdeliver
  obtain ⟨hpatient, -, hcourse⟩ := h.popped hqueue
  have hd : d ∈ w.bus.queue := by
    rw [hqueue]
    exact List.mem_cons_self
  have hhandled : p.Handled (w.withQueue rest)
      (World.consume d.handler (d.event.delivered (d.attempts + 1)) (w.withQueue rest)) := by
    rcases h.course.expected d hd with ⟨booking, hbooking, hpays⟩ | ⟨id, hcalls⟩
    · exact h.handle_payment hqueue hbooking hpays _
    · exact h.handle_announcement hqueue hcalls _
  have husual := World.usual_consume d.handler (d.event.delivered (d.attempts + 1))
    (w.withQueue rest)
  generalize World.consume d.handler (d.event.delivered (d.attempts + 1)) (w.withQueue rest) =
    answered at hsettles hhandled husual
  obtain ⟨outcome, w₁⟩ := answered
  rcases hhandled with ⟨hok, htold⟩ | ⟨⟨f, hfailed⟩, hrefuses, hstore, hsent, hbus⟩
  · dsimp only at hok
    subst hok
    cases hsettles
    exact ⟨htold, nofun⟩
  · dsimp only at hfailed hstore hsent hbus
    subst hfailed
    obtain ⟨hless, hretried⟩ := hpatient.retry p.patience hrefuses (h.patient.attempts d hd)
    have hlimit : d.next.attempts < w₁.bus.attemptLimit := hbus ▸ hless
    cases hsettles with
    | retried _ =>
      have husual := ((World.usual_queues w rest w.bus.deadLetters).trans husual).trans
        (World.usual_queues w₁ (w₁.bus.queue ++ [d.next]) w₁.bus.deadLetters)
      refine ⟨⟨told, h.healthy.usual husual, h.served.trans husual.served, ?_, ?_, ?_⟩, nofun⟩
      · show Bus.Patient _ _ { w₁.bus with queue := w₁.bus.queue ++ [d.next] }
        rw [hbus]
        exact hretried
      · show w₁.store.Course _ _ (w₁.bus.queue ++ [d.next]) told
        rw [hbus, hstore]
        exact hcourse.retried
      · exact hsent.trans h.sent
    | givenUp _ hnot => exact absurd hlimit hnot

/-- A dispatch ends on course, with nothing given up and nothing waiting. -/
theorem OnCourse.dispatchAll (h : p.OnCourse told w) (hserves : w.Serves) :
    w.dispatchAll.1.deadLettered = 0 ∧ w.dispatchAll.2.bus.queue = [] ∧
      ∃ told, p.OnCourse told w.dispatchAll.2 := by
  obtain ⟨hreport, hend⟩ := Bus.dispatch_induction (P := fun w => ∃ told, p.OnCourse told w)
    (Q := fun r => r.deadLettered = 0)
    (fun w ending w' ⟨told, hw⟩ hdeliver => by
      obtain ⟨hw', hkept⟩ := hw.deliver hdeliver
      refine ⟨hw', fun r hr => ?_⟩
      cases ending with
      | delivered => exact hr
      | retried => exact hr
      | deadLettered => exact absurd rfl hkept)
    rfl w.deliveryBound w ⟨told, h⟩
  exact ⟨hreport, World.queue_dispatchAll hserves, hend⟩

end Plan

/-! ## Payments that wait -/

namespace World

/-- An empty store, a bus with both consumers, these payments waiting on it, and some of the next
events refused. -/
def withPayments (w : World) (limit refusals : Nat) (events : List Event) : World :=
  let begun := { w with store := {}, bus := .withAttemptLimit limit }.register
  let paid := events.foldl (fun w e => (w.publish e).2) begun
  { paid with bus := paid.bus.refuseNext refusals }

/-- Published payments wait for their consumer. -/
theorem publish_payments {events : List Event}
    (htopics : ∀ e ∈ events, e.topic = Event.PaymentCompleted.topic) (w : World)
    (hrefusals : ∀ i, w.bus.refusals.answer i = false)
    (hsubscriptions : w.bus.subscriptions =
      [(Event.PaymentCompleted.topic, .paymentCompleted), (Event.Created.topic, .noticeCreated)]) :
    ∃ bus, events.foldl (fun w e => (w.publish e).2) w = { w with bus := bus } ∧
      bus.subscriptions = w.bus.subscriptions ∧ bus.attemptLimit = w.bus.attemptLimit ∧
      bus.deadLetters = w.bus.deadLetters ∧
      bus.queue = w.bus.queue ++ events.map fun e => ⟨e, .paymentCompleted, 0⟩ := by
  induction events generalizing w with
  | nil => exact ⟨w.bus, rfl, rfl, rfl, rfl, (List.append_nil _).symm⟩
  | cons e events ih =>
    have hpublish : (w.publish e).2 = { w with bus := w.bus.accept e } := by
      unfold publish
      rw [Bus.publish_of_not_refuses (hrefusals w.bus.refusals.used)]
    have hhandlers : w.bus.handlersOf e.topic = [.paymentCompleted] := by
      unfold Bus.handlersOf
      rw [htopics e List.mem_cons_self, hsubscriptions]
      rfl
    obtain ⟨bus, hend, hsub, hlimit, hletters, hqueue⟩ := ih
      (fun e' he' => htopics e' (List.mem_cons_of_mem e he')) { w with bus := w.bus.accept e }
      hrefusals hsubscriptions
    refine ⟨bus, ?_, hsub, hlimit, hletters, ?_⟩
    · rw [List.foldl_cons, hpublish, hend]
    · rw [hqueue]
      show (w.bus.queue ++ (w.bus.handlersOf e.topic).map _) ++ _ = _
      rw [hhandlers, List.append_assoc]
      rfl

/-- What the consumers start from when payments wait for them. -/
theorem withPayments_fields (w : World) (limit refusals : Nat) {events : List Event}
    (htopics : ∀ e ∈ events, e.topic = Event.PaymentCompleted.topic) :
    ∃ published, w.withPayments limit refusals events = { w with
      store := {}
      bus := { subscriptions :=
                [(Event.PaymentCompleted.topic, .paymentCompleted),
                  (Event.Created.topic, .noticeCreated)]
               published := published
               queue := events.map fun e => ⟨e, .paymentCompleted, 0⟩
               refusals := .firstTimes refusals
               attemptLimit := max limit 1 } } := by
  obtain ⟨bus, hend, hsubscriptions, hlimit, hletters, hqueue⟩ := publish_payments htopics
    { w with store := {}, bus := .withAttemptLimit limit }.register (fun _ => rfl) rfl
  refine ⟨bus.published, ?_⟩
  unfold withPayments
  dsimp only
  rw [hend]
  obtain ⟨subscriptions, published, queue, letters, refused, attempts⟩ := bus
  dsimp only at hsubscriptions hlimit hletters hqueue
  rw [hsubscriptions, hlimit, hletters, hqueue]
  rfl

end World

/-- Payments that wait are on their way. -/
theorem Plan.onCourse_withPayments {p : Plan} {w : World} (hw : w.Healthy p.render)
    (hregistry : w.registry = p.registry) (hsent : w.outbox.sent = p.sent) {limit : Nat}
    (hlimit : p.limit = max limit 1) {events : List Event}
    (hbookings : p.bookings = events.filterMap Event.paidBooking?)
    (hevents : ∀ e ∈ events, e.topic = Event.PaymentCompleted.topic ∧
      ∃ booking, e.paidBooking? = some booking) :
    p.OnCourse [] (w.withPayments limit p.refusals events) ∧
      (w.withPayments limit p.refusals events).Serves := by
  obtain ⟨published, hbegin⟩ := w.withPayments_fields limit p.refusals fun e he => (hevents e he).1
  rw [hbegin]
  have hpaid (booking : BookingId) : booking ∈ p.bookings ↔
      ∃ d ∈ events.map fun e => (⟨e, .paymentCompleted, 0⟩ : Bus.Delivery Consumer),
        d.Pays booking := by
    rw [hbookings, List.mem_filterMap]
    refine ⟨fun ⟨e, he, hpaid⟩ => ⟨_, List.mem_map_of_mem he, rfl, hpaid⟩, fun ⟨d, hd, hpays⟩ => ?_⟩
    obtain ⟨e, he, rfl⟩ := List.mem_map.mp hd
    exact ⟨e, he, hpays.2⟩
  refine ⟨⟨⟨hw.reliable, hw.up, hw.renders, hw.puts, hw.reads, hw.sends⟩, ?_, ?_, ?_, ?_⟩, ?_⟩
  · rw [← hregistry]
    exact .refl _
  · refine ⟨rfl, hlimit.symm, rfl, fun _ => rfl, fun d hd => ?_⟩
    obtain ⟨e, -, rfl⟩ := List.mem_map.mp hd
    exact Nat.zero_le _
  · refine .begin (fun d hd => ?_) fun booking => (hpaid booking).mp
    obtain ⟨e, he, rfl⟩ := List.mem_map.mp hd
    obtain ⟨booking, hbooking⟩ := (hevents e he).2
    exact ⟨booking, (hpaid booking).mpr ⟨_, hd, rfl, hbooking⟩, rfl, hbooking⟩
  · exact hsent.trans (List.append_nil _).symm
  · refine ⟨Nat.le_max_right limit 1, ?_, Store.Keyed.empty, Table.Sorted.nil⟩
    simp [World.topicOf]

namespace World

/-- All is known of the bookings that were paid for, if each payment is for such a booking. -/
theorem complete_of_paid {r : Registry} {events : List Event}
    (hevents : ∀ e ∈ events, ∃ booking, e.paidBooking? = some booking ∧ r.Complete booking) :
    ∀ booking ∈ events.filterMap Event.paidBooking?, r.Complete booking := by
  intro booking hbooking
  obtain ⟨e, he, hpaid⟩ := List.mem_filterMap.mp hbooking
  obtain ⟨other, hother, hcomplete⟩ := hevents e he
  rw [hpaid] at hother
  cases hother
  exact hcomplete

/-- What a dispatch of payments leads to. -/
theorem dispatch_payments {render : Invoice.Params → Bytes} {w : World} (hw : w.Healthy render)
    (hkeyed : w.registry.Keyed) {limit refusals : Nat} (hrefusals : refusals < max limit 1)
    {events : List Event}
    (hevents : ∀ e ∈ events, e.topic = Event.PaymentCompleted.topic ∧
      ∃ booking, e.paidBooking? = some booking ∧ w.registry.Complete booking) :
    let done := (w.withPayments limit refusals events).dispatchAll
    done.1.deadLettered = 0 ∧ done.2.bus.deadLetters = [] ∧ done.2.bus.queue = [] ∧
    (∀ booking, done.2.store.endings booking =
      if booking ∈ events.filterMap Event.paidBooking? then (w.registry.ending? booking).toList
      else []) ∧
    ∃ told : List BookingId, told.Nodup ∧
      (∀ booking, booking ∈ told ↔ booking ∈ events.filterMap Event.paidBooking?) ∧
      done.2.outbox.sent = w.outbox.sent ++ told.filterMap (w.registry.mail? render) := by
  intro done
  have hcomplete := complete_of_paid fun e he => (hevents e he).2
  obtain ⟨hbegin, hserves⟩ := Plan.onCourse_withPayments
    (p := ⟨w.registry, hkeyed, render, events.filterMap Event.paidBooking?, hcomplete, max limit 1,
      refusals, hrefusals, w.outbox.sent⟩) hw rfl rfl rfl rfl fun e he => by
        obtain ⟨htopic, booking, hpaid, -⟩ := hevents e he
        exact ⟨htopic, booking, hpaid⟩
  obtain ⟨hreport, hqueue, told, hend⟩ := hbegin.dispatchAll hserves
  have hcourse := hend.course
  rw [hqueue] at hcourse
  exact ⟨hreport, hend.patient.letters, hqueue, hcourse.endings_eq, told, hcourse.once,
    hcourse.mem_told_iff, hend.sent⟩

/-- The same payments in another order, repeated otherwise, or met by other refusals, lead to rows
that stand as these do, and to the same mails. -/
theorem dispatch_payments_congr {render : Invoice.Params → Bytes} {w : World}
    (hw : w.Healthy render) (hkeyed : w.registry.Keyed) {limit limit' refusals refusals' : Nat}
    (hrefusals : refusals < max limit 1) (hrefusals' : refusals' < max limit' 1)
    {events events' : List Event} (hsame : ∀ e, e ∈ events' ↔ e ∈ events)
    (hevents : ∀ e ∈ events, e.topic = Event.PaymentCompleted.topic ∧
      ∃ booking, e.paidBooking? = some booking ∧ w.registry.Complete booking) :
    let done := (w.withPayments limit refusals events).dispatchAll
    let other := (w.withPayments limit' refusals' events').dispatchAll
    (∀ booking, other.2.store.endings booking = done.2.store.endings booking) ∧
      other.2.outbox.sent.Perm done.2.outbox.sent := by
  intro done other
  obtain ⟨-, -, -, hendings, told, honce, htold, hsent⟩ :=
    dispatch_payments hw hkeyed hrefusals hevents
  obtain ⟨-, -, -, hendings', told', honce', htold', hsent'⟩ :=
    dispatch_payments hw hkeyed hrefusals' fun e he => hevents e ((hsame e).mp he)
  have hpaid (booking : BookingId) : booking ∈ events'.filterMap Event.paidBooking? ↔
      booking ∈ events.filterMap Event.paidBooking? := by
    rw [List.mem_filterMap, List.mem_filterMap]
    exact exists_congr fun e => and_congr_left fun _ => hsame e
  refine ⟨fun booking => ?_, ?_⟩
  · rw [hendings booking, hendings' booking]
    simp only [hpaid booking]
  · have hperm : told'.Perm told :=
      (List.perm_ext_iff_of_nodup honce' honce).mpr fun booking => by
        rw [htold booking, htold' booking]
        exact hpaid booking
    rw [hsent, hsent']
    exact (hperm.filterMap _).append_left _

/-- Payments for bookings whose records are all known are published over an empty store, any number
of times and in any order, and then fewer events are refused than a delivery has attempts. When they
are dispatched, nothing is given up and nothing is left waiting; every booking that was paid for has
its one row, which is a success with its invoice if the booking is confirmed, a success without one
if it is cancelled, and a failure otherwise; and just the confirmed and the cancelled ones are told,
once each. The same payments in another order, repeated otherwise, or met by other refusals, lead to
rows that stand as these do, and to the same mails. -/
theorem dispatch_converges {render : Invoice.Params → Bytes} {w : World} (hw : w.Healthy render)
    (hkeyed : w.registry.Keyed) {limit refusals : Nat} (hrefusals : refusals < max limit 1)
    {events : List Event}
    (hevents : ∀ e ∈ events, e.topic = Event.PaymentCompleted.topic ∧
      ∃ booking, e.paidBooking? = some booking ∧ w.registry.Complete booking) :
    let paid := events.filterMap Event.paidBooking?
    let done := (w.withPayments limit refusals events).dispatchAll
    done.1.deadLettered = 0 ∧ done.2.bus.deadLetters = [] ∧ done.2.bus.queue = [] ∧
    (∀ booking, booking ∉ paid → done.2.store.endings booking = []) ∧
    (∀ booking b, booking ∈ paid → w.registry.bookings.find? booking = some b →
      done.2.store.endings booking =
        [match b.status with
          | .confirmed => (.success, Notice.documentName booking)
          | .cancelled => (.success, "")
          | .initializing | .pending => (.failed, "")]) ∧
    (∃ (told : List BookingId) (mails : List Mail.Message), told.Nodup ∧
      (∀ booking, booking ∈ told ↔ booking ∈ paid ∧
        ∃ b, w.registry.bookings.find? booking = some b ∧
          (b.status = .confirmed ∨ b.status = .cancelled)) ∧
      told.map (w.registry.mail? render) = mails.map some ∧
      told.map w.registry.address? = mails.map (fun m => some m.recipient) ∧
      done.2.outbox.sent = w.outbox.sent ++ mails) ∧
    ∀ limit' refusals' events', refusals' < max limit' 1 → (∀ e, e ∈ events' ↔ e ∈ events) →
      let other := (w.withPayments limit' refusals' events').dispatchAll
      (∀ booking, other.2.store.endings booking = done.2.store.endings booking) ∧
        other.2.outbox.sent.Perm done.2.outbox.sent := by
  intro paid done
  obtain ⟨hreport, hletters, hqueue, hendings, told, honce, htold, hsent⟩ :=
    dispatch_payments hw hkeyed hrefusals hevents
  have hcomplete := complete_of_paid fun e he => (hevents e he).2
  have hmails := map_filter_isSome (w.registry.mail? render) told
  refine ⟨hreport, hletters, hqueue, fun booking hnot => ?_, fun booking b hbooking hb => ?_,
    ⟨told.filter fun booking => (w.registry.mail? render booking).isSome,
      told.filterMap (w.registry.mail? render), honce.filter _, fun booking => ?_, hmails,
      Registry.map_address? hmails, hsent⟩,
    fun limit' refusals' events' hrefusals' hsame => ?_⟩
  · rw [hendings booking, if_neg hnot]
  · rw [hendings booking, if_pos hbooking, Registry.ending?_of_find? hb]
    rfl
  · rw [List.mem_filter, htold booking]
    exact and_congr_right fun hbooking =>
      Registry.isSome_mail?_iff (hcomplete booking hbooking) render
  · exact dispatch_payments_congr hw hkeyed hrefusals hrefusals' hsame hevents

/-- Payments for the three bookings, one of them twice. -/
def fourPayments : List Event :=
  [⟨7⟩, ⟨8⟩, ⟨7⟩, ⟨9⟩].map fun booking =>
    (Event.PaymentCompleted.mk booking .success).envelope "" ⟨0, 0⟩

/-- The payments are dispatched while two events are refused, and in reverse while none is. -/
theorem repeated_payments_converge :
    threeBookings.Healthy (fun p => ("invoice " ++ p.booking.toText ++ " " ++ p.item).toUTF8) ∧
    threeBookings.registry.Keyed ∧ 2 < max 3 1 ∧
    (∀ e ∈ fourPayments, e.topic = Event.PaymentCompleted.topic ∧
      ∃ booking, e.paidBooking? = some booking ∧ threeBookings.registry.Complete booking) ∧
    (threeBookings.withPayments 3 2 fourPayments).dispatchAll.2.bus.queue = [] ∧
    (threeBookings.withPayments 3 2 fourPayments).dispatchAll.2.store.endings ⟨7⟩ =
      [(.success, "pdf_invoice_7.pdf")] ∧
    (threeBookings.withPayments 3 0 fourPayments.reverse).dispatchAll.2.outbox.sent.Perm
      (threeBookings.withPayments 3 2 fourPayments).dispatchAll.2.outbox.sent := by
  have hhealthy : threeBookings.Healthy
      (fun p => ("invoice " ++ p.booking.toText ++ " " ++ p.item).toUTF8) :=
    ⟨fun _ => rfl, fun _ => rfl, fun _ _ => rfl, fun _ => rfl, fun _ => rfl, fun _ => rfl⟩
  have hfixtures : (((({} : Registry).putUser ⟨⟨3⟩, "ada@example.org", "Ada"⟩).putShowtime ⟨11⟩
      ⟨"Metropolis", "Odeon", "Berlin", "1", 0, 9180000⟩).putSeat ⟨⟨12⟩, "E5"⟩).Keyed :=
    fun _ _ h => nomatch h
  have hkeyed : threeBookings.registry.Keyed :=
    ((hfixtures.putBooking _).putBooking _).putBooking _
  have hpaid (booking : BookingId) : Event.paidBooking?
      ((Event.PaymentCompleted.mk booking .success).envelope "" ⟨0, 0⟩) = some booking := by
    unfold Event.paidBooking?
    rw [Event.PaymentCompleted.ofEvent_envelope]
    rfl
  have hevents : ∀ e ∈ fourPayments, e.topic = Event.PaymentCompleted.topic ∧
      ∃ booking, e.paidBooking? = some booking ∧ threeBookings.registry.Complete booking := by
    intro e he
    obtain ⟨booking, hbooking, rfl⟩ := List.mem_map.mp he
    refine ⟨rfl, booking, hpaid booking, ?_⟩
    simp only [List.mem_cons, List.not_mem_nil, or_false] at hbooking
    rcases hbooking with rfl | rfl | rfl | rfl <;>
      exact ⟨_, _, rfl, rfl, fun _ => ⟨⟨_, rfl⟩, _, rfl⟩⟩
  have hseven : (⟨7⟩ : BookingId) ∈ fourPayments.filterMap Event.paidBooking? :=
    List.mem_filterMap.mpr ⟨_, List.mem_cons_self, hpaid ⟨7⟩⟩
  have hless : 2 < max 3 1 := by decide
  obtain ⟨-, -, hqueue, -, hrows, -, hother⟩ := dispatch_converges hhealthy hkeyed hless hevents
  exact ⟨hhealthy, hkeyed, hless, hevents, hqueue, hrows ⟨7⟩ _ hseven rfl,
    (hother 3 0 fourPayments.reverse (by decide) fun _ => List.mem_reverse).2⟩

end World

end BookingNotices
