import BookingNotices.Proofs.Creation
import BookingNotices.Proofs.Dispatch.Basic
import BookingNotices.Proofs.Run
import BookingNotices.Proofs.Worker

/-!
# Dispatch comes to an end

* `World.Serves`        : the consumers are subscribed to their own topics, and the store is in
  order;
* `World.load`          : the rows that wait, and the commits that are still made to fail;
* `World.Charges`       : at most one row was announced, and the load went down by as much, but for
  a credit;
* `World.charges_consume` : so it is with everything that a consumer does, the credit being its own;
* `World.weight`        : more deliveries than can follow; every delivery lowers it
  (`weight_deliver_lt`);
* `World.exists_drains`, `World.queue_dispatchAll` : so the deliveries come to an end, and nothing
  waits behind a dispatch, whatever fails.

A row is announced when it is created, and once more when it is claimed; a failed commit leaves an
announcement behind, too. So announcements are paid for by rows that wait and by commits that are to
fail, and a creation, which makes the one row that it announces, has a credit of two.
-/

namespace BookingNotices

namespace Store

/-- How many rows wait for a worker. -/
def waiting (s : Store) : Nat := s.rows.values.countP (·.status = .pending)

theorem waiting_insert_le (s : Store) (n : Notice) : (s.insert n).2.waiting ≤ s.waiting + 1 :=
  Table.countP_insert_le _ _ _ _

section Put

variable {s : Store} (hsorted : s.rows.Sorted) {row n : Notice}
  (hrow : s.rows.find? n.id = some row)

include hsorted hrow

theorem waiting_put : (s.put n).waiting + (if row.status = .pending then 1 else 0) =
    s.waiting + if n.status = .pending then 1 else 0 := by
  have hcount := Table.countP_insert_of_find? (v := n) (·.status = .pending) hsorted hrow
  simp only [decide_eq_true_eq] at hcount
  exact hcount

/-- Rows do not begin to wait when they are written. -/
theorem waiting_put_le (h : n.status = .pending → row.status = .pending) :
    (s.put n).waiting ≤ s.waiting := by
  have hput := waiting_put hsorted hrow
  by_cases hn : n.status = .pending
  · rw [if_pos hn, if_pos (h hn)] at hput
    omega
  · rw [if_neg hn] at hput
    omega

theorem waiting_put_lt (hpending : row.status = .pending) (hn : n.status ≠ .pending) :
    (s.put n).waiting < s.waiting := by
  have hput := waiting_put hsorted hrow
  rw [if_pos hpending, if_neg hn] at hput
  omega

end Put

end Store

namespace World

/-! ## What announcements are paid with -/

/-- The consumers are subscribed to their own topics, and the store is in order. -/
structure Serves (w : World) : Prop where
  limit : 1 ≤ w.bus.attemptLimit
  topics : ∀ s ∈ w.bus.subscriptions, s.1 = topicOf s.2
  keyed : w.store.Keyed
  sorted : w.store.rows.Sorted

/-- The rows that wait, and the commits that are still made to fail. -/
def load (w : World) : Nat := w.store.waiting + (w.storeFaults .commit).length

/-- At most one row was announced, and the load went down by as much, but for a credit. -/
structure Charges (credit : Nat) (w w' : World) : Prop where
  serves : w'.Serves
  paid : ∃ id? : Option NoticeId, w.Announced id? w' ∧
    w'.load + id?.toList.length ≤ w.load + credit

theorem Announced.subscriptions {w w' : World} {id? : Option NoticeId} (h : w.Announced id? w') :
    w'.bus.subscriptions = w.bus.subscriptions ∧ w'.bus.attemptLimit = w.bus.attemptLimit := by
  cases id? with
  | none => rcases h with h | h <;> rw [h] <;> exact ⟨rfl, rfl⟩
  | some id =>
    obtain ⟨e, -, h⟩ := h
    rw [h]
    exact ⟨rfl, rfl⟩

theorem Serves.announced {w w' : World} (h : w.Serves) {id? : Option NoticeId}
    (hw : w.Announced id? w') (hkeyed : w'.store.Keyed) (hsorted : w'.store.rows.Sorted) :
    w'.Serves := by
  obtain ⟨hsubscriptions, hlimit⟩ := hw.subscriptions
  exact ⟨hlimit ▸ h.limit, hsubscriptions ▸ h.topics, hkeyed, hsorted⟩

/-- What is neither stored nor announced costs nothing. -/
theorem Charges.mono {w w' : World} {c c' : Nat} (h : Charges c w w') (hle : c ≤ c') :
    Charges c' w w' := by
  obtain ⟨id?, hannounced, hpaid⟩ := h.paid
  exact ⟨h.serves, id?, hannounced, by omega⟩

/-- A store that stays as it is, with a commit that failed for what was announced. -/
theorem Charges.of_aside {w w' : World} (h : w.Serves) (hw : w.Aside w')
    (hannounced : w.Announced none w' ∨ w.Lapsed w') : Charges 0 w w' := by
  have hcommit := hw.faults .commit
  have hstore := hw.store
  have hload : w'.load ≤ w.load := by
    unfold load
    rw [hstore]
    omega
  rcases hannounced with hannounced | ⟨id, hannounced, hless⟩
  · exact ⟨h.announced hannounced (hstore ▸ h.keyed) (hstore ▸ h.sorted), none, hannounced, hload⟩
  · refine ⟨h.announced hannounced (hstore ▸ h.keyed) (hstore ▸ h.sorted), some id, hannounced, ?_⟩
    show w'.load + 1 ≤ w.load
    unfold load
    rw [hstore]
    omega

/-- Nothing is announced from here on, and the load goes no higher. -/
theorem Charges.calm {w w₁ w₂ : World} {credit : Nat} (h : Charges credit w w₁)
    (hserves : w₂.Serves) (hbus : w₂.bus = w₁.bus) (hload : w₂.load ≤ w₁.load) :
    Charges credit w w₂ := by
  obtain ⟨id?, hannounced, hpaid⟩ := h.paid
  exact ⟨hserves, id?, hannounced.bus_eq hbus, by omega⟩

end World

/-! ## Workers and creations -/

namespace Worker

open World

variable {k k' : Worker} {w w' : World} {ds : List Deed}

theorem Acts.sorted (h : k.Acts w k' w' ds) (hfits : k.Fits w.store)
    (hsorted : w.store.rows.Sorted) : w'.store.rows.Sorted := by
  rcases h.store hfits with hstore | ⟨row, n, -, -, hstore⟩
  · rw [hstore]
    exact hsorted
  · rw [hstore]
    exact hsorted.insert

/-- The row that a step announces waits no longer. -/
theorem Acts.waiting (h : k.Acts w k' w' ds) (hfits : k.Fits w.store)
    (hsorted : w.store.rows.Sorted) :
    w'.store.waiting + (announced? k k').toList.length ≤ w.store.waiting := by
  cases h.stores hfits with
  | nothing hnot hstore =>
    rw [announced?_eq_none hnot]
    exact Nat.le_of_eq (congrArg Store.waiting hstore)
  | claimed hk hk' hrow hpending hn hstore =>
    subst hk hk'
    rw [hstore]
    exact Store.waiting_put_lt hsorted hrow hpending (by rw [hn]; exact nofun)
  | renewed hk _ hrow hprocessing hn hstore =>
    subst hk
    rw [hstore]
    exact Store.waiting_put_le hsorted hrow fun hpending => by
      rw [hn] at hpending
      exact hpending
  | resolved hresolves hrow hprocessing hkin hfinal hstore =>
    obtain ⟨_, _, _, rfl, -⟩ := hresolves.claim
    rw [hstore]
    exact Store.waiting_put_le hsorted hrow fun hpending => by
      rw [hpending] at hfinal
      cases hfinal

theorem charges_step (h : w.Serves) (hfits : k.Fits w.store) (hgoing : k.result? = none) :
    w.Charges 0 (k.step w).2 := by
  have hacts := (goes_step h.keyed hfits hgoing).acts
  have hwaiting := hacts.waiting hfits h.sorted
  have hcommit := hacts.steady.faults .commit
  have hkeyed := hacts.keyed hfits h.keyed
  have hsorted := hacts.sorted hfits h.sorted
  rcases step_announced k w with hannounced | ⟨hnone, id, hannounced, hless⟩
  · refine ⟨h.announced hannounced hkeyed hsorted, _, hannounced, ?_⟩
    unfold load
    omega
  · refine ⟨h.announced hannounced hkeyed hsorted, some id, hannounced, ?_⟩
    rw [hnone] at hwaiting
    simp only [Option.toList_none, Option.toList_some, List.length_nil, List.length_singleton]
      at hwaiting ⊢
    unfold load
    omega

/-- A worker announces the row that it claims, and nothing else. -/
theorem charges_process (h : w.Serves) (id : NoticeId) : w.Charges 0 (w.process id).2 := by
  unfold process
  rw [run_of_going rfl]
  have hrun := run_induction
    (P := fun k w' => k.Fits w'.store ∧ w.Charges 0 w' ∧ ∀ id, k ≠ .claiming id)
    (fun k w₁ hgoing ⟨hfits, hcharges, hnot⟩ => by
      have hserves := hcharges.serves
      have hgoes := goes_step hserves.keyed hfits hgoing
      have hnext := charges_step hserves hfits hgoing
      have hwaiting := hgoes.acts.waiting hfits hserves.sorted
      have hcommit := hgoes.acts.steady.faults .commit
      refine ⟨hgoes.fits, hcharges.calm hnext.serves ?_ ?_, step_ne_claiming hgoing w₁⟩
      · exact habit_step calm_habit k w₁ fun id hk => absurd hk (hnot id)
      · unfold load
        omega)
    _ _ ⟨(goes_claiming h.keyed id).fits, charges_step h trivial rfl,
      step_ne_claiming (k := .claiming id) rfl w⟩
  exact hrun.2.1

end Worker

namespace World

/-- A creation announces the row that it makes. -/
theorem charges_create {w : World} (h : w.Serves) (booking : BookingId) (cause : Option String) :
    w.Charges 2 (w.create booking cause).2 := by
  have hannounced := w.create_announced booking cause
  rcases w.create_cases booking cause with ⟨e, hresult, hw⟩ | ⟨n, w', -, -, hresult, hworld, hw⟩
  · rw [hresult] at hannounced
    exact (Charges.of_aside h hw (hannounced.imp_right And.right)).mono (Nat.zero_le _)
  · rw [hresult] at hannounced
    have hannounced := hannounced.resolve_right fun hlapsed => nomatch hlapsed.1
    rw [hworld] at hannounced ⊢
    have hcommit := hw.faults .commit
    have hwaiting := w.store.waiting_insert_le n
    refine ⟨h.announced hannounced (h.keyed.insert n) h.sorted.insert, _, hannounced, ?_⟩
    show (w.store.insert n).2.waiting + (w'.storeFaults .commit).length + 1 ≤
      w.store.waiting + (w.storeFaults .commit).length + 2
    omega

/-- What a consumer may announce without a row that waited before. -/
def credit : Consumer → Nat
  | .noticeCreated => 0
  | .paymentCompleted => 2

theorem charges_consume {w : World} (h : w.Serves) (c : Consumer) (e : Event) :
    w.Charges (credit c) (consume c e w).2 := by
  have hnothing : w.Charges (credit c) w := ⟨h, none, Or.inl rfl, Nat.le_add_right _ _⟩
  cases c with
  | noticeCreated =>
    unfold consume
    dsimp only
    split
    · exact hnothing
    · exact Worker.charges_process h _
  | paymentCompleted =>
    unfold consume
    dsimp only
    split
    · exact hnothing
    · exact charges_create h _ _

/-! ## The weight of what waits -/

/-- How many deliveries can follow from what waits. -/
def backlog (w : World) : Nat :=
  Numeric.total (w.bus.queue.map fun d =>
    max 1 (w.bus.attemptLimit - d.attempts) * w.attemptCost d.handler)

/-- How many deliveries can follow. -/
def weight (w : World) : Nat := w.backlog + w.load * w.announcementCost

theorem deliveryBound_eq (w : World) : w.deliveryBound = w.weight + 1 := rfl

theorem attemptCost_eq (w : World) (c : Consumer) :
    w.attemptCost c = 1 + credit c * w.announcementCost := by
  cases c with
  | noticeCreated => rw [credit, Nat.zero_mul]; rfl
  | paymentCompleted => rfl

theorem Serves.handlersOf {w : World} (h : w.Serves) :
    ∀ c ∈ w.bus.handlersOf Event.Created.topic, c = .noticeCreated := by
  intro c hc
  unfold Bus.handlersOf at hc
  obtain ⟨s, hs, rfl⟩ := List.mem_map.mp hc
  obtain ⟨hmem, htopic⟩ := List.mem_filter.mp hs
  have htopic : s.1 = Event.Created.topic := by simpa using htopic
  have hserves := h.topics s hmem
  rw [htopic] at hserves
  cases hconsumer : s.2 with
  | noticeCreated => rfl
  | paymentCompleted =>
    rw [hconsumer] at hserves
    exact absurd hserves (by decide)

/-- An announcement adds its cost to what waits. -/
theorem Announced.backlog {w w' : World} (h : w.Serves) {id? : Option NoticeId}
    (hw : w.Announced id? w') :
    w'.backlog = w.backlog + id?.toList.length * w.announcementCost := by
  cases id? with
  | none =>
    rw [Option.toList_none, List.length_nil, Nat.zero_mul, Nat.add_zero]
    unfold World.backlog attemptCost announcementCost
    rcases hw with hbus | hskip
    · rw [hbus]
    · rw [hskip]
      rfl
  | some id =>
    obtain ⟨e, ⟨htopic, -⟩, hbus⟩ := hw
    have hnew : Numeric.total (((w.bus.handlersOf Event.Created.topic).map
        fun c => (⟨e, c, 0⟩ : Bus.Delivery Consumer)).map fun d =>
          max 1 (w.bus.attemptLimit - d.attempts) * w.attemptCost d.handler) =
        w.announcementCost := by
      rw [List.map_map]
      refine Numeric.total_map_const fun c hc => ?_
      have hlimit := h.limit
      rw [h.handlersOf c hc]
      show max 1 (w.bus.attemptLimit - 0) * 1 = _
      omega
    have hbacklog : w'.backlog = Numeric.total ((w.bus.queue ++
        (w.bus.handlersOf e.topic).map fun c => (⟨e, c, 0⟩ : Bus.Delivery Consumer)).map fun d =>
          max 1 (w.bus.attemptLimit - d.attempts) * w.attemptCost d.handler) := by
      unfold World.backlog attemptCost announcementCost
      rw [hbus]
      rfl
    rw [hbacklog, htopic, List.map_append, Numeric.total_append, hnew]
    show w.backlog + w.announcementCost = _
    rw [Option.toList_some, List.length_singleton, Nat.one_mul]

theorem Announced.announcementCost {w w' : World} {id? : Option NoticeId}
    (hw : w.Announced id? w') : w'.announcementCost = w.announcementCost := by
  obtain ⟨hsubscriptions, hlimit⟩ := hw.subscriptions
  unfold World.announcementCost Bus.handlersOf
  rw [hsubscriptions, hlimit]

theorem Charges.weight_le {w w' : World} {credit : Nat} (hw : Charges credit w w')
    (h : w.Serves) : w'.weight ≤ w.weight + credit * w.announcementCost := by
  obtain ⟨id?, hannounced, hpaid⟩ := hw.paid
  have hload := Nat.mul_le_mul_right w.announcementCost hpaid
  rw [Nat.add_mul, Nat.add_mul] at hload
  unfold weight
  rw [hannounced.backlog h, hannounced.announcementCost]
  omega

theorem Serves.withQueue {w : World} (h : w.Serves) (queue : List (Bus.Delivery Consumer)) :
    (w.withQueue queue).Serves := ⟨h.limit, h.topics, h.keyed, h.sorted⟩

/-- What the first delivery of a queue weighs. -/
theorem weight_of_queue {w : World} {d : Bus.Delivery Consumer}
    {rest : List (Bus.Delivery Consumer)}
    (h : w.bus.queue = d :: rest) :
    w.weight = max 1 (w.bus.attemptLimit - d.attempts) * w.attemptCost d.handler +
      (w.withQueue rest).weight := by
  have hbacklog : w.backlog = max 1 (w.bus.attemptLimit - d.attempts) * w.attemptCost d.handler +
      (w.withQueue rest).backlog := by
    unfold backlog
    rw [h, List.map_cons, Numeric.total_cons]
    rfl
  unfold weight
  rw [hbacklog, Nat.add_assoc]
  rfl

/-- What a delivery weighs that is put back. -/
theorem weight_requeue (w : World) (d : Bus.Delivery Consumer) :
    (w.withQueue (w.bus.queue ++ [d])).weight =
      w.weight + max 1 (w.bus.attemptLimit - d.attempts) * w.attemptCost d.handler := by
  have hbacklog : (w.withQueue (w.bus.queue ++ [d])).backlog =
      w.backlog + max 1 (w.bus.attemptLimit - d.attempts) * w.attemptCost d.handler := by
    unfold backlog
    show Numeric.total ((w.bus.queue ++ [d]).map _) = _
    rw [List.map_append, Numeric.total_append]
    rfl
  unfold weight
  rw [hbacklog, Nat.add_right_comm]
  rfl

/-- Every delivery lowers the weight: what it leads to weighs less than the attempt that it is. -/
theorem weight_deliver_lt {w w' : World} {ending : Bus.Ending} (h : w.Serves)
    (hdeliver : Bus.deliver consume w = some (ending, w')) : w'.Serves ∧ w'.weight < w.weight := by
  obtain ⟨d, rest, hqueue, hsettles⟩ := deliver_eq_some hdeliver
  have hserves := h.withQueue rest
  have hcharges := charges_consume hserves d.handler (d.event.delivered (d.attempts + 1))
  have hle := hcharges.weight_le hserves
  obtain ⟨id?, hannounced, -⟩ := hcharges.paid
  have hcost := hannounced.announcementCost
  have hlimit := hannounced.subscriptions.2
  generalize consume d.handler (d.event.delivered (d.attempts + 1)) (w.withQueue rest) = answered
    at hsettles hcharges hle hcost hlimit
  obtain ⟨outcome, w₁⟩ := answered
  have hle : w₁.weight ≤ (w.withQueue rest).weight + credit d.handler * w.announcementCost := hle
  have hlimit : w₁.bus.attemptLimit = w.bus.attemptLimit := hlimit
  have hattempt : w₁.attemptCost d.handler = w.attemptCost d.handler := by
    rw [attemptCost_eq, attemptCost_eq, hcost]
    rfl
  have hself := attemptCost_eq w d.handler
  have hone : w.attemptCost d.handler ≤
      max 1 (w.bus.attemptLimit - d.attempts) * w.attemptCost d.handler :=
    Nat.le_mul_of_pos_left _ (Nat.le_max_left 1 _)
  rw [weight_of_queue hqueue]
  cases hsettles with
  | delivered =>
    refine ⟨hcharges.serves, ?_⟩
    show w₁.weight < _
    omega
  | retried f hless =>
    refine ⟨hcharges.serves.withQueue _, ?_⟩
    have hless : d.attempts + 1 < w.bus.attemptLimit := hlimit ▸ hless
    have hattempts : max 1 (w.bus.attemptLimit - d.attempts) =
        max 1 (w.bus.attemptLimit - (d.attempts + 1)) + 1 := by omega
    rw [weight_requeue, hlimit, hattempts, Nat.succ_mul]
    show w₁.weight + max 1 (w.bus.attemptLimit - (d.attempts + 1)) * w₁.attemptCost d.handler < _
    rw [hattempt]
    omega
  | givenUp f hless =>
    refine ⟨⟨hcharges.serves.limit, hcharges.serves.topics, hcharges.serves.keyed,
      hcharges.serves.sorted⟩, ?_⟩
    show w₁.weight < _
    omega

/-- There are no more deliveries than the weight, whatever fails. -/
theorem exists_drains {w : World} (h : w.Serves) :
    ∃ n ≤ w.weight, ∃ r done, Bus.Drains consume w n r done :=
  Bus.exists_drains weight
    (fun _ _ _ (hserves : Serves _) hdeliver => weight_deliver_lt hserves hdeliver) w h

/-- A dispatch makes as many deliveries as it takes. -/
theorem dispatchAll_eq {w done : World} {n : Nat} {r : Bus.Report} (hle : n ≤ w.weight)
    (h : Bus.Drains consume w n r done) : w.dispatchAll = (r, done) :=
  h.dispatch _ (by rw [deliveryBound_eq]; omega)

/-- Nothing waits behind a dispatch, whatever fails. -/
theorem queue_dispatchAll {w : World} (h : w.Serves) : w.dispatchAll.2.bus.queue = [] := by
  obtain ⟨n, hle, r, done, hdrains⟩ := exists_drains h
  rw [dispatchAll_eq hle hdrains]
  exact hdrains.queue_eq_nil

end World

end BookingNotices
