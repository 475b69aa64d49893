import BookingNotices.Bus.Script
import BookingNotices.Proofs.Dispatch.Journal
import BookingNotices.Proofs.Run
import Mathlib.Data.List.Perm.Basic

/-!
# No delivery is lost or made twice

* `Tries`            : the calls for one delivery, in order;
* `Journal.Balanced` : every delivery waits, or was acknowledged, or has left a dead letter, and the
  queue holds those that wait (`Balanced.enters`, `Balanced.delivers`, `Balanced.run_induction`);
* `Journal.Served`   : a handler that never fails has had what was queued for it, in order;
* `Journal.deliveries_balance` : all of it, after any number of deliveries
  (`failing_handler_is_retried`).

A delivery that failed goes behind those that its own handler has made meanwhile, so the queue is
not in the order of the places. For a handler that never fails it is.
-/

namespace BookingNotices

namespace Bus

variable {σ η : Type}

/-! ## The calls for one delivery -/

/-- The calls for one delivery: each is made because all before it are to be repeated, and is given
the event with its own number. -/
inductive Tries (limit : Nat) (d : Event × η) : List (Call η) → Prop where
  | nil : Tries limit d []
  | concat {calls : List (Call η)} {c : Call η} (h : Tries limit d calls)
      (hagain : ∀ c ∈ calls, c.ending = .retried) (hhandler : c.handler = d.2)
      (hevent : c.event = d.1.delivered (calls.length + 1))
      (hending : c.ending = .ofAttempt limit (calls.length + 1) c.outcome) :
      Tries limit d (calls ++ [c])

namespace Ending

variable {limit n : Nat} {outcome : Except Failure Unit}

theorem ofAttempt_eq_delivered : ofAttempt limit n outcome = .delivered ↔ outcome = .ok () := by
  unfold ofAttempt
  cases outcome with
  | ok => simp
  | error f => by_cases h : n < limit <;> simp [h]

theorem ofAttempt_eq_retried :
    ofAttempt limit n outcome = .retried ↔ outcome ≠ .ok () ∧ n < limit := by
  unfold ofAttempt
  cases outcome with
  | ok => simp
  | error f => by_cases h : n < limit <;> simp [h]

theorem ofAttempt_eq_deadLettered :
    ofAttempt limit n outcome = .deadLettered ↔ outcome ≠ .ok () ∧ limit ≤ n := by
  unfold ofAttempt
  cases outcome with
  | ok => simp
  | error f => by_cases h : n < limit <;> simp [h, Nat.not_le.mpr, Nat.le_of_not_lt]

end Ending

namespace Tries

variable {limit : Nat} {d : Event × η} {calls : List (Call η)}

/-- The attempts are numbered from one. -/
theorem handed (h : Tries limit d calls) :
    calls.map (fun c => (c.handler, c.event)) =
      (List.range' 1 calls.length).map fun n => (d.2, d.1.delivered n) := by
  induction h with
  | nil => rfl
  | @concat calls c _ _ hhandler hevent _ ih =>
    rw [List.map_append, ih, List.length_append, List.length_singleton, List.range'_concat,
      List.map_append, List.map_singleton, List.map_singleton, hhandler, hevent, Nat.one_mul,
      Nat.add_comm 1]

theorem length_lt (hlimit : 0 < limit) (h : Tries limit d calls)
    (hagain : ∀ c ∈ calls, c.ending = .retried) : calls.length < limit := by
  cases h with
  | nil => exact hlimit
  | @concat calls c _ _ _ _ hending =>
    have hretried := hagain c (List.mem_append_right _ (List.mem_singleton_self c))
    rw [hending, Ending.ofAttempt_eq_retried] at hretried
    rw [List.length_append, List.length_singleton]
    exact hretried.2

/-- There are no more attempts than the limit says. -/
theorem length_le (hlimit : 0 < limit) (h : Tries limit d calls) : calls.length ≤ limit := by
  cases h with
  | nil => exact Nat.zero_le _
  | concat h hagain =>
    rw [List.length_append, List.length_singleton]
    exact h.length_lt hlimit hagain

theorem ofAttempt_of_mem (h : Tries limit d calls) {c : Call η} (hc : c ∈ calls) :
    ∃ n, c.ending = .ofAttempt limit n c.outcome := by
  induction h with
  | nil => cases hc
  | concat _ _ _ _ hending ih =>
    rcases List.mem_append.mp hc with hc | hc
    · exact ih hc
    · cases List.mem_singleton.mp hc
      exact ⟨_, hending⟩

/-- Nothing is repeated after a success. -/
theorem failed_of_mem_dropLast (h : Tries limit d calls) {c : Call η} (hc : c ∈ calls.dropLast) :
    c.outcome ≠ .ok () := by
  cases h with
  | nil => cases hc
  | concat h hagain =>
    rw [List.dropLast_concat] at hc
    obtain ⟨n, hending⟩ := h.ofAttempt_of_mem hc
    rw [hagain c hc] at hending
    exact (Ending.ofAttempt_eq_retried.mp hending.symm).1

/-- A delivery is given up when it has had all its attempts and all of them failed. -/
theorem deadLettered_iff (hlimit : 0 < limit) (h : Tries limit d calls) :
    (∃ c ∈ calls, c.ending = .deadLettered) ↔
      calls.length = limit ∧ ∀ c ∈ calls, c.outcome ≠ .ok () := by
  cases h with
  | nil =>
    constructor
    · rintro ⟨c, hc, -⟩
      cases hc
    · rintro ⟨hzero, -⟩
      exact absurd hzero (Nat.ne_of_lt hlimit)
  | @concat calls c h hagain hhandler hevent hending =>
    have hless := h.length_lt hlimit hagain
    have hlength : (calls ++ [c]).length = calls.length + 1 := List.length_append
    have hlast : c ∈ calls ++ [c] := List.mem_append_right _ (List.mem_singleton_self c)
    have hfailed : ∀ c ∈ calls, c.outcome ≠ .ok () := fun c hc =>
      (Tries.concat h hagain hhandler hevent hending).failed_of_mem_dropLast
        (List.dropLast_concat.symm ▸ hc)
    constructor
    · rintro ⟨c', hc', hdead⟩
      rcases List.mem_append.mp hc' with hc' | hc'
      · rw [hagain c' hc'] at hdead
        cases hdead
      · cases List.mem_singleton.mp hc'
        rw [hending, Ending.ofAttempt_eq_deadLettered] at hdead
        refine ⟨by omega, fun c'' hc'' => ?_⟩
        rcases List.mem_append.mp hc'' with hc'' | hc''
        · exact hfailed c'' hc''
        · cases List.mem_singleton.mp hc''
          exact hdead.1
    · rintro ⟨hall, hnone⟩
      refine ⟨c, hlast, ?_⟩
      rw [hending, Ending.ofAttempt_eq_deadLettered]
      exact ⟨hnone c hlast, by omega⟩

/-- The event says at which attempt it is. -/
theorem counted (hlimit : 0 < limit) (hword : limit < UInt32.size) (h : Tries limit d calls) :
    calls.map (fun c => c.event.metadata.deliveries.map UInt32.toNat) =
      (List.range' 1 calls.length).map some := by
  have hcounts := congrArg (List.map fun call : η × Event =>
    call.2.metadata.deliveries.map UInt32.toNat) h.handed
  rw [List.map_map, List.map_map] at hcounts
  refine hcounts.trans (List.map_congr_left fun n hn => ?_)
  have hle := h.length_le hlimit
  have hn := (List.mem_range'_1.mp hn).2
  exact congrArg some (UInt32.toNat_ofNat_of_lt' (by omega))

end Tries

/-! ## The balance -/

namespace Journal

variable {j j' : Journal σ η} {limit : Nat}

theorem callsOf_eq_nil {place : Nat} (h : ∀ c ∈ j.calls, c.place ≠ place) :
    j.callsOf place = [] :=
  List.filter_eq_nil_iff.mpr fun c hc => by simpa using h c hc

theorem delivery?_congr {place : Nat} (hqueued : j'.queued[place]? = j.queued[place]?)
    (hcalls : j'.callsOf place = j.callsOf place) : j'.delivery? place = j.delivery? place := by
  unfold delivery?
  rw [hqueued, hcalls]

theorem delivery?_eq_some {place : Nat} {d : Delivery η} (h : j.delivery? place = some d) :
    j.queued[place]? = some (d.event, d.handler) ∧ (j.callsOf place).length = d.attempts := by
  obtain ⟨⟨e, h⟩, hqueued, rfl⟩ := Option.map_eq_some_iff.mp h
  exact ⟨hqueued, rfl⟩

section Grown

variable {new : List (Event × η)} (hqueued : j'.queued = j.queued ++ new)
include hqueued

theorem getElem?_of_lt {place : Nat} (h : place < j.queued.length) :
    j'.queued[place]? = j.queued[place]? := by
  rw [hqueued, List.getElem?_append_left h]

/-- Deliveries that are entered wait for their first attempts. -/
theorem map_delivery?_new (hnone : ∀ place, j.queued.length ≤ place → j'.callsOf place = []) :
    (List.range' j.queued.length new.length).map j'.delivery? =
      (new.map Delivery.first).map some := by
  refine List.ext_getElem (by simp) fun i hi _ => ?_
  have hi : i < new.length := by simpa using hi
  have hplace : (j.queued ++ new)[j.queued.length + i]? = some new[i] := by
    rw [List.getElem?_append_right (Nat.le_add_right _ _), Nat.add_sub_cancel_left,
      List.getElem?_eq_getElem hi]
  simp only [List.getElem_map, List.getElem_range', Nat.one_mul, delivery?]
  rw [hqueued, hplace, hnone _ (Nat.le_add_right _ _)]
  rfl

theorem map_letter?_of_known {calls : List (Call η)} (h : ∀ c ∈ calls, c.place < j.queued.length) :
    calls.map j'.letter? = calls.map j.letter? := by
  refine List.map_congr_left fun c hc => ?_
  unfold letter?
  rw [getElem?_of_lt hqueued (h c hc)]

theorem range_append_range' :
    List.range j.queued.length ++ List.range' j.queued.length new.length =
      List.range j'.queued.length := by
  rw [hqueued, List.length_append, List.range_eq_range', List.range_eq_range',
    ← List.range'_append_1, Nat.zero_add]

end Grown

variable [HasBus σ η]

/-- Every delivery that was ever queued was acknowledged, or was given up, or waits. -/
structure Balanced (limit : Nat) (j : Journal σ η) : Prop where
  limit_eq : j.bus.attemptLimit = limit
  published : j.bus.published = j.accepted.map (·.1)
  queue : j.bus.queue.map some = j.waiting.map j.delivery?
  known : ∀ c ∈ j.calls, c.place < j.queued.length
  places : ((j.endedAs .delivered ++ j.endedAs .deadLettered).map (·.place) ++ j.waiting).Perm
    (List.range j.queued.length)
  tries : ∀ place d, j.queued[place]? = some d → Tries limit d (j.callsOf place)
  again : ∀ place ∈ j.waiting, ∀ c ∈ j.callsOf place, c.ending = .retried
  letters : j.bus.deadLetters.map some = (j.endedAs .deadLettered).map j.letter?
  report : j.report = ⟨(j.endedAs .delivered).length, (j.endedAs .retried).length,
    (j.endedAs .deadLettered).length⟩

theorem Balanced.lt_of_waiting (hj : Balanced limit j) {place : Nat} (h : place ∈ j.waiting) :
    place < j.queued.length :=
  List.mem_range.mp (hj.places.mem_iff.mp (List.mem_append_right _ h))

theorem Balanced.known_of_endedAs (hj : Balanced limit j) (ending : Ending) :
    ∀ c ∈ j.endedAs ending, c.place < j.queued.length :=
  fun c hc => hj.known c (List.mem_filter.mp hc).1

/-- Something waits at the place that comes first. -/
theorem Balanced.first (hj : Balanced limit j) {d : Delivery η} {rest : List (Delivery η)}
    (hqueue : j.bus.queue = d :: rest) :
    ∃ place places, j.waiting = place :: places ∧ j.delivery? place = some d ∧
      rest.map some = places.map j.delivery? := by
  have h := hj.queue
  rw [hqueue, List.map_cons] at h
  obtain ⟨place, places, hwaiting, hfirst, hrest⟩ := List.map_eq_cons_iff.mp h.symm
  exact ⟨place, places, hwaiting, hfirst, hrest.symm⟩

/-- Nothing was called for a delivery that is only queued now. -/
theorem Balanced.callsOf_new (hj : Balanced limit j) {place : Nat}
    (h : j.queued.length ≤ place) : j.callsOf place = [] :=
  callsOf_eq_nil fun c hc => Nat.ne_of_lt (Nat.lt_of_lt_of_le (hj.known c hc) h)

/-- What is waiting or settled of older deliveries does not depend on what is queued now. -/
theorem Balanced.tries_of_grown (hj : Balanced limit j) {new : List (Event × η)}
    (hqueued : j'.queued = j.queued ++ new) {place : Nat} {d : Event × η}
    (hd : j'.queued[place]? = some d) (hcalls : j'.callsOf place = j.callsOf place) :
    Tries limit d (j'.callsOf place) := by
  rw [hcalls]
  by_cases hplace : place < j.queued.length
  · exact hj.tries place d ((getElem?_of_lt hqueued hplace).symm.trans hd)
  · rw [hj.callsOf_new (Nat.le_of_not_lt hplace)]
    exact .nil

/-- Deliveries are queued, and nothing else changes. -/
structure Enters (j j' : Journal σ η) (new : List (Event × η)) : Prop where
  accepted_eq : ∃ accepted, new = madeBy accepted ∧ j'.accepted = j.accepted ++ accepted ∧
    j'.bus.published = j.bus.published ++ accepted.map (·.1)
  waiting_eq : j'.waiting = j.waiting ++ List.range' j.queued.length new.length
  calls_eq : j'.calls = j.calls
  report_eq : j'.report = j.report
  limit_eq : j'.bus.attemptLimit = j.bus.attemptLimit
  queue_eq : j'.bus.queue = j.bus.queue ++ new.map Delivery.first
  letters_eq : j'.bus.deadLetters = j.bus.deadLetters

theorem Enters.queued_eq {new : List (Event × η)} (h : j.Enters j' new) :
    j'.queued = j.queued ++ new := by
  obtain ⟨accepted, rfl, haccepted, -⟩ := h.accepted_eq
  unfold queued
  rw [haccepted, madeBy_append]

theorem Balanced.enters {new : List (Event × η)} (hj : Balanced limit j) (h : j.Enters j' new) :
    Balanced limit j' := by
  have hcallsOf (place : Nat) : j'.callsOf place = j.callsOf place := by
    unfold callsOf
    rw [h.calls_eq]
  have hendedAs (ending : Ending) : j'.endedAs ending = j.endedAs ending := by
    unfold endedAs
    rw [h.calls_eq]
  have hlength : j'.queued.length = j.queued.length + new.length := by
    rw [h.queued_eq, List.length_append]
  constructor
  case limit_eq => exact h.limit_eq.trans hj.limit_eq
  case published =>
    obtain ⟨accepted, -, haccepted, hpublished⟩ := h.accepted_eq
    rw [haccepted, hpublished, List.map_append, hj.published]
  case queue =>
    have hnew := map_delivery?_new h.queued_eq fun place hplace =>
      (hcallsOf place).trans (hj.callsOf_new hplace)
    rw [h.queue_eq, h.waiting_eq, List.map_append, List.map_append, hj.queue, hnew]
    refine congrArg (· ++ _) (List.map_congr_left fun place hplace => ?_)
    exact (delivery?_congr (getElem?_of_lt h.queued_eq (hj.lt_of_waiting hplace))
      (hcallsOf place)).symm
  case known =>
    rw [h.calls_eq]
    intro c hc
    have := hj.known c hc
    omega
  case places =>
    rw [hendedAs, hendedAs, h.waiting_eq, ← List.append_assoc, ← range_append_range' h.queued_eq]
    exact hj.places.append_right _
  case tries => exact fun place d hd => hj.tries_of_grown h.queued_eq hd (hcallsOf place)
  case again =>
    intro place hplace c hc
    rw [hcallsOf] at hc
    rw [h.waiting_eq] at hplace
    rcases List.mem_append.mp hplace with hplace | hplace
    · exact hj.again place hplace c hc
    · rw [hj.callsOf_new (List.mem_range'_1.mp hplace).1] at hc
      cases hc
  case letters =>
    rw [h.letters_eq, hendedAs, map_letter?_of_known h.queued_eq (hj.known_of_endedAs _)]
    exact hj.letters
  case report =>
    rw [h.report_eq, hendedAs, hendedAs, hendedAs]
    exact hj.report

/-! ### One delivery -/

section Made

variable {d : Delivery η} {rest : List (Delivery η)} {place : Nat} {places : List Nat}
  {new : List (Event × η)} {c : Call η}

theorem Delivers.queued_eq (h : j.Delivers j' d rest place places new c) :
    j'.queued = j.queued ++ new := by
  obtain ⟨accepted, rfl, haccepted, -⟩ := h.accepted_eq
  unfold queued
  rw [haccepted, madeBy_append]

theorem Delivers.place_eq (h : j.Delivers j' d rest place places new c) : c.place = place :=
  congrArg Call.place h.call

theorem Delivers.callsOf_self (h : j.Delivers j' d rest place places new c) :
    j'.callsOf place = j.callsOf place ++ [c] := by
  unfold callsOf
  rw [h.calls_eq, List.filter_append, List.filter_singleton, h.place_eq]
  simp

theorem Delivers.callsOf_of_ne (h : j.Delivers j' d rest place places new c) {other : Nat}
    (hne : other ≠ place) : j'.callsOf other = j.callsOf other := by
  unfold callsOf
  rw [h.calls_eq, List.filter_append, List.filter_singleton, h.place_eq]
  simp [hne.symm]

theorem Delivers.endedAs_eq (h : j.Delivers j' d rest place places new c) (ending : Ending) :
    j'.endedAs ending = j.endedAs ending ++ if c.ending = ending then [c] else [] := by
  unfold endedAs
  rw [h.calls_eq, List.filter_append, List.filter_singleton]
  simp

theorem Delivers.mem_waiting (h : j.Delivers j' d rest place places new c) : place ∈ j.waiting :=
  h.waiting ▸ List.mem_cons_self

theorem Delivers.mem_waiting_of_mem (h : j.Delivers j' d rest place places new c) {other : Nat}
    (hother : other ∈ places) : other ∈ j.waiting :=
  h.waiting ▸ List.mem_cons_of_mem _ hother

variable (hj : Balanced limit j) (h : j.Delivers j' d rest place places new c)

include hj h

theorem Balanced.ne_of_mem {other : Nat} (hother : other ∈ places) : other ≠ place := by
  have hnodup := hj.places.nodup_iff.mpr List.nodup_range
  rw [h.waiting] at hnodup
  rintro rfl
  exact (List.nodup_cons.mp (List.nodup_append.mp hnodup).2.1).1 hother

theorem Balanced.callsOf_of_ge {other : Nat} (hother : j.queued.length ≤ other) :
    j'.callsOf other = [] := by
  have hlt := hj.lt_of_waiting h.mem_waiting
  rw [h.callsOf_of_ne (by omega)]
  exact hj.callsOf_new hother

/-- What was called for is settled, or waits behind what is new. -/
theorem Balanced.places_delivers :
    ((j'.endedAs .delivered ++ j'.endedAs .deadLettered).map (·.place) ++ j'.waiting).Perm
      (List.range j'.queued.length) := by
  have hsettled := hj.places.append_right (List.range' j.queued.length new.length)
  rw [range_append_range' h.queued_eq, h.waiting] at hsettled
  refine List.Perm.trans ?_ hsettled
  rw [h.endedAs_eq, h.endedAs_eq, h.waiting_eq]
  refine List.perm_iff_count.mpr fun a => ?_
  cases c.ending <;> simp [h.place_eq, List.count_cons] <;> omega

/-- Whatever waits has only failed so far, and less often than is too often. -/
theorem Balanced.again_delivers :
    ∀ other ∈ j'.waiting, ∀ c ∈ j'.callsOf other, c.ending = .retried := by
  intro other hother c' hc'
  rw [h.waiting_eq] at hother
  rcases List.mem_append.mp hother with hother | hother
  · rcases List.mem_append.mp hother with hother | hother
    · rw [h.callsOf_of_ne (hj.ne_of_mem h hother)] at hc'
      exact hj.again other (h.mem_waiting_of_mem hother) c' hc'
    · rw [hj.callsOf_of_ge h (List.mem_range'_1.mp hother).1] at hc'
      cases hc'
  · split at hother
    · rename_i hretried
      rw [List.mem_singleton.mp hother, h.callsOf_self] at hc'
      rcases List.mem_append.mp hc' with hc' | hc'
      · exact hj.again place h.mem_waiting c' hc'
      · rw [List.mem_singleton.mp hc']
        exact hretried
    · cases hother

variable (hfirst : j.delivery? place = some d)

include hfirst

theorem Balanced.getElem?_delivers : j'.queued[place]? = some (d.event, d.handler) := by
  rw [getElem?_of_lt h.queued_eq (hj.lt_of_waiting h.mem_waiting)]
  exact (delivery?_eq_some hfirst).1

theorem Balanced.tries_delivers {other : Nat} {d' : Event × η}
    (hd' : j'.queued[other]? = some d') : Tries limit d' (j'.callsOf other) := by
  by_cases hother : other = place
  · subst hother
    obtain ⟨hqueued, hattempts⟩ := delivery?_eq_some hfirst
    cases (hj.getElem?_delivers h hfirst).symm.trans hd'
    rw [h.callsOf_self]
    refine .concat (hj.tries other _ hqueued) (hj.again other h.mem_waiting) ?_ ?_ ?_
    · exact congrArg Call.handler h.call
    · rw [hattempts]
      exact congrArg Call.event h.call
    · rw [hattempts]
      exact hj.limit_eq ▸ congrArg Call.ending h.call
  · exact hj.tries_of_grown h.queued_eq hd' (h.callsOf_of_ne hother)

theorem Balanced.queue_delivers (hrest : rest.map some = places.map j.delivery?) :
    j'.bus.queue.map some = j'.waiting.map j'.delivery? := by
  rw [h.queue_eq, h.waiting_eq, List.map_append, List.map_append, List.map_append, List.map_append,
    hrest, map_delivery?_new h.queued_eq fun _ => hj.callsOf_of_ge h]
  refine congrArg₂ (· ++ ·) (congrArg (· ++ _) (List.map_congr_left fun other hother => ?_)) ?_
  · have hlt := hj.lt_of_waiting (h.mem_waiting_of_mem hother)
    exact (delivery?_congr (getElem?_of_lt h.queued_eq hlt)
      (h.callsOf_of_ne (hj.ne_of_mem h hother))).symm
  · split
    · rw [List.map_singleton, List.map_singleton, delivery?, hj.getElem?_delivers h hfirst,
        h.callsOf_self, List.length_append, (delivery?_eq_some hfirst).2]
      rfl
    · rfl

/-- A delivery that is given up leaves a letter. -/
theorem Balanced.letters_delivers :
    j'.bus.deadLetters.map some = (j'.endedAs .deadLettered).map j'.letter? := by
  have hending : c.ending = .ofAttempt limit (d.attempts + 1) c.outcome :=
    hj.limit_eq ▸ congrArg Call.ending h.call
  rw [h.letters_eq, h.endedAs_eq, List.map_append, List.map_append, hj.letters,
    map_letter?_of_known h.queued_eq (hj.known_of_endedAs _)]
  refine congrArg (_ ++ ·) ?_
  cases houtcome : c.outcome with
  | ok =>
    rw [houtcome, Ending.ofAttempt_eq_delivered.mpr rfl] at hending
    rw [hending]
    rfl
  | error f =>
    by_cases hdead : c.ending = .deadLettered
    · rw [hdead, if_pos rfl, List.map_singleton, List.map_singleton, letter?, houtcome]
      dsimp only
      rw [h.place_eq, hj.getElem?_delivers h hfirst]
      rfl
    · rw [if_neg hdead]
      cases hcase : c.ending with
      | deadLettered => exact absurd hcase hdead
      | _ => rfl

/-- A delivery keeps the balance: what was called for goes to the acknowledged ones, to the dead
letters, or back to those that wait. -/
theorem Balanced.delivers (hrest : rest.map some = places.map j.delivery?) :
    Balanced limit j' := by
  constructor
  case limit_eq => exact h.limit_eq.trans hj.limit_eq
  case published =>
    obtain ⟨accepted, -, haccepted, hpublished⟩ := h.accepted_eq
    rw [haccepted, hpublished, List.map_append, hj.published]
  case queue => exact hj.queue_delivers h hfirst hrest
  case known =>
    have hlt := hj.lt_of_waiting h.mem_waiting
    have hplace := h.place_eq
    rw [h.calls_eq, h.queued_eq, List.length_append]
    intro c' hc'
    rcases List.mem_append.mp hc' with hc' | hc'
    · have hknown := hj.known c' hc'
      omega
    · rw [List.mem_singleton.mp hc']
      omega
  case places => exact hj.places_delivers h
  case tries => exact fun other d' hd' => hj.tries_delivers h hfirst hd'
  case again => exact hj.again_delivers h
  case letters => exact hj.letters_delivers h hfirst
  case report =>
    rw [h.report_eq, hj.report, h.endedAs_eq, h.endedAs_eq, h.endedAs_eq]
    cases c.ending <;> simp [Report.add]

end Made

theorem length_eq_endedAs (calls : List (Call η)) :
    calls.length = (calls.filter fun c => c.ending = .delivered).length +
      (calls.filter fun c => c.ending = .retried).length +
      (calls.filter fun c => c.ending = .deadLettered).length := by
  induction calls with
  | nil => rfl
  | cons c calls ih =>
    simp only [List.filter_cons, List.length_cons]
    cases c.ending <;> simp <;> omega

/-- Every delivery was acknowledged, or has left a dead letter, or waits. -/
theorem Balanced.length_queued (hj : Balanced limit j) :
    j.queued.length = j.report.delivered + j.bus.deadLetters.length + j.bus.queue.length := by
  have hcount := hj.places.length_eq
  have hwaiting := congrArg List.length hj.queue
  have hletters := congrArg List.length hj.letters
  simp only [List.length_append, List.length_map, List.length_range] at hcount hwaiting hletters
  rw [hj.report]
  dsimp only
  omega

/-- The report counts the calls. -/
theorem Balanced.length_calls (hj : Balanced limit j) :
    j.calls.length = j.report.delivered + j.report.retried + j.report.deadLettered := by
  rw [hj.report]
  exact length_eq_endedAs j.calls

/-! ## Handlers that never fail -/

/-- A handler has had what was queued for it, in order; what waits for it was not tried yet. -/
structure Served [DecidableEq η] (h : η) (j : Journal σ η) : Prop where
  untried : ∀ d ∈ j.bus.queue, d.handler = h → d.attempts = 0
  order : (j.calls.filter fun c => c.handler = h).map (·.event) ++
      (j.bus.queue.filter fun d => d.handler = h).map (fun d => d.event.delivered 1) =
    (j.queued.filter fun d => d.2 = h).map fun d => d.1.delivered 1

section Served

variable [DecidableEq η] {h : η} {new : List (Event × η)}

theorem filter_first (h : η) (new : List (Event × η)) :
    ((new.map Delivery.first).filter fun d => d.handler = h).map (fun d => d.event.delivered 1) =
      (new.filter fun d => d.2 = h).map fun d => d.1.delivered 1 := by
  rw [List.filter_map, List.map_map]
  rfl

theorem Served.enters (hj : Served h j) (henters : j.Enters j' new) : Served h j' where
  untried := by
    rw [henters.queue_eq]
    intro d hd hhandler
    rcases List.mem_append.mp hd with hd | hd
    · exact hj.untried d hd hhandler
    · obtain ⟨first, -, rfl⟩ := List.mem_map.mp hd
      rfl
  order := by
    rw [henters.queue_eq, henters.calls_eq, henters.queued_eq, List.filter_append, List.map_append,
      List.filter_append, List.map_append, filter_first, ← List.append_assoc, hj.order]

theorem Served.delivers (hj : Served h j) {d : Delivery η} {rest : List (Delivery η)} {place : Nat}
    {places : List Nat} {c : Call η} (hdelivers : j.Delivers j' d rest place places new c)
    (hok : c.handler = h → c.outcome = .ok ()) : Served h j' := by
  have hhandler : c.handler = d.handler := congrArg Call.handler hdelivers.call
  have hretried : c.ending = .retried → d.handler ≠ h := by
    intro hretried hd
    have hending := congrArg Call.ending hdelivers.call
    rw [hok (hhandler.trans hd), hretried] at hending
    cases hending
  have huntried := hj.untried
  have horder := hj.order
  rw [hdelivers.queue] at huntried horder
  -- what waits for the handler is what waited, without what was delivered, and what is new
  have hqueue : (j'.bus.queue.filter fun d => d.handler = h) =
      (rest.filter fun d => d.handler = h) ++
        (new.map Delivery.first).filter fun d => d.handler = h := by
    rw [hdelivers.queue_eq, List.filter_append, List.filter_append]
    split
    · rename_i hcase
      rw [List.filter_singleton]
      simp [Delivery.next, hretried hcase]
    · rw [List.filter_nil, List.append_nil]
  constructor
  · intro d' hd' hd'h
    have hmem : d' ∈ j'.bus.queue.filter fun d => d.handler = h :=
      List.mem_filter.mpr ⟨hd', decide_eq_true hd'h⟩
    rw [hqueue] at hmem
    rcases List.mem_append.mp hmem with hmem | hmem
    · exact huntried d' (List.mem_cons_of_mem _ (List.mem_filter.mp hmem).1) hd'h
    · obtain ⟨first, -, rfl⟩ := List.mem_map.mp (List.mem_filter.mp hmem).1
      rfl
  · rw [hqueue, hdelivers.calls_eq, hdelivers.queued_eq, List.filter_append, List.map_append,
      List.map_append, List.filter_append, List.map_append, filter_first, ← horder,
      List.filter_singleton, hhandler]
    by_cases hd : d.handler = h
    · have hevent : c.event = d.event.delivered 1 := by
        rw [congrArg Call.event hdelivers.call, huntried d List.mem_cons_self hd]
      simp [hd, hevent]
    · simp [hd]

end Served

/-! ## Runs -/

/-- Nothing was seen yet. -/
def begin (s : σ) : Journal σ η := { state := s }

theorem Balanced.begin {s : σ} (hs : HasBus.bus s = (Bus.withAttemptLimit limit : Bus η)) :
    Balanced (max limit 1) (Journal.begin s : Journal σ η) where
  limit_eq := congrArg attemptLimit hs
  published := congrArg (fun b => b.published) hs
  queue := congrArg (fun b => b.queue.map some) hs
  known := fun _ hc => nomatch hc
  places := .nil
  tries := fun _ _ hd => nomatch hd
  again := fun _ hplace => nomatch hplace
  letters := congrArg (fun b => b.deadLetters.map some) hs
  report := rfl

theorem Served.begin [DecidableEq η] {s : σ} (h : η)
    (hs : HasBus.bus s = (Bus.withAttemptLimit limit : Bus η)) :
    Served h (Journal.begin s : Journal σ η) := by
  have hqueue : (Journal.begin s : Journal σ η).bus.queue = [] := congrArg Bus.queue hs
  constructor
  · rw [hqueue]
    exact fun _ hd => nomatch hd
  · rw [hqueue]
    rfl

variable [LawfulBus σ] {handle : Handle σ η}

/-- Either nothing waits, or a delivery is made as the bus makes it. -/
theorem Balanced.deliver_cases (hhandle : handle.OnlyPublishes) (hj : Balanced limit j) :
    (Bus.deliver handle j.state = none ∧ j.deliver handle = j) ∨
    ∃ d rest place places new c,
      Bus.deliver handle j.state = some (c.ending, (j.deliver handle).state) ∧
      j.Delivers (j.deliver handle) d rest place places new c ∧
      Balanced limit (j.deliver handle) := by
  cases hqueue : j.bus.queue with
  | nil =>
    refine Or.inl ⟨?_, deliver_of_nil hqueue⟩
    unfold Bus.deliver
    rw [show (HasBus.bus j.state).queue = [] from hqueue]
  | cons d rest =>
    obtain ⟨place, places, hwaiting, hfirst, hrest⟩ := hj.first hqueue
    obtain ⟨new, c, hdeliver, hdelivers⟩ := Journal.delivers hhandle hqueue hwaiting
    exact Or.inr ⟨d, rest, place, places, new, c, hdeliver, hdelivers,
      hj.delivers hdelivers hfirst hrest⟩

/-- Deliveries in a journal are those of a dispatch. -/
theorem Balanced.dispatch_eq (hhandle : handle.OnlyPublishes) (hj : Balanced limit j)
    (deliveries : Nat) :
    ((deliver handle)^[deliveries] j).state = (Bus.dispatch handle deliveries j.state).2 ∧
      ((deliver handle)^[deliveries] j).report =
        j.report.plus (Bus.dispatch handle deliveries j.state).1 := by
  induction deliveries generalizing j with
  | zero => exact ⟨rfl, rfl⟩
  | succ n ih =>
    rw [Function.iterate_succ_apply]
    unfold Bus.dispatch
    rcases hj.deliver_cases hhandle with ⟨hnone, hsame⟩ |
      ⟨d, rest, place, places, new, c, hsome, hdelivers, hj'⟩
    · rw [hnone, hsame, Function.iterate_fixed hsame]
      exact ⟨rfl, rfl⟩
    · obtain ⟨hstate, hreport⟩ := ih hj'
      rw [hsome, hstate, hreport, hdelivers.report_eq]
      exact ⟨rfl, (Report.plus_add _ _ _).symm⟩

/-- Whatever somebody does but dispatch, at most new deliveries are queued. -/
theorem exists_enters (handle : Handle σ η) (j : Journal σ η) {move : Move η}
    (h : ∀ n, move ≠ .dispatch n) :
    ∃ new, j.Enters (j.step handle move) new := by
  have hbus (f : Bus η → Bus η) : HasBus.bus (Bus.modify f j.state) = f j.bus :=
    LawfulBus.bus_setBus _ _
  have unchanged (f : Bus η → Bus η) (hlimit : (f j.bus).attemptLimit = j.bus.attemptLimit)
      (hpublished : (f j.bus).published = j.bus.published)
      (hqueue : (f j.bus).queue = j.bus.queue)
      (hletters : (f j.bus).deadLetters = j.bus.deadLetters) :
      j.Enters { j with state := Bus.modify f j.state } [] := by
    refine ⟨⟨[], rfl, (List.append_nil _).symm, ?_⟩, (List.append_nil _).symm, rfl, rfl, ?_, ?_, ?_⟩
    · exact ((congrArg published (hbus f)).trans hpublished).trans (List.append_nil _).symm
    · exact (congrArg attemptLimit (hbus f)).trans hlimit
    · exact ((congrArg Bus.queue (hbus f)).trans hqueue).trans (List.append_nil _).symm
    · exact (congrArg deadLetters (hbus f)).trans hletters
  cases move with
  | subscribe topic handler => exact ⟨[], unchanged _ rfl rfl rfl rfl⟩
  | refuseNext count => exact ⟨[], unchanged _ rfl rfl rfl rfl⟩
  | dispatch n => exact absurd rfl (h n)
  | publish e =>
    obtain ⟨events, refusals, hpublish⟩ := (Publishes.publish (.refl j.bus) e).eq_accepting
    have hstate : HasBus.bus (Bus.modify (fun b => (b.publish e).2) j.state) =
        { j.bus.accepting events with refusals := refusals } := (hbus _).trans hpublish
    have hpublished : (HasBus.bus (Bus.modify (fun b => (b.publish e).2) j.state)).published =
        j.bus.published ++ events := congrArg (fun b => b.published) hstate
    have hmade := j.bus.madeBy_map events
    unfold Journal.step
    dsimp only
    rw [newSince_of_published hpublished]
    refine ⟨madeBy (events.map fun e => (e, j.bus.handlersOf e.topic)), ⟨_, rfl, rfl, ?_⟩, rfl, rfl,
      rfl, ?_, ?_, ?_⟩
    · rw [List.map_map, Function.comp_def, List.map_id']
      exact hpublished
    · exact congrArg (fun b => b.attemptLimit) hstate
    · rw [hmade]
      exact congrArg (fun b => b.queue) hstate
    · exact congrArg (fun b => b.deadLetters) hstate

/-- What is kept when deliveries are queued, and when one is made, is kept by all that happens. -/
theorem Balanced.run_induction {P : Journal σ η → Prop} (hhandle : handle.OnlyPublishes)
    (henters : ∀ {j j' : Journal σ η} {new}, P j → j.Enters j' new → P j')
    (hdelivers : ∀ {j j' : Journal σ η} {d rest place places new c}, P j →
      j.Delivers j' d rest place places new c → P j')
    (moves : List (Move η)) (hj : Balanced limit j) (hP : P j) :
    Balanced limit (j.run handle moves) ∧ P (j.run handle moves) := by
  have deliver (n : Nat) : ∀ {j : Journal σ η}, Balanced limit j → P j →
      Balanced limit ((Journal.deliver handle)^[n] j) ∧ P ((Journal.deliver handle)^[n] j) := by
    induction n with
    | zero => exact fun hj hP => ⟨hj, hP⟩
    | succ n ih =>
      intro j hj hP
      rw [Function.iterate_succ_apply]
      rcases hj.deliver_cases hhandle with ⟨-, hsame⟩ | ⟨_, _, _, _, _, _, -, hmade, hj'⟩
      · rw [hsame]
        exact ih hj hP
      · exact ih hj' (hdelivers hP hmade)
  induction moves generalizing j with
  | nil => exact ⟨hj, hP⟩
  | cons move moves ih =>
    by_cases hmove : ∃ n, move = .dispatch n
    · obtain ⟨n, rfl⟩ := hmove
      obtain ⟨hj', hP'⟩ := deliver n hj hP
      exact ih hj' hP'
    · obtain ⟨new, hnew⟩ := exists_enters handle j fun n h => hmove ⟨n, h⟩
      exact ih (hj.enters hnew) (henters hP hnew)

/-- A handler that has failed at no call up to now has failed at none before. -/
theorem Served.of_run [DecidableEq η] (hhandle : handle.OnlyPublishes) (moves : List (Move η))
    (hj : Balanced limit j) {h : η} (hs : Served h j)
    (hok : ∀ c ∈ (j.run handle moves).calls, c.handler = h → c.outcome = .ok ()) :
    Served h (j.run handle moves) := by
  obtain ⟨-, hserved⟩ := Balanced.run_induction hhandle
    (P := fun j => (∀ c ∈ j.calls, c.handler = h → c.outcome = .ok ()) → Served h j)
    (fun hP henters hok => (hP (henters.calls_eq ▸ hok)).enters henters)
    (fun hP hdelivers hok => by
      rw [hdelivers.calls_eq] at hok
      exact (hP fun c hc => hok c (List.mem_append_left _ hc)).delivers hdelivers
        (hok _ (List.mem_append_right _ (List.mem_singleton_self _))))
    moves hj fun _ => hs
  exact hserved hok

/-! ## All of it -/

/-- No delivery is lost or made twice. After any number of deliveries, in any run of subscriptions,
publications and dispatches, whatever the handlers do but publish:

* every delivery that was ever queued was acknowledged, or has left a dead letter, or waits;
* the reports of the dispatches count the calls;
* the attempts of one delivery are numbered from one and end with the first success;
* it is given up exactly if it has had all its attempts and all of them failed;
* a publication that is refused changes neither what was published nor what waits;
* a handler that has never failed has had the events that were queued for it, in order, up to those
  that still wait for it. -/
theorem deliveries_balance [DecidableEq η] (hhandle : handle.OnlyPublishes) (limit : UInt32) (s : σ)
    (hs : HasBus.bus s = (Bus.withAttemptLimit limit.toNat : Bus η)) (moves : List (Move η)) :
    let j := (Journal.begin s : Journal σ η).run handle moves
    j.bus.published = j.accepted.map (·.1) ∧
    (j.queued.length = j.report.delivered + j.bus.deadLetters.length + j.bus.queue.length ∧
      ((j.endedAs .delivered ++ j.endedAs .deadLettered).map (·.place) ++ j.waiting).Perm
        (List.range j.queued.length) ∧
      j.bus.queue.map some = j.waiting.map j.delivery? ∧
      j.bus.deadLetters.map some = (j.endedAs .deadLettered).map j.letter?) ∧
    (j.calls.length = j.report.delivered + j.report.retried + j.report.deadLettered ∧
      ∀ n, (j.step handle (.dispatch n)).state = (Bus.dispatch handle n j.state).2 ∧
        (j.step handle (.dispatch n)).report =
          j.report.plus (Bus.dispatch handle n j.state).1) ∧
    (∀ place d, j.queued[place]? = some d →
      ((j.callsOf place).map (fun c => (c.handler, c.event)) =
          (List.range' 1 (j.callsOf place).length).map (fun n => (d.2, d.1.delivered n)) ∧
        (j.callsOf place).map (fun c => c.event.metadata.deliveries.map UInt32.toNat) =
          (List.range' 1 (j.callsOf place).length).map some ∧
        ∀ c ∈ (j.callsOf place).dropLast, c.outcome ≠ .ok ()) ∧
      ((∃ c ∈ j.callsOf place, c.ending = .deadLettered) ↔
        (j.callsOf place).length = max limit.toNat 1 ∧
          ∀ c ∈ j.callsOf place, c.outcome ≠ .ok ())) ∧
    (∀ (b : Bus η) e f, (b.publish e).1 = .error f →
      (b.publish e).2.published = b.published ∧ (b.publish e).2.queue = b.queue) ∧
    ∀ h, (∀ c ∈ j.calls, c.handler = h → c.outcome = .ok ()) →
      (j.calls.filter fun c => c.handler = h).map (·.event) ++
          (j.bus.queue.filter fun d => d.handler = h).map (fun d => d.event.delivered 1) =
        (j.queued.filter fun d => d.2 = h).map fun d => d.1.delivered 1 := by
  intro j
  have hlimit : 0 < max limit.toNat 1 := by omega
  obtain ⟨hj, -⟩ : Balanced (max limit.toNat 1) j ∧ True :=
    Balanced.run_induction hhandle (fun _ _ => trivial) (fun _ _ => trivial) moves (.begin hs)
      trivial
  have hword : max limit.toNat 1 < UInt32.size := by
    have hlt := limit.toNat_lt_size
    have hone : 1 < UInt32.size := by decide
    omega
  refine ⟨hj.published, ⟨hj.length_queued, hj.places, hj.queue, hj.letters⟩,
    ⟨hj.length_calls, hj.dispatch_eq hhandle⟩, fun place d hd => ?_,
    fun b e f => publish_eq_error, fun h hok => ?_⟩
  · have htries := hj.tries place d hd
    exact ⟨⟨htries.handed, htries.counted hlimit hword, fun c => htries.failed_of_mem_dropLast⟩,
      htries.deadLettered_iff hlimit⟩
  · exact (Served.of_run hhandle moves (Balanced.begin hs) (.begin h hs) hok).order

end Journal

end Bus

/-! ## Scripted handlers -/

namespace Rehearsal

instance : Bus.LawfulBus Rehearsal := ⟨fun _ _ => rfl⟩

theorem publishes_publishAll (events : List Event) (r : Rehearsal) :
    r.bus.Publishes (Cast.publishAll publish events r).2.bus := by
  induction events generalizing r with
  | nil => exact .refl _
  | cons e events ih =>
    have hfirst : r.bus.Publishes (publish e r).2.bus := .publish (.refl _) e
    unfold Cast.publishAll
    split
    · rename_i r' hpublish
      rw [hpublish] at hfirst
      exact hfirst.trans (ih r')
    · rename_i f r' hpublish
      rw [hpublish] at hfirst
      exact hfirst

/-- Scripted handlers do nothing with their bus but publish. -/
theorem handle_onlyPublishes : Bus.Handle.OnlyPublishes handle := by
  intro handler e r
  unfold handle
  dsimp only
  split
  · exact .refl _
  · exact publishes_publishAll _ ⟨r.bus, (r.cast.call handler e).2⟩

/-- A bus with three handlers: one fails once and then publishes another event, one always fails,
one never does. -/
def troubled : Rehearsal where
  bus := Bus.withAttemptLimit 2
  cast := { scripts := [
    ⟨"once", 1, .recordsUnavailable, [⟨"second", "t", "", ⟨0, 0⟩, .null, {}⟩], 0⟩,
    ⟨"always", 9, .recordsUnavailable, [], 0⟩,
    ⟨"never", 0, .recordsUnavailable, [], 0⟩] }

/-- Two events for three handlers, of which the first event is tried again for one handler, and both
are given up for another. -/
theorem failing_handler_is_retried :
    let j := (Bus.Journal.begin troubled).run handle [.subscribe "t" 0, .subscribe "t" 1,
      .subscribe "t" 2, .publish ⟨"first", "t", "", ⟨0, 0⟩, .null, {}⟩, .dispatch 20]
    Bus.Handle.OnlyPublishes handle ∧
    HasBus.bus troubled = Bus.withAttemptLimit (2 : UInt32).toNat ∧
    j.report = ⟨4, 3, 2⟩ ∧ j.bus.queue.length = 0 ∧
    j.queued.length = j.report.delivered + j.bus.deadLetters.length + j.bus.queue.length := by
  refine ⟨handle_onlyPublishes, rfl, by decide, by decide, ?_⟩
  exact (Bus.Journal.deliveries_balance handle_onlyPublishes 2 troubled rfl _).2.1.1

end Rehearsal

end BookingNotices
