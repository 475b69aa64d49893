import BookingNotices.Service.Consumer

/-!
# Delivering one after the other

* `Bus.dispatch_induction` : what every delivery keeps, a dispatch keeps;
* `Bus.Drains`            : deliveries one after the other until nothing waits, however many;
* `Drains.dispatch`       : a dispatch that may make as many does the same;
* `Bus.exists_drains`     : there are finitely many if every delivery makes something smaller;
* `World.Settles`         : what becomes of a delivery whose handler has answered;
* `World.deliver_eq_some` : a delivery is taken from the queue, handled by its consumer, and
  settled.
-/

namespace BookingNotices

namespace Bus

variable {σ η : Type} [HasBus σ η] {handle : Handle σ η}

theorem queue_of_deliver {s : σ} (h : deliver handle s = none) : (HasBus.bus s).queue = [] := by
  unfold deliver at h
  split at h
  · assumption
  · cases h

/-- What every delivery keeps, a dispatch keeps. -/
theorem dispatch_induction {P : σ → Prop} {Q : Report → Prop}
    (hstep : ∀ s ending s', P s → deliver handle s = some (ending, s') →
      P s' ∧ ∀ r, Q r → Q (r.add ending))
    (hnone : Q {}) (steps : Nat) (s : σ) (hs : P s) :
    Q (dispatch handle steps s).1 ∧ P (dispatch handle steps s).2 := by
  induction steps generalizing s with
  | zero => exact ⟨hnone, hs⟩
  | succ steps ih =>
    unfold dispatch
    split
    · exact ⟨hnone, hs⟩
    · rename_i ending s' hdeliver
      obtain ⟨hs', hadd⟩ := hstep s ending s' hs hdeliver
      obtain ⟨hreport, hrest⟩ := ih s' hs'
      exact ⟨hadd _ hreport, hrest⟩

/-! ## Without a limit -/

/-- The deliveries that a report speaks of. -/
def Report.total (r : Report) : Nat := r.delivered + r.retried + r.deadLettered

theorem Report.total_add (r : Report) (ending : Ending) : (r.add ending).total = r.total + 1 := by
  cases ending <;> unfold add total <;> dsimp only <;> omega

/-- Two reports together. -/
def Report.plus (a b : Report) : Report :=
  ⟨a.delivered + b.delivered, a.retried + b.retried, a.deadLettered + b.deadLettered⟩

theorem Report.plus_add (a b : Report) (e : Ending) : a.plus (b.add e) = (a.add e).plus b := by
  cases e <;> simp only [plus, add, Report.mk.injEq, true_and, and_true] <;> omega

/-- Deliveries one after the other until nothing waits. Nothing limits their number. -/
inductive Drains (handle : Handle σ η) : σ → Nat → Report → σ → Prop where
  | done {s : σ} (h : deliver handle s = none) : Drains handle s 0 {} s
  | more {s s' t : σ} {ending : Ending} {n : Nat} {r : Report}
      (h : deliver handle s = some (ending, s')) (rest : Drains handle s' n r t) :
      Drains handle s (n + 1) (r.add ending) t

namespace Drains

variable {s t : σ} {n : Nat} {r : Report}

theorem queue_eq_nil (h : Drains handle s n r t) : (HasBus.bus t).queue = [] := by
  induction h with
  | done h => exact queue_of_deliver h
  | more _ _ ih => exact ih

theorem total_eq (h : Drains handle s n r t) : r.total = n := by
  induction h with
  | done => rfl
  | more _ _ ih => rw [Report.total_add, ih]

/-- A dispatch that may make as many deliveries does the same. -/
theorem dispatch (h : Drains handle s n r t) :
    ∀ steps, n ≤ steps → dispatch handle steps s = (r, t) := by
  induction h with
  | done h =>
    rintro (_ | steps) -
    · rfl
    · unfold Bus.dispatch
      rw [h]
  | more h _ ih =>
    rintro (_ | steps) hle
    · omega
    · unfold Bus.dispatch
      rw [h]
      dsimp only
      rw [ih steps (by omega)]

/-- Where deliveries come to an end, there is no way to go on for ever. -/
theorem not_endless (h : Drains handle s n r t) :
    ¬ ∃ f : Nat → σ, f 0 = s ∧ ∀ i, ∃ ending, deliver handle (f i) = some (ending, f (i + 1)) := by
  induction h with
  | done h =>
    rintro ⟨f, rfl, hf⟩
    obtain ⟨ending, hfirst⟩ := hf 0
    rw [h] at hfirst
    cases hfirst
  | more h _ ih =>
    rintro ⟨f, rfl, hf⟩
    obtain ⟨ending, hfirst⟩ := hf 0
    rw [h] at hfirst
    exact ih ⟨fun i => f (i + 1), (Prod.mk.inj (Option.some.inj hfirst)).2.symm,
      fun i => hf (i + 1)⟩

end Drains

/-- There are finitely many deliveries if every one of them makes something smaller. -/
theorem exists_drains {P : σ → Prop} (size : σ → Nat)
    (hstep : ∀ s ending s', P s → deliver handle s = some (ending, s') →
      P s' ∧ size s' < size s) (s : σ) (hs : P s) :
    ∃ n ≤ size s, ∃ r t, Drains handle s n r t := by
  induction hsize : size s using Nat.strongRecOn generalizing s with
  | _ _ ih =>
    cases hdeliver : deliver handle s with
    | none => exact ⟨0, Nat.zero_le _, _, _, .done hdeliver⟩
    | some next =>
      obtain ⟨ending, s'⟩ := next
      obtain ⟨hs', hless⟩ := hstep s ending s' hs hdeliver
      obtain ⟨n, hle, r, t, hrest⟩ := ih _ (hsize ▸ hless) s' hs' rfl
      exact ⟨n + 1, by omega, _, _, .more hdeliver hrest⟩

/-- The delivery with one more attempt. -/
def Delivery.next (d : Delivery η) : Delivery η := { d with attempts := d.attempts + 1 }

end Bus

namespace World

/-- The world with something else waiting on its bus. -/
def withQueue (w : World) (queue : List (Bus.Delivery Consumer)) : World :=
  { w with bus := { w.bus with queue := queue } }

/-- What becomes of a delivery whose handler has answered. -/
inductive Settles (d : Bus.Delivery Consumer) (w : World) :
    Except Failure Unit → Bus.Ending → World → Prop where
  | delivered : Settles d w (.ok ()) .delivered w
  | retried (f : Failure) (h : d.attempts < w.bus.attemptLimit) :
      Settles d w (.error f) .retried (w.withQueue (w.bus.queue ++ [d]))
  | givenUp (f : Failure) (h : ¬ d.attempts < w.bus.attemptLimit) :
      Settles d w (.error f) .deadLettered
        { w with bus := { w.bus with
          deadLetters := w.bus.deadLetters ++ [⟨d.event, d.handler, f.describe⟩] } }

theorem settles (d : Bus.Delivery Consumer) (outcome : Except Failure Unit) (w : World) :
    Settles d w outcome (Bus.settle d outcome w.bus).1
      { w with bus := (Bus.settle d outcome w.bus).2 } := by
  cases outcome with
  | ok => exact .delivered
  | error f =>
    unfold Bus.settle
    dsimp only
    split
    · rename_i hlimit
      exact .retried f hlimit
    · rename_i hlimit
      exact .givenUp f hlimit

/-- A delivery is taken from the queue, handled by its consumer, and settled. -/
theorem deliver_eq_some {w w' : World} {ending : Bus.Ending}
    (h : Bus.deliver consume w = some (ending, w')) :
    ∃ d rest, w.bus.queue = d :: rest ∧
      Settles d.next (consume d.handler (d.event.delivered (d.attempts + 1)) (w.withQueue rest)).2
        (consume d.handler (d.event.delivered (d.attempts + 1)) (w.withQueue rest)).1 ending
        w' := by
  cases hqueue : w.bus.queue with
  | nil =>
    unfold Bus.deliver at h
    rw [show (HasBus.bus w).queue = [] from hqueue] at h
    cases h
  | cons d rest =>
    refine ⟨d, rest, rfl, ?_⟩
    have hdeliver : Bus.deliver consume w =
        let answered := consume d.handler (d.event.delivered (d.attempts + 1)) (w.withQueue rest)
        let settled := Bus.settle d.next answered.1 answered.2.bus
        some (settled.1, { answered.2 with bus := settled.2 }) := by
      unfold Bus.deliver
      rw [show (HasBus.bus w).queue = d :: rest from hqueue]
      rfl
    rw [hdeliver] at h
    obtain ⟨rfl, rfl⟩ := Prod.mk.inj (Option.some.inj h)
    exact settles _ _ _

end World

end BookingNotices
