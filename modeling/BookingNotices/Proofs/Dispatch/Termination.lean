import BookingNotices.Proofs.Dispatch.Bound

/-!
# A dispatch without a limit ends

* `World.withDeliveries` : the world with these consumers, attempts and waiting deliveries;
* `dispatch_terminates`  : whatever waits and whatever fails, the deliveries come to an end with
  nothing waiting, after no more of them than the weight of the world.
-/

namespace BookingNotices

namespace World

/-- The world with these consumers, each subscribed to its own topic, so many attempts for a
delivery, and these deliveries waiting. -/
def withDeliveries (w : World) (limit : Nat) (consumers : List Consumer)
    (queue : List (Bus.Delivery Consumer)) : World :=
  { w with bus := { w.bus with
      attemptLimit := max limit 1
      subscriptions := consumers.map fun c => (topicOf c, c)
      queue := queue } }

theorem Serves.of_deliveries {w : World} (hkeyed : w.store.Keyed)
    (hsorted : w.store.rows.Sorted) (limit : Nat) (consumers : List Consumer)
    (queue : List (Bus.Delivery Consumer)) : (w.withDeliveries limit consumers queue).Serves := by
  refine ⟨Nat.le_max_right _ _, ?_, hkeyed, hsorted⟩
  intro s hs
  obtain ⟨c, -, rfl⟩ := List.mem_map.mp hs
  rfl

/-- Whatever waits, however often the consumers are subscribed, however many attempts a delivery
has, and whatever fails how often: the deliveries come to an end with nothing waiting. A dispatch
does as many as it takes. -/
theorem dispatch_terminates {w : World} (hkeyed : w.store.Keyed) (hsorted : w.store.rows.Sorted)
    (limit : Nat) (consumers : List Consumer) (queue : List (Bus.Delivery Consumer)) :
    let begun := w.withDeliveries limit consumers queue
    (¬ ∃ f : Nat → World, f 0 = begun ∧
      ∀ i, ∃ ending, Bus.deliver consume (f i) = some (ending, f (i + 1))) ∧
    ∃ n ≤ begun.weight, ∃ r done, Bus.Drains consume begun n r done ∧
      done.bus.queue = [] ∧ r.total = n ∧ begun.dispatchAll = (r, done) := by
  intro begun
  obtain ⟨n, hle, r, done, hdrains⟩ :=
    exists_drains (.of_deliveries hkeyed hsorted limit consumers queue)
  exact ⟨hdrains.not_endless, n, hle, r, done, hdrains, hdrains.queue_eq_nil, hdrains.total_eq,
    dispatchAll_eq hle hdrains⟩

/-- A world in which a row waits, every second event is refused, and no lookup, renderer, blob or
mail ever succeeds. -/
def endlessFaults : World where
  store := (({} : Store).insert (.pending ⟨7⟩ ⟨0, 0⟩)).2
  bus := { refusals := ⟨fun i => i % 2 = 0, 0⟩ }
  registry := ({} : Registry).setOutage true
  shelf := { faults := .constant true }
  outbox := { faults := .constant true }
  renderers := .constant fun _ => .error ⟨.internalError, "no renderer", []⟩
  clock := ⟨fun i => ⟨i, 0⟩, 0⟩
  ids := .constant ""

/-- An announcement, a payment, and an event that cannot be read. -/
def threeDeliveries : List (Bus.Delivery Consumer) :=
  [⟨(Event.Created.mk ⟨1⟩).envelope "" ⟨0, 0⟩, .noticeCreated, 0⟩,
    ⟨(Event.PaymentCompleted.mk ⟨8⟩ .success).envelope "" ⟨0, 0⟩, .paymentCompleted, 0⟩,
    ⟨⟨"", Event.Created.topic, "", ⟨0, 0⟩, .null, {}⟩, .noticeCreated, 1⟩]

/-- They wait for three consumers, two of which are the same. -/
theorem endless_faults_end :
    endlessFaults.store.Keyed ∧ endlessFaults.store.rows.Sorted ∧
    let begun := endlessFaults.withDeliveries 2 [.noticeCreated, .paymentCompleted, .noticeCreated]
      threeDeliveries
    ∃ n ≤ 25, ∃ r done, Bus.Drains consume begun n r done ∧ done.bus.queue = [] ∧
      r.total = n ∧ begun.dispatchAll = (r, done) := by
  have hkeyed : endlessFaults.store.Keyed := Store.Keyed.empty.insert _
  have hsorted : endlessFaults.store.rows.Sorted := Table.Sorted.nil.insert
  obtain ⟨-, n, hle, hdrains⟩ := dispatch_terminates hkeyed hsorted 2
    [.noticeCreated, .paymentCompleted, .noticeCreated] threeDeliveries
  exact ⟨hkeyed, hsorted, n, Nat.le_trans hle (by decide +kernel), hdrains⟩

end World

end BookingNotices
