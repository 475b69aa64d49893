import BookingNotices.Proofs.Shelf
import BookingNotices.Service.Create
import BookingNotices.Service.Worker

/-!
# What holds across the steps of the service

* `World.Frame`     : a relation between a world and what a transaction makes of it, in whatever way
  it ends; an announcement needs `World.Publishes` as well;
* `World.Habit`     : the same for all that a worker does;
* `Transaction.Respects` : how a transaction respects such a relation (`Respects.claim`,
  `Respects.renew`, `Respects.create`);
* `Worker.habit_step`, `World.habit_create` : so do the steps of workers, and creations.

Clocks that go on, records that stay and blobs that are not lost are all such relations: each of
them is shown for the few primitive changes of a world, and holds of every step from there.
-/

namespace BookingNotices

namespace World

variable {R : World → World → Prop}

/-- A relation that the primitive changes in a transaction respect, publishing left aside. -/
structure Frame (R : World → World → Prop) : Prop where
  refl : ∀ w, R w w
  trans : ∀ {a b c}, R a b → R b c → R a c
  storeFails : ∀ w c, R w (w.storeFails c).2
  now : ∀ w, R w w.now.2
  freshId : ∀ w, R w w.freshId.2

/-- A relation that the primitive changes in the work of the service respect, the bus left aside. -/
structure Habit (R : World → World → Prop) : Prop extends Frame R where
  store : ∀ w s, R w { w with store := s }
  lookUp : ∀ w r, w.registry.Served r → R w { w with registry := r }
  render : ∀ w p, R w (w.render p).2
  put : ∀ w name bytes, R w { w with shelf := (w.shelf.put name bytes).2 }
  read : ∀ w name, R w { w with shelf := (w.shelf.read name).2 }
  send : ∀ w m, R w { w with outbox := (w.outbox.send m).2 }

/-- A relation that publishing respects. -/
def Publishes (R : World → World → Prop) : Prop := ∀ w e, R w (w.publish e).2

/-- A relation that does not look at what waits to be delivered, or was given up. -/
def Queues (R : World → World → Prop) : Prop :=
  ∀ w queue letters, R w { w with bus := { w.bus with queue := queue, deadLetters := letters } }

theorem Frame.of_storeFails (h : Frame R) {w w' : World} {c : StoreCall} {b : Bool}
    (hw : w.storeFails c = (b, w')) : R w w' := by
  have := h.storeFails w c
  rwa [hw] at this

end World

/-! ## Transactions -/

namespace Transaction

variable {α β : Type} {R : World → World → Prop}

theorem bind_apply (x : Transaction α) (f : α → Transaction β) (s : Store) (w : World) :
    (x >>= f) s w =
      match x s w with
      | (.ok (a, s'), w') => f a s' w'
      | (.error e, w') => (.error e, w') := by
  simp only [bind, StateT.bind, ExceptT.bind, ExceptT.mk]
  rcases x s w with ⟨_ | ⟨a, s'⟩, w'⟩ <;> rfl

theorem get_bind (f : Store → Transaction β) (s : Store) (w : World) :
    (MonadState.get >>= f) s w = f s s w := rfl

theorem now_bind (f : Timestamp → Transaction β) (s : Store) (w : World) :
    (now >>= f) s w = f w.now.1 s w.now.2 := rfl

/-- The relation holds of the world around, however the transaction ends. -/
def Respects (R : World → World → Prop) (t : Transaction α) : Prop :=
  ∀ (s : Store) (w : World), R w (t s w).2

theorem Respects.pure (h : World.Frame R) (a : α) : Respects R (Pure.pure a : Transaction α) :=
  fun _ w => h.refl w

theorem Respects.throw (h : World.Frame R) (e : Notice.Error) :
    Respects R (MonadExcept.throw e : Transaction α) := fun _ w => h.refl w

theorem Respects.get (h : World.Frame R) : Respects R (MonadState.get : Transaction Store) :=
  fun _ w => h.refl w

theorem Respects.set (h : World.Frame R) (s : Store) :
    Respects R (MonadStateOf.set s : Transaction PUnit) := fun _ w => h.refl w

theorem Respects.bind (h : World.Frame R) {x : Transaction α} {f : α → Transaction β}
    (hx : Respects R x) (hf : ∀ a, Respects R (f a)) : Respects R (x >>= f) := by
  intro s w
  rw [bind_apply]
  have hw := hx s w
  split
  · rename_i a s' w' hwork
    rw [hwork] at hw
    exact h.trans hw (hf a s' w')
  · rename_i e w' hwork
    rw [hwork] at hw
    exact hw

theorem Respects.call (h : World.Frame R) (c : StoreCall) : Respects R (call c) := by
  intro s w
  unfold Transaction.call
  split <;> rename_i hfails <;> exact h.of_storeFails hfails

theorem Respects.now (h : World.Frame R) : Respects R now := fun _ w => h.now w

theorem Respects.freshId (h : World.Frame R) : Respects R freshId := fun _ w => h.freshId w

theorem Respects.publish (hpublish : World.Publishes R) (e : Event) : Respects R (publish e) := by
  intro s w
  have hw := hpublish w e
  unfold Transaction.publish
  split <;> rename_i hevent <;> rw [hevent] at hw <;> exact hw

theorem Respects.announce (h : World.Frame R) (hpublish : World.Publishes R) (id : NoticeId)
    (cause : Option String) : Respects R (announce id cause) := by
  unfold Transaction.announce
  exact .bind h (.freshId h) fun _ => .bind h (.now h) fun _ => .publish hpublish _

theorem Respects.lock (h : World.Frame R) (id : NoticeId) : Respects R (lock id) := by
  unfold Transaction.lock
  refine .bind h (.call h _) fun _ => .bind h (.get h) fun s => ?_
  split
  · exact .pure h _
  · exact .throw h _

theorem Respects.overwrite (h : World.Frame R) (n : Notice) : Respects R (overwrite n) := by
  unfold Transaction.overwrite
  refine .bind h (.call h _) fun _ => .bind h (.get h) fun s => ?_
  split
  · exact .bind h (.set h _) fun _ => .pure h _
  · exact .throw h _

theorem Respects.count (h : World.Frame R) (booking : BookingId) : Respects R (count booking) := by
  unfold Transaction.count
  exact .bind h (.call h _) fun _ => .bind h (.get h) fun _ => .pure h _

theorem Respects.insert (h : World.Frame R) (n : Notice) : Respects R (insert n) := by
  unfold Transaction.insert
  exact .bind h (.call h _) fun _ => .bind h (.get h) fun _ =>
    .bind h (.set h _) fun _ => .pure h _

theorem Respects.claim (h : World.Frame R) (hpublish : World.Publishes R) (id : NoticeId) :
    Respects R (claim id) := by
  unfold Transaction.claim
  refine .bind h (.lock h id) fun n => ?_
  split
  · exact .pure h _
  · refine .bind h (.now h) fun t => ?_
    split
    · exact .throw h _
    · exact .bind h (.overwrite h _) fun _ => .bind h (.announce h hpublish id none) fun _ =>
        .pure h _

/-- A renewal publishes nothing. -/
theorem Respects.renew (h : World.Frame R) (id : NoticeId) (threshold : Nat) :
    Respects R (renew id threshold) := by
  unfold Transaction.renew
  refine .bind h (.lock h id) fun n => .bind h (.now h) fun t => ?_
  split
  · exact .pure h _
  · refine .bind h (.now h) fun t => ?_
    split
    · exact .throw h _
    · exact .bind h (.overwrite h _) fun _ => .pure h _

theorem Respects.create (h : World.Frame R) (hpublish : World.Publishes R) (booking : BookingId)
    (cause : Option String) : Respects R (create booking cause) := by
  unfold Transaction.create
  refine .bind h (.count h booking) fun c => ?_
  have hrest : Respects R (do
      let n ← Transaction.insert (Notice.pending booking (← Transaction.now))
      Transaction.announce n.id cause
      return n : Transaction Notice) :=
    .bind h (.now h) fun _ => .bind h (.insert h _) fun _ => .bind h (.announce h hpublish _ _)
      fun _ => .pure h _
  split
  · exact .bind h (.throw h _) fun _ => hrest
  · exact hrest

/-- A relation that does not look at the store is respected by a whole transaction. -/
theorem Respects.run (h : World.Frame R) (hstore : ∀ w s, R w { w with store := s })
    {t : Transaction α} (ht : Respects R t) (keep : α → Bool) (w : World) :
    R w (t.run keep w).2 := by
  unfold Transaction.run
  split
  · rename_i w₁ hbegin
    exact h.of_storeFails hbegin
  · rename_i w₁ hbegin
    have hw := h.trans (h.of_storeFails hbegin) (ht w₁.store w₁)
    split
    · rename_i e w₂ hwork
      rw [hwork] at hw
      exact h.trans hw (h.storeFails w₂ .rollback)
    · rename_i a staged w₂ hwork
      rw [hwork] at hw
      dsimp only
      split
      · rename_i w₃ hend
        exact h.trans hw (h.of_storeFails hend)
      · rename_i w₃ hend
        have hw := h.trans hw (h.of_storeFails hend)
        dsimp only
        split
        · exact h.trans hw (hstore w₃ staged)
        · exact hw

end Transaction

/-! ## Creations and workers -/

section Habit

variable {R : World → World → Prop} (h : World.Habit R)

include h

theorem World.habit_create (hpublish : World.Publishes R) (w : World) (booking : BookingId)
    (cause : Option String) : R w (w.create booking cause).2 :=
  Transaction.Respects.run h.toFrame h.store
    (Transaction.Respects.create h.toFrame hpublish booking cause) _ w

namespace Worker

theorem habit_storeInvoice (w : World) (booking : Booking) (invoice : Invoice.Params) :
    R w (storeInvoice booking invoice w).2 := by
  have hw := h.render w invoice
  unfold storeInvoice
  split
  · rename_i f w' hrender
    rw [hrender] at hw
    exact hw
  · rename_i bytes w' hrender
    rw [hrender] at hw
    have hput := h.put w' (Notice.documentName booking.id) bytes
    dsimp only
    split
    · rename_i e shelf hshelf
      rw [hshelf] at hput
      exact h.trans hw hput
    · rename_i shelf hshelf
      rw [hshelf] at hput
      exact h.trans hw hput

/-- Every step of a worker respects the relation; only a claim publishes. -/
theorem habit_step (k : Worker) (w : World)
    (hpublish : ∀ id, k = .claiming id → World.Publishes R) : R w (k.step w).2 := by
  cases k with
  | claiming id =>
    exact Transaction.Respects.run h.toFrame h.store
      (Transaction.Respects.claim h.toFrame (hpublish id rfl) id) _ w
  | renewing id threshold =>
    exact Transaction.Respects.run h.toFrame h.store
      (Transaction.Respects.renew h.toFrame id threshold) _ w
  | findingBooking n =>
    have hw := h.lookUp w _ (w.registry.served_booking n.booking)
    dsimp only [step]
    split <;> rename_i hfound <;> rw [hfound] at hw <;> exact hw
  | findingUser n booking =>
    have hw := h.lookUp w _ (w.registry.served_user booking.user)
    dsimp only [step]
    split
    · rename_i hfound
      rw [hfound] at hw
      exact hw
    · rename_i hfound
      rw [hfound] at hw
      unfold afterUser
      split
      · exact hw
      all_goals exact h.trans hw (h.now _)
  | findingShowtime n booking user =>
    have hw := h.lookUp w _ (w.registry.served_showtime booking.showtime)
    dsimp only [step]
    split <;> rename_i hfound <;> rw [hfound] at hw <;> exact hw
  | findingSeat n booking user showtime =>
    have hw := h.lookUp w _ (w.registry.served_seat booking.seat)
    dsimp only [step]
    split <;> rename_i hfound <;> rw [hfound] at hw <;> exact hw
  | storing n booking user invoice =>
    have hw := habit_storeInvoice h w booking invoice
    dsimp only [step]
    split
    · rename_i hstored
      rw [hstored] at hw
      exact hw
    · rename_i hstored
      rw [hstored] at hw
      exact h.trans hw (h.now _)
  | resolving since n booking user =>
    dsimp only [step]
    split
    · rename_i hfails
      exact h.of_storeFails hfails
    · rename_i w' hfails
      have hw := h.of_storeFails hfails
      split
      · exact hw
      · exact hw
      · exact h.trans hw (h.store _ _)
  | composing n user email =>
    have hw : R w { w with shelf := (n.compose user email w.shelf).2 } := by
      rcases n.compose_snd user email w.shelf with hshelf | hshelf <;> rw [hshelf]
      · exact h.refl w
      · exact h.read w n.document
    dsimp only [step]
    split <;> rename_i hcompose <;> rw [hcompose] at hw <;> exact hw
  | sending n mail =>
    have hw := h.send w mail
    dsimp only [step]
    split <;> rename_i hsend <;> rw [hsend] at hw <;> exact hw
  | ended => exact h.refl w

end Worker

end Habit

end BookingNotices
