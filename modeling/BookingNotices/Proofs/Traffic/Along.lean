import BookingNotices.Proofs.Traffic.Step

/-!
# What holds along traffic

* `Call.habit_step`, `Traffic.habit_step` : a relation that all the work of the service respects
  holds across every move, as long as the surroundings do not change;
* `Traffic.Changes`        : how the world changes in a move (`changes_step`);
* `Traffic.workerOf?_step` : where a worker comes from that is there after a move;
* `Traffic.Along`          : a condition on the moves of a run, each where it happens
  (`Along.append`, `Along.mono`, `Along.run`).
-/

namespace BookingNotices

/-! ## Habits of calls -/

section Habit

variable {R : World → World → Prop} (h : World.Habit R) (hpublish : World.Publishes R)
  (hqueue : World.Queues R)

include h hpublish

theorem Sweep.habit_step (s : Sweep) (w : World) : R w (s.step w).2 := by
  rcases s with ⟨began, threshold, report, phase⟩
  cases phase with
  | listing pass =>
    have hw : R w (list pass w).2 := by
      unfold list
      split <;> rename_i hfails <;> exact h.of_storeFails hfails
    dsimp only [step]
    split <;> rename_i hlist <;> rw [hlist] at hw <;> exact hw
  | choosing pass rows =>
    cases rows with
    | nil => exact h.refl w
    | cons n rows =>
      dsimp only [step]
      split <;> exact h.refl w
  | working pass k rows =>
    dsimp only [step]
    split
    · exact h.refl w
    · exact Worker.habit_step h k w fun _ _ => hpublish
  | ended => exact h.refl w

include hqueue

theorem Dispatch.habit_step (d : Dispatch) (w : World) : R w (d.step w).2 := by
  rcases d with ⟨report, phase⟩
  cases phase with
  | taking =>
    dsimp only [step]
    split
    · exact h.refl w
    · exact hqueue w _ w.bus.deadLetters
  | handing e =>
    rcases e with ⟨event, handler, attempts⟩
    cases handler with
    | noticeCreated =>
      dsimp only [step]
      split <;> exact h.refl w
    | paymentCompleted =>
      dsimp only [step]
      split
      · exact h.refl w
      · exact World.habit_create h hpublish w _ _
  | working e k =>
    dsimp only [step]
    split
    · exact h.refl w
    · exact Worker.habit_step h k w fun _ _ => hpublish
  | settling e outcome =>
    dsimp only [step]
    unfold Bus.settle
    split
    · exact h.refl w
    · split
      · exact hqueue w _ w.bus.deadLetters
      · exact hqueue w w.bus.queue _
  | ended => exact h.refl w

theorem Call.habit_step (c : Call) (w : World) : R w (c.step w).2 := by
  cases c with
  | creation booking cause => exact World.habit_create h hpublish w booking cause
  | created => exact h.refl w
  | worker k => exact Worker.habit_step h k w fun _ _ => hpublish
  | sweep s => exact Sweep.habit_step h hpublish s w
  | dispatch d => exact Dispatch.habit_step h hpublish hqueue d w

/-- What all the work of the service respects, every move respects that leaves the surroundings as
they are. -/
theorem Traffic.habit_step (t : Traffic) {m : Move} (hm : ∀ s, m ≠ .change s) :
    R t.world (t.step m).world := by
  cases m with
  | start r =>
    cases r with
    | sweep threshold => exact h.now t.world
    | _ => exact h.refl t.world
  | publish e => exact hpublish t.world e
  | change s => exact absurd rfl (hm s)
  | advance i =>
    unfold step
    dsimp only
    split
    · exact h.refl t.world
    · exact Call.habit_step h hpublish hqueue _ t.world

end Habit

namespace Traffic

/-! ## Single moves -/

/-- How the world changes in a move. -/
inductive Changes (t : Traffic) (m : Move) : World → Prop where
  | aside {w'} (hstore : w'.store = t.world.store)
      (hpublished : (∀ e, m ≠ .publish e) → w'.bus.published = t.world.bus.published) :
      Changes t m w'
  | created {booking cause} : Changes t m (t.world.create booking cause).2
  | worked {i k} (hm : m = .advance i) (hk : t.workerOf? i = some k) (hgoing : k.result? = none) :
      Changes t m (k.step t.world).2

theorem changes_step (t : Traffic) (m : Move) : t.Changes m (t.step m).world := by
  cases m with
  | start r => cases r <;> exact .aside rfl fun _ => rfl
  | publish e => exact .aside rfl fun h => absurd rfl (h e)
  | change s => exact .aside rfl fun _ => rfl
  | advance i =>
    unfold step
    dsimp only
    cases hi : t.calls[i]? with
    | none => exact .aside rfl fun _ => rfl
    | some c =>
      have hacts := c.acts_step t.world
      dsimp only
      generalize (c.step t.world).1 = c', (c.step t.world).2 = w', c.deeds t.world = ds at hacts ⊢
      cases hacts with
      | created => exact .created
      | worked hk hgoing => exact .worked rfl ((workerOf?_of_call hi).trans hk) hgoing
      | aside _ _ hw hpublished => exact .aside hw.store fun _ => hpublished

/-! ## Workers -/

/-- A worker that is there after a move is idle, or was there before it, or has taken a step. -/
theorem workerOf?_step {t : Traffic} {m : Move} {i : Nat} {k' : Worker}
    (hk' : (t.step m).workerOf? i = some k') :
    k'.Idle ∨ t.workerOf? i = some k' ∨ ∃ k, m = .advance i ∧ t.workerOf? i = some k ∧
      k' = (k.step t.world).1 ∧ (t.step m).world = (k.step t.world).2 := by
  have rested {t' : Traffic} (hrest : t.Rests t') (hk' : t'.workerOf? i = some k') :
      k'.Idle ∨ t.workerOf? i = some k' ∨ ∃ k, m = .advance i ∧ t.workerOf? i = some k ∧
        k' = (k.step t.world).1 ∧ t'.world = (k.step t.world).2 :=
    (hrest.worker i k' hk').imp_right Or.inl
  cases m with
  | start r => exact rested (.of_start (idle_start r t.world) (aside_start r t.world)) hk'
  | publish e => exact rested (.of_aside rfl rfl) hk'
  | change s => exact rested (.of_aside rfl rfl) hk'
  | advance j =>
    unfold step at hk' ⊢
    dsimp only at hk' ⊢
    cases hj : t.calls[j]? with
    | none =>
      rw [hj] at hk'
      exact Or.inr (Or.inl hk')
    | some c =>
      rw [hj] at hk'
      dsimp only at hk' ⊢
      have hacts := c.acts_step t.world
      rw [workerOf?_set hj] at hk'
      split at hk'
      · rename_i hij
        subst hij
        generalize (c.step t.world).1 = c', (c.step t.world).2 = w', c.deeds t.world = ds
          at hacts hk' ⊢
        cases hacts with
        | created hc hidle hidle' => exact Or.inl (hidle' k' hk')
        | aside hidle hidle' hw => exact Or.inl (hidle' k' hk')
        | @worked k c' hk hgoing hnext =>
          rw [hnext] at hk'
          cases hk'
          exact Or.inr (Or.inr ⟨k, rfl, (workerOf?_of_call hj).trans hk, rfl, rfl⟩)
      · exact Or.inr (Or.inl hk')

/-! ## Runs -/

theorem run_append (t : Traffic) (before after : List Move) :
    t.run (before ++ after) = (t.run before).run after := List.foldl_append

theorem run_concat (t : Traffic) (moves : List Move) (m : Move) :
    t.run (moves ++ [m]) = (t.run moves).step m := run_append t moves [m]

/-- A condition on moves, each where it happens. -/
def Along (Q : Traffic → Move → Prop) (t : Traffic) : List Move → Prop
  | [] => True
  | m :: moves => Q t m ∧ Along Q (t.step m) moves

theorem Along.append {Q : Traffic → Move → Prop} {t : Traffic} {before after : List Move} :
    Along Q t (before ++ after) ↔ Along Q t before ∧ Along Q (t.run before) after := by
  induction before generalizing t with
  | nil => exact (and_iff_right trivial).symm
  | cons m before ih =>
    show Q t m ∧ Along Q (t.step m) (before ++ after) ↔ _
    rw [ih]
    exact and_assoc.symm

theorem Along.concat {Q : Traffic → Move → Prop} {t : Traffic} {moves : List Move} {m : Move} :
    Along Q t (moves ++ [m]) ↔ Along Q t moves ∧ Q (t.run moves) m := by
  rw [Along.append]
  exact and_congr_right fun _ => and_iff_left trivial

theorem Along.mono {Q Q' : Traffic → Move → Prop} (h : ∀ t m, Q t m → Q' t m) {t : Traffic}
    {moves : List Move} (halong : Along Q t moves) : Along Q' t moves := by
  induction moves generalizing t with
  | nil => trivial
  | cons m moves ih => exact ⟨h t m halong.1, ih halong.2⟩

/-- What one step keeps where its move meets the condition, a run keeps. -/
theorem Along.run {P : Traffic → Prop} {Q : Traffic → Move → Prop}
    (hstep : ∀ t m, P t → Q t m → P (t.step m)) {t : Traffic} {moves : List Move}
    (halong : Along Q t moves) (ht : P t) : P (t.run moves) := by
  induction moves generalizing t with
  | nil => exact ht
  | cons m moves ih => exact ih halong.2 (hstep t m ht halong.1)

end Traffic

end BookingNotices
