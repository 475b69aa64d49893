import BookingNotices.Proofs.Frame

/-!
# Clocks

* `Timestamp.le_iff`, `Timestamp.le_trans` : instants are ordered by seconds, then by nanoseconds;
* `Supply.Rising`  : a clock whose readings never decrease from now on (`Rising.le`);
* `Supply.Ascends` : a clock that never goes back, by the time that passes (`Ascends.le`); what is
  overdue stays so (`Notice.isOverdue_mono`);
* `World.next`     : what the clock shows next;
* `World.Ticks`    : the clock goes on; so it does in every step of the service (`ticks_habit`).
-/

namespace BookingNotices

namespace Timestamp

theorem le_iff (a b : Timestamp) :
    a ≤ b ↔ a.seconds < b.seconds ∨ a.seconds = b.seconds ∧ a.nanos ≤ b.nanos := by
  show compare a b ≠ .gt ↔ _
  unfold compare
  split
  · simp [*]
  · split
    · simp only [ne_eq, not_true_eq_false, false_iff]
      omega
    · split
      · simp only [ne_eq, reduceCtorEq, not_false_eq_true, true_iff]
        omega
      · split
        · simp only [ne_eq, not_true_eq_false, false_iff]
          omega
        · simp only [ne_eq, reduceCtorEq, not_false_eq_true, true_iff]
          omega

theorem le_refl (t : Timestamp) : t ≤ t := (le_iff t t).mpr (Or.inr ⟨rfl, Nat.le_refl _⟩)

theorem le_trans {a b c : Timestamp} (h₁ : a ≤ b) (h₂ : b ≤ c) : a ≤ c := by
  rw [le_iff] at h₁ h₂ ⊢
  omega

end Timestamp

/-- A clock whose readings never decrease from now on. -/
def Supply.Rising (clock : Supply Timestamp) : Prop :=
  ∀ i, clock.used ≤ i → clock.answer i ≤ clock.answer (i + 1)

theorem Supply.Rising.le {clock : Supply Timestamp} (h : clock.Rising) {i j : Nat}
    (hi : clock.used ≤ i) (hij : i ≤ j) : clock.answer i ≤ clock.answer j := by
  induction hij with
  | refl => exact Timestamp.le_refl _
  | step hij ih => exact Timestamp.le_trans ih (h _ (Nat.le_trans hi hij))

/-- A clock that never goes back. -/
def Supply.Ascends (clock : Supply Timestamp) : Prop :=
  ∀ i, (clock.answer i).toNanos ≤ (clock.answer (i + 1)).toNanos

theorem Supply.Ascends.le {clock : Supply Timestamp} (h : clock.Ascends) {i j : Nat} (hij : i ≤ j) :
    (clock.answer i).toNanos ≤ (clock.answer j).toNanos := by
  induction hij with
  | refl => exact Int.le_refl _
  | step _ ih => exact Int.le_trans ih (h _)

theorem Notice.isOverdue_mono {n : Notice} {now later : Timestamp} {threshold : Nat}
    (h : n.isOverdue now threshold = true) (hle : now.toNanos ≤ later.toNanos) :
    n.isOverdue later threshold = true := by
  unfold isOverdue Timestamp.since at h ⊢
  rw [decide_eq_true_eq] at h ⊢
  omega

namespace World

/-- What the clock shows next. -/
def next (w : World) : Timestamp := w.clock.answer w.clock.used

/-- The clock goes on. -/
structure Ticks (w w' : World) : Prop where
  answer : w'.clock.answer = w.clock.answer
  used : w.clock.used ≤ w'.clock.used

theorem Ticks.refl (w : World) : w.Ticks w := ⟨rfl, Nat.le_refl _⟩

theorem Ticks.trans {a b c : World} (h₁ : a.Ticks b) (h₂ : b.Ticks c) : a.Ticks c :=
  ⟨h₂.answer.trans h₁.answer, Nat.le_trans h₁.used h₂.used⟩

/-- Nobody stops the clock, or puts it back. -/
theorem ticks_habit : Habit Ticks where
  refl := Ticks.refl
  trans := Ticks.trans
  storeFails w c := by
    unfold World.storeFails
    split <;> exact ⟨rfl, Nat.le_refl _⟩
  now w := ⟨rfl, Nat.le_succ _⟩
  freshId w := ⟨rfl, Nat.le_refl _⟩
  store w s := ⟨rfl, Nat.le_refl _⟩
  lookUp w r _ := ⟨rfl, Nat.le_refl _⟩
  render w p := ⟨rfl, Nat.le_refl _⟩
  read w name := ⟨rfl, Nat.le_refl _⟩
  put w name bytes := ⟨rfl, Nat.le_refl _⟩
  send w m := ⟨rfl, Nat.le_refl _⟩

theorem ticks_publishes : Publishes Ticks := fun _ _ => ⟨rfl, Nat.le_refl _⟩

theorem ticks_queues : Queues Ticks := fun _ _ _ => ⟨rfl, Nat.le_refl _⟩

/-- A clock that rises shows no less in a later world than it was read to show before. -/
theorem Ticks.reading_le {w w' : World} (h : w.Ticks w') (hclock : w.clock.Rising) {i : Nat}
    (hi : w.clock.used ≤ i) (hi' : i ≤ w'.clock.used) : w.clock.answer i ≤ w'.next := by
  unfold next
  rw [h.answer]
  exact hclock.le hi hi'

theorem Ticks.next_le {w w' : World} (h : w.Ticks w') (hclock : w.clock.Rising) :
    w.next ≤ w'.next := h.reading_le hclock (Nat.le_refl _) h.used

theorem Ticks.ascends {w w' : World} (h : w.Ticks w') (hclock : w.clock.Ascends) :
    w'.clock.Ascends := by
  intro i
  rw [h.answer]
  exact hclock i

theorem Ticks.toNanos_next_le {w w' : World} (h : w.Ticks w') (hclock : w.clock.Ascends) :
    w.next.toNanos ≤ w'.next.toNanos := by
  unfold next
  rw [h.answer]
  exact hclock.le h.used

theorem Ticks.rising {w w' : World} (h : w.Ticks w') (hclock : w.clock.Rising) :
    w'.clock.Rising := by
  intro i hi
  rw [h.answer]
  exact hclock i (Nat.le_trans h.used hi)

end World

end BookingNotices
