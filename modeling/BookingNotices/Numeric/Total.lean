/-!
# Totals

* `total` : the sum of a list of natural numbers;
* `total_append`, `total_eq_zero` : how it goes with lists put together, and when nothing adds up;
* `total_map_const` : so many times the same number.
-/

namespace BookingNotices.Numeric

/-- The sum of a list of natural numbers. -/
def total : List Nat → Nat
  | [] => 0
  | n :: ns => n + total ns

@[simp] theorem total_nil : total [] = 0 := rfl

@[simp] theorem total_cons (n : Nat) (ns : List Nat) : total (n :: ns) = n + total ns := rfl

@[simp] theorem total_append (ms ns : List Nat) : total (ms ++ ns) = total ms + total ns := by
  induction ms with
  | nil => simp
  | cons m ms ih => simp [ih, Nat.add_assoc]

theorem total_eq_zero {ns : List Nat} (h : ∀ n ∈ ns, n = 0) : total ns = 0 := by
  induction ns with
  | nil => rfl
  | cons n ns ih => simp [h n (by simp), ih fun m hm => h m (by simp [hm])]

theorem total_map_const {α : Type} {f : α → Nat} {c : Nat} {as : List α}
    (h : ∀ a ∈ as, f a = c) : total (as.map f) = as.length * c := by
  induction as with
  | nil => simp
  | cons a as ih =>
    rw [List.map_cons, total_cons, h a (by simp), ih fun b hb => h b (by simp [hb]),
      List.length_cons, Nat.succ_mul, Nat.add_comm]

end BookingNotices.Numeric
