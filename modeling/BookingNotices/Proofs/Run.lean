import BookingNotices.Proofs.Frame

/-!
# A worker with nobody in between

* `Worker.run_of_going`, `run_of_result` : the steps of a run;
* `Worker.run_of_twice`  : a run that fails at its second step;
* `Worker.run_induction` : what every step keeps, a run keeps;
* `Worker.habit_run`     : a relation that all the work of the service respects holds across a run.
-/

namespace BookingNotices.Worker

theorem run_of_result {k : Worker} {r : Except Notice.Error Outcome} (h : k.result? = some r)
    (w : World) : k.run w = (r, w) := by
  cases k with
  | ended =>
    cases h
    rw [run]
    rfl
  | _ => cases h

theorem run_of_going {k : Worker} (h : k.result? = none) (w : World) :
    k.run w = (k.step w).1.run (k.step w).2 := by
  rw [run]
  split
  · rename_i r hr
    rw [h] at hr
    cases hr
  · rfl

theorem ended_of_result {k : Worker} {r : Except Notice.Error Outcome} (h : k.result? = some r) :
    k = .ended r := by
  cases k with
  | ended =>
    cases h
    rfl
  | _ => cases h

/-- What every step keeps, a run keeps. -/
theorem run_induction {P : Worker → World → Prop}
    (hstep : ∀ k w, k.result? = none → P k w → P (k.step w).1 (k.step w).2) (k : Worker) (w : World)
    (h : P k w) : P (.ended (k.run w).1) (k.run w).2 := by
  induction k, w using Worker.run.induct with
  | case1 k w r hr =>
    rw [run_of_result hr, ← ended_of_result hr]
    exact h
  | case2 k w hgoing _ ih =>
    rw [run_of_going hgoing]
    exact ih (hstep k w hgoing h)

/-- The first two steps of a worker. -/
def twice (k : Worker) (w : World) : Worker × World := (k.step w).1.step (k.step w).2

/-- A worker that fails at its second step does no more. -/
theorem run_of_twice {k : Worker} {w : World} (hgoing : k.result? = none)
    (hgoing' : (k.step w).1.result?.isNone = true)
    (hfails : (k.twice w).1.result?.map Except.isOk = some false) :
    ∃ e, k.run w = (.error e, (k.twice w).2) := by
  obtain ⟨r, hr, hnotOk⟩ := Option.map_eq_some_iff.mp hfails
  rw [run_of_going hgoing, run_of_going (Option.isNone_iff_eq_none.mp hgoing')]
  cases r with
  | ok => cases hnotOk
  | error e => exact ⟨e, run_of_result hr _⟩

/-- A worker claims only at its beginning. -/
theorem step_ne_claiming {k : Worker} (h : k.result? = none) (w : World) (id : NoticeId) :
    (k.step w).1 ≠ .claiming id := by
  intro hclaiming
  have hlt := stepsLeft_step_lt h w
  rw [hclaiming] at hlt
  cases k <;> simp [stepsLeft] at hlt

theorem habit_run {R : World → World → Prop} (h : World.Habit R) (k : Worker) (w : World)
    (hpublish : ∀ id, k = .claiming id → World.Publishes R) : R w (k.run w).2 := by
  have hrun := run_induction
    (P := fun k' w' => R w w' ∧ ∀ id, k' = .claiming id → World.Publishes R)
    (fun k' w' hgoing hk => ⟨h.trans hk.1 (habit_step h k' w' hk.2),
      fun id hclaiming => absurd hclaiming (step_ne_claiming hgoing w' id)⟩)
    k w ⟨h.refl w, hpublish⟩
  exact hrun.1

end BookingNotices.Worker
