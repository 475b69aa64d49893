import BookingNotices.Numeric.Total
import BookingNotices.Stream.Consumer

/-!
# Consumers of streams come to an end

* `Member.questions`, `Member.cost` : how many jobs ask the server for more, and how many steps the
  others can lead to; `Member.step_lt` says that every step lowers the pair;
* `Member.run`     : all steps of a consumer, with nobody in between;
* `Member.read`, `Member.reclaim` : one round of reading, and one of taking up pending entries.
-/

namespace BookingNotices.Stream

open Numeric (total total_nil total_cons total_append total_eq_zero)

/-- Whether a job asks the server what else there is to do. -/
def Job.asks {η : Type} : Job η → Bool
  | .readNew | .listPending _ => true
  | _ => false

/-- How many steps a job of a consumer with so many handlers can lead to, itself included, if it
does not ask for more. -/
def Job.cost {η : Type} (handlers : Nat) : Job η → Nat
  | .createGroup _ | .readNew | .listPending _ | .acknowledge _ _ | .copy _ _ _
  | .acknowledgeBuried _ _ | .count => 1
  | .bury _ _ _ => 3
  | .handle _ _ _ left _ => left.length + 2
  | .deliver _ _ _ => handlers + 4
  | .reclaim _ _ => handlers + 6

/-- How many jobs of a task ask for more. -/
def Task.questions {η : Type} (t : Task η) : Nat := t.jobs.countP Job.asks

/-- How many steps a task can lead to, its end included, if it does not ask for more. -/
def Task.cost {η : Type} (handlers : Nat) (t : Task η) : Nat :=
  1 + total (t.jobs.map (Job.cost handlers))

namespace Member

variable {σ η : Type}

/-- How many jobs ask for more. -/
def questions (m : Member η) : Nat := total (m.tasks.map Task.questions)

/-- How many steps the tasks can lead to, if none of them asks for more. -/
def cost (m : Member η) : Nat := total (m.tasks.map (Task.cost m.subscriptions.length))

private theorem of_map_reply {α : Type} {r : Except Failure α} {f : α → Job.Next η}
    {s s' : Site σ} {next : Job.Next η} (h : (r.map f, s) = (Except.ok next, s')) :
    ∃ a, f a = next := by
  cases r with
  | error e => simp [Except.map] at h
  | ok a => exact ⟨a, by simpa [Except.map] using congrArg Prod.fst h⟩

/-- A job that does not ask for more leads to cheaper jobs, none of which asks, and to no tasks. -/
theorem perform_cost {m : Member η} {handle : Handle σ η} {s s' : Site σ} {j : Job η}
    {next : Job.Next η} (h : m.perform handle s j = (.ok next, s')) (hj : j.asks = false) :
    next.jobs.countP Job.asks = 0 ∧ next.tasks = [] ∧
      total (next.jobs.map (Job.cost m.subscriptions.length)) < j.cost m.subscriptions.length := by
  have handlers (topic : String) : (m.handlersOf topic).length ≤ m.subscriptions.length := by
    simpa [handlersOf] using List.length_filter_le _ m.subscriptions
  cases j with
  | createGroup topic =>
    simp only [perform] at h
    split at h <;> simp only [Prod.mk.injEq, Except.ok.injEq, reduceCtorEq, false_and] at h
    all_goals simp [← h.1, Job.cost]
  | readNew => simp [Job.asks] at hj
  | listPending topic => simp [Job.asks] at hj
  | reclaim topic p =>
    simp only [perform] at h
    split at h
    · simp only [Prod.mk.injEq, Except.ok.injEq] at h
      simp [← h.1, Job.cost]
    · split at h
      · simp only [Prod.mk.injEq, Except.ok.injEq] at h
        simp [← h.1, Job.cost, Job.asks]
      · obtain ⟨a, rfl⟩ := of_map_reply h
        cases a <;> simp [Job.cost, Job.asks]
  | deliver topic e count =>
    simp only [perform] at h
    split at h <;> simp only [Prod.mk.injEq, Except.ok.injEq] at h
    · simp [← h.1, Job.cost, Job.asks]
    · have := handlers topic
      refine ⟨by simp [← h.1, Job.asks], by simp [← h.1], ?_⟩
      simp only [← h.1, Job.cost, List.map_cons, List.map_nil, total_cons, total_nil]
      omega
  | handle topic entry event left handled =>
    simp only [perform] at h
    split at h <;> simp only [Prod.mk.injEq, Except.ok.injEq] at h
    · cases handled <;> simp [← h.1, Job.cost, Job.asks]
    · simp [← h.1, Job.cost, Job.asks]
  | acknowledge topic entry =>
    obtain ⟨a, rfl⟩ := of_map_reply h
    simp [Job.cost]
  | bury topic entry count =>
    obtain ⟨a, rfl⟩ := of_map_reply h
    cases a <;> simp [Job.cost, Job.asks]
  | copy topic e count =>
    obtain ⟨a, rfl⟩ := of_map_reply h
    simp [Job.cost]
  | acknowledgeBuried topic entry =>
    obtain ⟨a, rfl⟩ := of_map_reply h
    simp [Job.cost]
  | count =>
    simp only [perform, Prod.mk.injEq, Except.ok.injEq] at h
    simp [← h.1, Job.cost]

/-- What a job that asks for more leads to does not ask itself. -/
theorem perform_asks {m : Member η} {handle : Handle σ η} {s s' : Site σ} {j : Job η}
    {next : Job.Next η} (h : m.perform handle s j = (.ok next, s')) (hj : j.asks = true) :
    next.jobs.countP Job.asks = 0 ∧ total (next.tasks.map Task.questions) = 0 := by
  cases j with
  | readNew =>
    obtain ⟨read, rfl⟩ := of_map_reply h
    clear h
    refine ⟨rfl, ?_⟩
    induction read with
    | nil => rfl
    | cons r read ih =>
      rw [List.flatMap_cons, List.map_append, total_append, ih]
      exact total_eq_zero (by simp [deliveryTask, Task.questions, Job.asks])
  | listPending topic =>
    obtain ⟨reports, rfl⟩ := of_map_reply h
    simp [Job.asks]
  | _ => simp [Job.asks] at hj

/-- Every step of a consumer that has something to do brings it closer to its end. -/
theorem step_lt {m : Member η} (h : m.tasks ≠ []) (handle : Handle σ η) (s : Site σ) :
    Prod.Lex (· < ·) (· < ·) ((m.step handle s).1.questions, (m.step handle s).1.cost)
      (m.questions, m.cost) := by
  rcases m with ⟨settings, subscriptions, tasks, outcomes⟩
  rcases tasks with _ | ⟨⟨subject, _ | ⟨job, jobs⟩, handled⟩, tasks⟩
  · simp at h
  · refine Prod.Lex.right' _ ?_ ?_ <;> simp [step, questions, cost, Task.questions, Task.cost]
  · have performed (next : Job.Next η) (s' : Site σ)
        (h : perform ⟨settings, subscriptions, ⟨subject, job :: jobs, handled⟩ :: tasks, outcomes⟩
          handle s job = (.ok next, s')) :
        Prod.Lex (· < ·) (· < ·)
          ((next.jobs.countP Job.asks + total (next.tasks.map Task.questions) : Nat),
            (total (next.jobs.map (Job.cost subscriptions.length)) +
              total (next.tasks.map (Task.cost subscriptions.length)) : Nat))
          ([job].countP Job.asks, job.cost subscriptions.length) := by
      cases hj : job.asks with
      | true =>
        have ⟨h₁, h₂⟩ := perform_asks h hj
        exact .left _ _ (by simp [h₁, h₂, hj])
      | false =>
        have ⟨h₁, h₂, h₃⟩ := perform_cost h hj
        exact Prod.Lex.right' _ (by simp [h₁, h₂]) (by simpa [h₂] using h₃)
    simp only [step]
    split
    · refine Prod.Lex.right' _ (by simp [questions, Task.questions, List.countP_cons]) ?_
      simp only [cost, Task.cost, List.map_cons, total_cons]
      omega
    · next next s' h =>
      have h := performed next s' h
      simp only [Prod.lex_def] at h ⊢
      simp [questions, cost, Task.questions, Task.cost, List.countP_cons] at h ⊢
      omega

/-- All steps of a consumer, with nobody in between: how its tasks ended. -/
def run (m : Member η) (handle : Handle σ η) (s : Site σ) : List Task.Outcome × Site σ :=
  if h : m.tasks = [] then (m.outcomes, s)
  else
    have := step_lt h handle s
    run (m.step handle s).1 handle (m.step handle s).2
termination_by (m.questions, m.cost)
decreasing_by exact this

/-- Reads new entries of all topics and delivers them: how the delivery of each entry ended. -/
def read (m : Member η) (handle : Handle σ η) (s : Site σ) :
    Except Failure (List Task.Outcome) × Site σ :=
  let (outcomes, s) := m.reading.run handle s
  match outcomes with
  | [] => (.ok [], s)
  | ⟨_, .error f⟩ :: _ => (.error f, s)
  | ⟨_, .ok _⟩ :: entries => (.ok entries, s)

/-- Takes up entries of a topic that were left pending: how many were handled. -/
def reclaim (m : Member η) (topic : String) (handle : Handle σ η) (s : Site σ) :
    Except Failure Nat × Site σ :=
  let (outcomes, s) := (m.reclaiming topic).run handle s
  match outcomes with
  | ⟨_, result⟩ :: _ => (result, s)
  | [] => (.ok 0, s)

end Member

end BookingNotices.Stream
