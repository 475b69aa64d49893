import BookingNotices.Proofs.Dispatch.Basic
import BookingNotices.Proofs.Run
import BookingNotices.Proofs.Traffic.Basic

/-!
# Calls that nobody disturbs

* `Call.Reaches`      : what a call comes to while nobody else does anything;
* `Reaches.run`       : in traffic, that takes some number of steps of the call;
* `reaches_create`, `reaches_process`, `reaches_resume`, `reaches_sweep`, `reaches_dispatch` : a
  call comes to the end, and to the world, that the service's own operation gives.

So the steps of calls are those of the operations, with room for others in between.
-/

namespace BookingNotices

namespace Call

/-- What a call comes to while nobody else does anything. -/
inductive Reaches : Call × World → Call × World → Prop where
  | refl (p : Call × World) : Reaches p p
  | step {c w q} (h : Reaches (c.step w) q) : Reaches (c, w) q

theorem Reaches.trans {p q r : Call × World} (h₁ : Reaches p q) (h₂ : Reaches q r) :
    Reaches p r := by
  induction h₁ with
  | refl => exact h₂
  | step _ ih => exact .step (ih h₂)

/-- What a worker comes to in a call that steps as its worker does. -/
theorem reaches_worker (call : Worker → Call)
    (hcall : ∀ k w, k.result? = none → (call k).step w = (call (k.step w).1, (k.step w).2))
    (k : Worker) (w : World) : Reaches (call k, w) (call (.ended (k.run w).1), (k.run w).2) := by
  induction k, w using Worker.run.induct with
  | case1 k w r hr =>
    rw [Worker.run_of_result hr, ← Worker.ended_of_result hr]
    exact .refl _
  | case2 k w hgoing _ ih =>
    rw [Worker.run_of_going hgoing]
    refine .step ?_
    rw [hcall k w hgoing]
    exact ih

/-! ## Creations and workers -/

theorem reaches_create (w : World) (booking : BookingId) (cause : Option String) :
    Reaches (.creation booking cause, w)
      (.created (w.create booking cause).1, (w.create booking cause).2) :=
  .step (.refl _)

theorem reaches_process (w : World) (id : NoticeId) :
    Reaches (.worker (.claiming id), w) (.worker (.ended (w.process id).1), (w.process id).2) :=
  reaches_worker Call.worker (fun _ _ _ => rfl) (.claiming id) w

theorem reaches_resume (w : World) (id : NoticeId) (threshold : Nat) :
    Reaches (.worker (.renewing id threshold), w)
      (.worker (.ended (w.resume id threshold).1), (w.resume id threshold).2) :=
  reaches_worker Call.worker (fun _ _ _ => rfl) (.renewing id threshold) w

/-! ## Sweeps -/

theorem step_sweep (s : Sweep) (w : World) :
    (Call.sweep s).step w = (.sweep (s.step w).1, (s.step w).2) := rfl

theorem sweep_step_refused {s : Sweep} {pass : Sweep.Pass} {f : Failure} {w w' : World}
    (hphase : s.phase = .listing pass) (hlist : Sweep.list pass w = (.error f, w')) :
    (Call.sweep s).step w = (.sweep { s with phase := .ended (.error f) }, w') := by
  rw [step_sweep]
  unfold Sweep.step
  rw [hphase]
  dsimp only
  rw [hlist]

theorem sweep_step_listed {s : Sweep} {pass : Sweep.Pass} {rows : List Notice} {w w' : World}
    (hphase : s.phase = .listing pass) (hlist : Sweep.list pass w = (.ok rows, w')) :
    (Call.sweep s).step w = (.sweep { s with phase := .choosing pass rows }, w') := by
  rw [step_sweep]
  unfold Sweep.step
  rw [hphase]
  dsimp only
  rw [hlist]

theorem sweep_step_working {s : Sweep} {pass : Sweep.Pass} {rows : List Notice} (k : Worker)
    (w : World) (hgoing : k.result? = none) :
    (Call.sweep { s with phase := .working pass k rows }).step w =
      (.sweep { s with phase := .working pass (k.step w).1 rows }, (k.step w).2) := by
  rw [step_sweep]
  unfold Sweep.step
  dsimp only
  rw [hgoing]

/-- What a sweep comes to behind the rows of a pass. -/
theorem reaches_takeUp (pass : Sweep.Pass) (rows : List Notice) (s : Sweep) (w : World) :
    Reaches (.sweep { s with phase := .choosing pass rows }, w)
      (.sweep ((Sweep.takeUp pass rows s w).1.after pass), (Sweep.takeUp pass rows s w).2) := by
  induction rows generalizing s w with
  | nil =>
    refine .step ?_
    cases pass <;> exact .refl _
  | cons n rows ih =>
    unfold Sweep.takeUp
    split
    · rename_i hdue
      refine .step ?_
      have hchoose : (Call.sweep { s with phase := .choosing pass (n :: rows) }).step w =
          (.sweep { s with report := s.report.attempt pass
                           phase := .working pass (pass.worker s n) rows }, w) := by
        rw [step_sweep]
        unfold Sweep.step
        dsimp only
        rw [if_pos (by cases pass <;> exact hdue)]
        cases pass <;> rfl
      rw [hchoose]
      refine (reaches_worker
        (fun k => .sweep { s with report := s.report.attempt pass
                                  phase := .working pass k rows })
        (fun k w hgoing => sweep_step_working (s := { s with report := s.report.attempt pass }) k w
          hgoing) (pass.worker s n) w).trans ?_
      exact .step (ih { s with report := (s.report.attempt pass).record _ } _)
    · rename_i hdue
      refine .step ?_
      have hchoose : (Call.sweep { s with phase := .choosing pass (n :: rows) }).step w =
          (.sweep (s.after pass), w) := by
        rw [step_sweep]
        unfold Sweep.step
        dsimp only
        rw [if_neg (by cases pass <;> exact hdue)]
        cases pass <;> rfl
      rw [hchoose]
      exact .refl _

/-- What a sweep comes to from the listing of its second pass. -/
theorem reaches_finishProcessing (s : Sweep) (w : World) :
    ∃ s', s'.phase = .ended (s.finishProcessing w).1 ∧
      Reaches (.sweep { s with phase := .listing .processing }, w)
        (.sweep s', (s.finishProcessing w).2) := by
  unfold Sweep.finishProcessing
  rcases hlist : Sweep.list .processing w with ⟨f | rows, w'⟩
  · refine ⟨{ s with phase := .ended (.error f) }, rfl, .step ?_⟩
    rw [sweep_step_refused rfl hlist]
    exact .refl _
  · refine ⟨(Sweep.takeUp .processing rows s w').1.after .processing, rfl, .step ?_⟩
    rw [sweep_step_listed rfl hlist]
    exact reaches_takeUp .processing rows s w'

/-- A sweep comes to the report, and to the world, of the whole sweep. -/
theorem reaches_sweep (w : World) (threshold : Nat) :
    ∃ s, s.phase = .ended (w.sweep threshold).1 ∧
      Reaches ((Request.sweep threshold).start w) (.sweep s, (w.sweep threshold).2) := by
  obtain ⟨s₀, w₀, hstart, hphase⟩ : ∃ s₀ w₀, Sweep.start w threshold = (s₀, w₀) ∧
      s₀.phase = .listing .pending := ⟨_, _, rfl, rfl⟩
  have hbegin : (Request.sweep threshold).start w = (.sweep s₀, w₀) := by
    unfold Request.start
    dsimp only
    rw [hstart]
  have hwhole : w.sweep threshold = s₀.finish w₀ := by
    unfold World.sweep
    rw [hstart]
  rw [hbegin, hwhole]
  unfold Sweep.finish
  rw [hphase]
  dsimp only
  rcases hlist : Sweep.list .pending w₀ with ⟨f | rows, w'⟩
  · refine ⟨{ s₀ with phase := .ended (.error f) }, rfl, .step ?_⟩
    rw [sweep_step_refused hphase hlist]
    exact .refl _
  · obtain ⟨s', hs', hreach⟩ := reaches_finishProcessing (Sweep.takeUp .pending rows s₀ w').1
      (Sweep.takeUp .pending rows s₀ w').2
    refine ⟨s', hs', .step ?_⟩
    rw [sweep_step_listed hphase hlist]
    exact (reaches_takeUp .pending rows s₀ w').trans hreach

/-! ## Deliveries -/

theorem step_dispatch (d : Dispatch) (w : World) :
    (Call.dispatch d).step w = (.dispatch (d.step w).1, (d.step w).2) := rfl

/-- The handler of a delivery comes to the outcome, and to the world, of the whole consumer. -/
theorem reaches_consume (report : Bus.Report) (e : Bus.Delivery Consumer) (w : World) :
    Reaches (.dispatch ⟨report, .handing e⟩, w)
      (.dispatch ⟨report, .settling e
        (w.consume e.handler (e.event.delivered e.attempts)).1⟩,
        (w.consume e.handler (e.event.delivered e.attempts)).2) := by
  rcases e with ⟨event, handler, attempts⟩
  cases handler with
  | noticeCreated =>
    unfold World.consume
    dsimp only
    cases hread : Event.Created.ofEvent (event.delivered attempts) with
    | error f =>
      refine .step ?_
      rw [step_dispatch]
      unfold Dispatch.step
      dsimp only
      rw [hread]
      exact .refl _
    | ok created =>
      refine .step ?_
      rw [step_dispatch]
      unfold Dispatch.step
      dsimp only
      rw [hread]
      refine (reaches_worker
        (fun k => .dispatch ⟨report, .working ⟨event, .noticeCreated, attempts⟩ k⟩)
        (fun k w hgoing => ?_) (.claiming created.id) w).trans (.step (.refl _))
      rw [step_dispatch]
      unfold Dispatch.step
      dsimp only
      rw [hgoing]
  | paymentCompleted =>
    refine .step ?_
    rw [step_dispatch]
    unfold World.consume Dispatch.step
    dsimp only
    cases Event.PaymentCompleted.ofEvent (event.delivered attempts) with
    | error f => exact .refl _
    | ok payment => exact .refl _

/-- One delivery comes to what the bus makes of it. -/
theorem reaches_deliver (report : Bus.Report) (w : World) :
    match Bus.deliver World.consume w with
    | none => w.bus.queue = []
    | some (ending, w') => Reaches (.dispatch ⟨report, .taking⟩, w)
        (.dispatch ⟨report.add ending, .taking⟩, w') := by
  unfold Bus.deliver
  have hbus : (HasBus.bus w : Bus Consumer) = w.bus := rfl
  rw [hbus]
  cases hqueue : w.bus.queue with
  | nil => rfl
  | cons d rest =>
    dsimp only
    refine .step ?_
    rw [step_dispatch]
    unfold Dispatch.step
    dsimp only
    rw [hqueue]
    exact (reaches_consume report { d with attempts := d.attempts + 1 } _).trans (.step (.refl _))

end Call

namespace Call

/-- Deliveries come to the report, and to the world, of the whole dispatch, if that leaves nothing
to deliver. -/
theorem reaches_dispatch (deliveries : Nat) (report : Bus.Report) (w : World)
    (hempty : (Bus.dispatch World.consume deliveries w).2.bus.queue = []) :
    Reaches (.dispatch ⟨report, .taking⟩, w)
      (.dispatch ⟨report.plus (Bus.dispatch World.consume deliveries w).1, .ended⟩,
        (Bus.dispatch World.consume deliveries w).2) := by
  have stop (report : Bus.Report) (w : World) (hqueue : w.bus.queue = []) :
      Reaches (.dispatch ⟨report, .taking⟩, w) (.dispatch ⟨report, .ended⟩, w) := by
    refine .step ?_
    rw [step_dispatch]
    unfold Dispatch.step
    dsimp only
    rw [hqueue]
    exact .refl _
  induction deliveries generalizing report w with
  | zero => exact stop report w hempty
  | succ n ih =>
    have hdeliver := reaches_deliver report w
    unfold Bus.dispatch at hempty ⊢
    cases hd : Bus.deliver World.consume w with
    | none =>
      rw [hd] at hdeliver
      exact stop report w hdeliver
    | some ending =>
      rw [hd] at hdeliver hempty
      refine hdeliver.trans ?_
      dsimp only at hempty ⊢
      rw [Bus.Report.plus_add]
      exact ih (report.add ending.1) ending.2 hempty

/-- What a call comes to, it comes to in traffic in some number of its steps. -/
theorem Reaches.run {c c' : Call} {w w' : World} (h : Reaches (c, w) (c', w'))
    (log : List Traffic.Entry) :
    ∃ steps log', Traffic.run ⟨w, [c], log⟩ (List.replicate steps (.advance 0)) =
      ⟨w', [c'], log'⟩ := by
  generalize hp : (c, w) = p, hq : (c', w') = q at h
  induction h generalizing c w log with
  | refl =>
    cases hp.trans hq.symm
    exact ⟨0, log, rfl⟩
  | @step c w _ _ ih =>
    cases hp
    obtain ⟨steps, log', hrun⟩ := ih (log ++ Traffic.entries 0 (c.deeds w)) rfl hq
    exact ⟨steps + 1, log', hrun⟩

end Call

end BookingNotices
