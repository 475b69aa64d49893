import BookingNotices.Proofs.Attempts
import BookingNotices.Proofs.Healthy
import BookingNotices.Proofs.Room

/-!
# What a sweep recovers

* `World.Clear`      : nothing gets in the way of a sweep;
* `World.Recovers`   : some rows were taken to the end of the work on them, one after the other, and
  nothing else was stored or sent (`Recovers.append`);
* `Pass.recovers_run`, `takeUp_recovers` : so a worker does with its row, and a pass with its rows;
* `sweep_takes`, `sweep_of_unfinished_nil` : a sweep takes up every row on which there is work to
  do, and reports nothing if there is none;
* `sweep_recovers`   : a sweep leaves no row behind that was open and old enough, and another sweep
  has nothing to do.

The rows of the second pass are listed from the store that the first pass has left. They are the
claimed rows of the old store: the first pass has taken up none of them, and left none behind.
-/

namespace BookingNotices

namespace World

/-! ## What becomes of rows that were left behind -/

/-- Nothing gets in the way of a sweep. -/
structure Clear (render : Invoice.Params → Bytes) (w : World) : Prop extends Healthy render w where
  accepts : ∀ i, w.bus.refusals.answer i = false
  keyed : w.registry.Keyed
  ascends : w.clock.Ascends

/-- A row that is to be recovered: it is stored, the work on it can be done, and it has none of its
results yet. -/
structure Awaits (w : World) (row : Notice) : Prop where
  stored : w.store.rows.find? row.id = some row
  set : row.id.isUnset = false
  complete : w.registry.Complete row.booking
  blank : row.document = ""

/-- Some rows were taken to the end of the work on them, and nothing else was stored or sent. -/
structure Recovers (render : Invoice.Params → Bytes) (rows : List Notice) (w w' : World) :
    Prop where
  usual : w.Usual w'
  ticks : w.Ticks w'
  refusals : w'.bus.refusals.answer = w.bus.refusals.answer
  keyed : w.store.Keyed → w'.store.Keyed
  sorted : w.store.rows.Sorted → w'.store.rows.Sorted
  recovered : ∀ n ∈ rows, ∃ m, w'.store.rows.find? n.id = some m ∧ n.Kin m ∧
    m.status.isFinal = true ∧ w.registry.ending? n.booking = some (m.status, m.document)
  others : ∀ id, (∀ n ∈ rows, n.id ≠ id) → w'.store.rows.find? id = w.store.rows.find? id
  sent : w'.outbox.sent =
    w.outbox.sent ++ rows.filterMap fun n => w.registry.mail? render n.booking

variable {render : Invoice.Params → Bytes} {rows rows' : List Notice} {w w₁ w' : World}
  {row n m : Notice}

theorem Clear.recovers (h : w.Clear render) (hw : w.Recovers render rows w') :
    w'.Clear render where
  toHealthy := h.toHealthy.usual hw.usual
  accepts i := by
    rw [hw.refusals]
    exact h.accepts i
  keyed := h.keyed.served hw.usual.served
  ascends := hw.ticks.ascends h.ascends

theorem Awaits.recovers (h : w.Awaits row) (hw : w.Recovers render rows w')
    (hnot : ∀ n ∈ rows, n.id ≠ row.id) : w'.Awaits row where
  stored := by
    rw [hw.others row.id hnot]
    exact h.stored
  set := h.set
  complete := hw.usual.served.complete h.complete
  blank := h.blank

/-- Nothing was done but to read the clock. -/
theorem Recovers.now (w : World) : w.Recovers render [] w.now.2 :=
  ⟨usual_habit.now w, ticks_habit.now w, rfl, id, id, nofun, fun _ _ => rfl,
    (List.append_nil _).symm⟩

theorem Recovers.refl (w : World) : w.Recovers render [] w :=
  ⟨.refl w, .refl w, rfl, id, id, nofun, fun _ _ => rfl, (List.append_nil _).symm⟩

theorem Recovers.append (h₁ : w.Recovers render rows w₁) (h₂ : w₁.Recovers render rows' w')
    (hdisjoint : ∀ n ∈ rows, ∀ m ∈ rows', m.id ≠ n.id) :
    w.Recovers render (rows ++ rows') w' where
  usual := h₁.usual.trans h₂.usual
  ticks := h₁.ticks.trans h₂.ticks
  refusals := h₂.refusals.trans h₁.refusals
  keyed h := h₂.keyed (h₁.keyed h)
  sorted h := h₂.sorted (h₁.sorted h)
  recovered := by
    intro n hn
    rcases List.mem_append.mp hn with hn | hn
    · obtain ⟨m, hm, hrest⟩ := h₁.recovered n hn
      exact ⟨m, (h₂.others n.id (hdisjoint n hn)).trans hm, hrest⟩
    · obtain ⟨m, hm, hkin, hfinal, hending⟩ := h₂.recovered n hn
      rw [h₁.usual.served.ending?] at hending
      exact ⟨m, hm, hkin, hfinal, hending⟩
  others := by
    intro id hnot
    rw [h₂.others id fun n hn => hnot n (List.mem_append_right _ hn),
      h₁.others id fun n hn => hnot n (List.mem_append_left _ hn)]
  sent := by
    have hmail : (fun n : Notice => w₁.registry.mail? render n.booking) =
        fun n => w.registry.mail? render n.booking :=
      funext fun n => h₁.usual.served.mail? render n.booking
    rw [h₂.sent, h₁.sent, hmail, List.filterMap_append, List.append_assoc]

/-- A row whose work has come to its end is recovered. -/
theorem Resolved.recovers (h : Resolved render row m w w') (husual : w.Usual w')
    (hticks : w.Ticks w') (hrefusals : w'.bus.refusals.answer = w.bus.refusals.answer) :
    w.Recovers render [row] w' where
  usual := husual
  ticks := hticks
  refusals := hrefusals
  keyed hkeyed := h.store ▸ hkeyed.put m
  sorted hsorted := by
    rw [h.store]
    exact hsorted.insert
  recovered := by
    intro n hn
    rw [List.mem_singleton.mp hn, h.store, ← h.kin.id]
    exact ⟨m, Store.find?_put_self _ m, h.kin, h.final, h.ending⟩
  others := by
    intro id hnot
    have hne : id ≠ m.id := by
      rw [h.kin.id]
      exact (hnot row List.mem_cons_self).symm
    rw [h.store, Store.find?_put_of_ne hne]
  sent := by
    rw [h.sent]
    cases hmail : w.registry.mail? render row.booking <;> simp [hmail]

end World

namespace Sweep

open World

variable {render : Invoice.Params → Bytes} {w : World} {s : Sweep}

/-! ## A pass -/

/-- The report with so many more rows recovered in a pass. -/
def Report.recovered (r : Report) (p : Pass) (count : Nat) : Report :=
  match p with
  | .pending => { r with orphaned := r.orphaned + count, resumed := r.resumed + count }
  | .processing => { r with stale := r.stale + count, resumed := r.resumed + count }

theorem Report.recovered_zero (r : Report) (p : Pass) : r.recovered p 0 = r := by cases p <;> rfl

theorem Report.recovered_succ (r : Report) (p : Pass) (n : Notice) (count : Nat) :
    ((r.attempt p).record (.ok (.completed n))).recovered p count = r.recovered p (count + 1) := by
  cases p <;> simp only [attempt, record, recovered, Nat.add_assoc, Nat.add_comm 1]

/-- The worker of a pass recovers its row, which is overdue still when the worker looks at it. -/
theorem Pass.recovers_run (hw : w.Clear render) (hbegan : s.began.toNanos ≤ w.next.toNanos)
    {p : Pass} {row : Notice} (hrow : w.Awaits row) (hdue : p.isDue s row = true) :
    ∃ m, ((p.worker s row).run w).1 = .ok (.completed m) ∧
      w.Recovers render [row] ((p.worker s row).run w).2 := by
  have husual := Worker.habit_run usual_habit (p.worker s row) w fun _ _ => usual_publishes
  have hticks := Worker.habit_run ticks_habit (p.worker s row) w fun _ _ => ticks_publishes
  cases p with
  | pending =>
    have hpending : row.status = .pending := (Pass.isDue_iff.mp hdue).1
    have haccepts : w.bus.refuses = false := hw.accepts _
    rcases process_of_waiting hw.toHealthy hw.keyed hrow.stored hrow.set hpending hrow.complete
      hrow.blank with ⟨hrefuses, -⟩ | ⟨-, m, event, hok, hresolved, -, hbus⟩
    · rw [haccepts] at hrefuses
      cases hrefuses
    · refine ⟨m, hok, hresolved.recovers husual hticks ?_⟩
      rw [hbus]
      rfl
  | processing =>
    have hstale : row.isStale w.next s.threshold = true := by
      unfold Pass.isDue Notice.isStale at hdue
      unfold Notice.isStale
      rw [Bool.and_eq_true] at hdue ⊢
      exact ⟨hdue.1, Notice.isOverdue_mono hdue.2 hbegan⟩
    obtain ⟨m, hok, hresolved, hbus⟩ := resume_of_stale hw.toHealthy hw.keyed hrow.stored hrow.set
      hstale hrow.complete hrow.blank
    refine ⟨m, hok, hresolved.recovers husual hticks ?_⟩
    rw [show (World.resume w row.id s.threshold).2.bus = w.bus from hbus]

/-- A pass recovers all its rows if they are overdue. -/
theorem takeUp_recovers (p : Pass) (rows : List Notice) (s : Sweep) (w : World)
    (hw : w.Clear render) (hbegan : s.began.toNanos ≤ w.next.toNanos)
    (hrows : ∀ row ∈ rows, w.Awaits row ∧ p.isDue s row = true)
    (honce : (rows.map (·.id)).Nodup) :
    ∃ w', takeUp p rows s w = ({ s with report := s.report.recovered p rows.length }, w') ∧
      w.Recovers render rows w' := by
  induction rows generalizing s w with
  | nil =>
    refine ⟨w, ?_, .refl w⟩
    rw [List.length_nil, Report.recovered_zero]
    rfl
  | cons row rows ih =>
    obtain ⟨hnot, honce⟩ := List.nodup_cons.mp honce
    obtain ⟨hrow, hdue⟩ := hrows row List.mem_cons_self
    obtain ⟨m, hok, hfirst⟩ := Pass.recovers_run hw hbegan hrow hdue
    have hother : ∀ n ∈ [row], ∀ m ∈ rows, m.id ≠ n.id := by
      intro n hn m hm heq
      rw [List.mem_singleton.mp hn] at heq
      exact hnot (List.mem_map.mpr ⟨m, hm, heq⟩)
    obtain ⟨w', htakeUp, hrest⟩ := ih
      { s with report := (s.report.attempt p).record ((p.worker s row).run w).1 }
      ((p.worker s row).run w).2 (hw.recovers hfirst)
      (Int.le_trans hbegan (hfirst.ticks.toNanos_next_le hw.ascends))
      (fun n hn => ⟨(hrows n (List.mem_cons_of_mem _ hn)).1.recovers hfirst fun k hk =>
        (hother k hk n hn).symm, (hrows n (List.mem_cons_of_mem _ hn)).2⟩) honce
    refine ⟨w', ?_, hfirst.append hrest hother⟩
    unfold takeUp
    rw [if_pos hdue]
    dsimp only
    rw [htakeUp, hok]
    dsimp only
    rw [Report.recovered_succ, List.length_cons]

/-- A pass recovers the rows of its status if they are all overdue. -/
theorem takeUp_withStatus (p : Pass) (hw : w.Clear render)
    (hbegan : s.began.toNanos ≤ w.next.toNanos) (hkeyed : w.store.Keyed)
    (hsorted : w.store.rows.Sorted)
    (hrows : ∀ n ∈ w.store.withStatus p.status,
      w.Awaits n ∧ n.isOverdue s.began s.threshold = true) :
    ∃ w', takeUp p (w.store.withStatus p.status) s w =
        ({ s with report := s.report.recovered p (w.store.withStatus p.status).length }, w') ∧
      w.Recovers render (w.store.withStatus p.status) w' :=
  takeUp_recovers p _ s w hw hbegan
    (fun n hn => ⟨(hrows n hn).1,
      Pass.isDue_iff.mpr ⟨((Store.mem_withStatus hkeyed hsorted).mp hn).2, (hrows n hn).2⟩⟩)
    (Store.nodup_ids_withStatus hkeyed hsorted _)

end Sweep

/-! ## Both passes -/

/-- The rows on which there is work to do. -/
def Store.unfinished (s : Store) : List Notice := s.rows.values.filter fun n => !n.status.isFinal

theorem Store.mem_unfinished {s : Store} (hkeyed : s.Keyed) (hsorted : s.rows.Sorted) {n : Notice} :
    n ∈ s.unfinished ↔ s.rows.find? n.id = some n ∧ n.status.isFinal = false := by
  unfold unfinished
  rw [List.mem_filter, mem_values hkeyed hsorted, Bool.not_eq_true']

namespace World

variable {render : Invoice.Params → Bytes} {w : World}

/-- The rows that a sweep is to recover: the work on them can be done, they have no document yet,
and they are old enough. -/
structure Overdue (w : World) (threshold : Nat) (row : Notice) : Prop where
  complete : w.registry.Complete row.booking
  blank : row.document = ""
  overdue : row.isOverdue w.next threshold = true

/-- A row that is to be recovered, as the first pass finds it. -/
theorem Overdue.awaits {threshold : Nat} {row : Notice} (h : w.Overdue threshold row)
    (hfiled : w.store.Filed) (hrow : w.store.rows.find? row.id = some row) : w.Awaits row := by
  refine ⟨hrow, ?_, h.complete, h.blank⟩
  have hpositive := (hfiled.ids row.id row hrow).1
  unfold NoticeId.isUnset
  rw [decide_eq_false_iff_not, Int64.le_iff_toInt_le]
  exact Int.not_le.mpr hpositive

/-- The claimed rows that the first pass leaves are those that were there before. -/
theorem Recovers.mem_withStatus {rows : List Notice} {w' : World} (h : w.Recovers render rows w')
    (hkeyed : w.store.Keyed) (hsorted : w.store.rows.Sorted)
    (hrows : ∀ n ∈ rows, w.store.rows.find? n.id = some n ∧ n.status = .pending) {n : Notice} :
    n ∈ w'.store.withStatus .processing ↔
      w.store.rows.find? n.id = some n ∧ n.status = .processing := by
  rw [Store.mem_withStatus (h.keyed hkeyed) (h.sorted hsorted)]
  by_cases htaken : ∃ m ∈ rows, m.id = n.id
  · obtain ⟨m, hm, hid⟩ := htaken
    obtain ⟨hstored, hpending⟩ := hrows m hm
    obtain ⟨k, hk, -, hfinal, -⟩ := h.recovered m hm
    rw [hid] at hk hstored
    rw [hk, hstored]
    constructor
    · rintro ⟨heq, hprocessing⟩
      cases heq
      rw [hprocessing] at hfinal
      cases hfinal
    · rintro ⟨heq, hprocessing⟩
      cases heq
      rw [hpending] at hprocessing
      cases hprocessing
  · rw [h.others n.id fun m hm hid => htaken ⟨m, hm, hid⟩]

/-- The rows that wait and the rows that are claimed are all on which there is work to do. -/
theorem perm_unfinished {s : Store} (hkeyed : s.Keyed) (hsorted : s.rows.Sorted)
    {waiting claimed : List Notice} (honce : waiting.Nodup) (honce' : claimed.Nodup)
    (hwaiting : ∀ n, n ∈ waiting ↔ s.rows.find? n.id = some n ∧ n.status = .pending)
    (hclaimed : ∀ n, n ∈ claimed ↔ s.rows.find? n.id = some n ∧ n.status = .processing) :
    (waiting ++ claimed).Perm s.unfinished := by
  have hnodup : (waiting ++ claimed).Nodup := by
    refine List.nodup_append.mpr ⟨honce, honce', fun n hn m hm heq => ?_⟩
    have hpending := ((hwaiting n).mp hn).2
    rw [heq, ((hclaimed m).mp hm).2] at hpending
    cases hpending
  have honce'' : s.unfinished.Nodup := (Store.nodup_values hkeyed hsorted).filter _
  refine (List.perm_ext_iff_of_nodup hnodup honce'').mpr fun n => ?_
  rw [List.mem_append, hwaiting, hclaimed, Store.mem_unfinished hkeyed hsorted, ← and_or_left]
  refine and_congr_right fun _ => ?_
  cases n.status <;> decide

/-- A sweep takes up every row on which there is work to do, if all of them are overdue. -/
theorem sweep_takes (hw : w.Clear render) (hkeyed : w.store.Keyed) (hsorted : w.store.rows.Sorted)
    (threshold : Nat)
    (hrows : ∀ n ∈ w.store.unfinished, w.Awaits n ∧ n.isOverdue w.next threshold = true) :
    ∃ rows report w', w.sweep threshold = (.ok report, w') ∧ w.Recovers render rows w' ∧
      rows.Perm w.store.unfinished ∧ report.orphaned + report.stale = rows.length ∧
      report.resumed = rows.length ∧ report.skipped = 0 ∧ report.failed = 0 := by
  have hawaits (n : Notice) (hn : w.store.rows.find? n.id = some n)
      (hopen : n.status.isFinal = false) : w.Awaits n ∧ n.isOverdue w.next threshold = true :=
    hrows n ((Store.mem_unfinished hkeyed hsorted).mpr ⟨hn, hopen⟩)
  -- the first pass: the rows that wait
  have hnow : w.Recovers render [] w.now.2 := .now w
  have hmem₁ (n : Notice) : n ∈ w.now.2.store.withStatus .pending ↔
      w.store.rows.find? n.id = some n ∧ n.status = .pending :=
    Store.mem_withStatus hkeyed hsorted
  obtain ⟨w₁, htakeUp₁, hrest₁⟩ := Sweep.takeUp_withStatus .pending
    (s := { began := w.next, threshold := threshold }) (hw.recovers hnow)
    (hnow.ticks.toNanos_next_le hw.ascends) hkeyed hsorted fun n hn => by
      obtain ⟨hstored, hpending⟩ := (hmem₁ n).mp hn
      obtain ⟨hawait, hdue⟩ := hawaits n hstored (by rw [hpending]; rfl)
      exact ⟨hawait.recovers hnow nofun, hdue⟩
  have hfirst : w.Recovers render (w.now.2.store.withStatus .pending) w₁ :=
    hnow.append hrest₁ nofun
  have hw₁ := hw.recovers hfirst
  -- the second pass: the rows whose workers were lost
  have hmem₂ (n : Notice) : n ∈ w₁.store.withStatus .processing ↔
      w.store.rows.find? n.id = some n ∧ n.status = .processing :=
    hfirst.mem_withStatus hkeyed hsorted fun n hn => (hmem₁ n).mp hn
  have hdisjoint : ∀ n ∈ w.now.2.store.withStatus .pending,
      ∀ m ∈ w₁.store.withStatus .processing, m.id ≠ n.id := by
    intro n hn m hm heq
    obtain ⟨hn, hpending⟩ := (hmem₁ n).mp hn
    obtain ⟨hm, hprocessing⟩ := (hmem₂ m).mp hm
    rw [heq, hn] at hm
    cases hm
    rw [hpending] at hprocessing
    cases hprocessing
  obtain ⟨w₂, htakeUp₂, hsecond⟩ := Sweep.takeUp_withStatus .processing
    (s := { began := w.next, threshold := threshold,
            report := ({} : Sweep.Report).recovered .pending
              (w.now.2.store.withStatus Sweep.Pass.pending.status).length }) hw₁
    (hfirst.ticks.toNanos_next_le hw.ascends) (hfirst.keyed hkeyed) (hfirst.sorted hsorted)
    fun n hn => by
      obtain ⟨hstored, hprocessing⟩ := (hmem₂ n).mp hn
      obtain ⟨hawait, hdue⟩ := hawaits n hstored (by rw [hprocessing]; rfl)
      exact ⟨hawait.recovers hfirst fun m hm heq => hdisjoint m hm n hn heq.symm, hdue⟩
  have hsecond : w₁.Recovers render (w₁.store.withStatus .processing) w₂ := hsecond
  refine ⟨_, (({} : Sweep.Report).recovered .pending
      (w.now.2.store.withStatus .pending).length).recovered .processing
      (w₁.store.withStatus .processing).length, w₂, ?_,
    hfirst.append hsecond hdisjoint, ?_, ?_, ?_, rfl, rfl⟩
  · exact Sweep.sweep_of_takeUp (storeFails_of_nil (hw.reliable .list)) htakeUp₁
      (storeFails_of_nil (hw₁.reliable .list)) htakeUp₂
  · exact perm_unfinished hkeyed hsorted
      (Store.nodup_of_ids (Store.nodup_ids_withStatus hkeyed hsorted _))
      (Store.nodup_of_ids
        (Store.nodup_ids_withStatus (hfirst.keyed hkeyed) (hfirst.sorted hsorted) _))
      hmem₁ hmem₂
  · rw [List.length_append]
    show (0 + _) + (0 + _) = _
    omega
  · rw [List.length_append]
    show (0 + _) + _ = _
    omega

/-- Behind such a sweep every row is final: those on which there was work to do have become what
their bookings ask for, and the others are as they were. -/
theorem Recovers.final {rows : List Notice} {w' : World} (h : w.Recovers render rows w')
    (hperm : rows.Perm w.store.unfinished) (hkeyed : w.store.Keyed)
    (hsorted : w.store.rows.Sorted) {id : NoticeId} {m : Notice}
    (hm : w'.store.rows.find? id = some m) : m.status.isFinal = true := by
  by_cases htaken : ∃ n ∈ rows, n.id = id
  · obtain ⟨n, hn, rfl⟩ := htaken
    obtain ⟨k, hk, -, hfinal, -⟩ := h.recovered n hn
    rw [hm] at hk
    cases hk
    exact hfinal
  · rw [h.others id fun n hn hid => htaken ⟨n, hn, hid⟩] at hm
    obtain rfl := hkeyed id m hm
    cases hopen : m.status.isFinal with
    | true => rfl
    | false =>
      have hmem := (Store.mem_unfinished hkeyed hsorted).mpr ⟨hm, hopen⟩
      exact absurd ⟨m, hperm.mem_iff.mpr hmem, rfl⟩ htaken

theorem Recovers.unfinished_eq_nil {rows : List Notice} {w' : World}
    (h : w.Recovers render rows w') (hperm : rows.Perm w.store.unfinished)
    (hkeyed : w.store.Keyed) (hsorted : w.store.rows.Sorted) : w'.store.unfinished = [] := by
  refine List.filter_eq_nil_iff.mpr fun n hn => ?_
  have hstored := (Store.mem_values (h.keyed hkeyed) (h.sorted hsorted)).mp hn
  simp [h.final hperm hkeyed hsorted hstored]

/-- A sweep that finds no work to do reports none. -/
theorem sweep_of_unfinished_nil (hw : w.Clear render) (hkeyed : w.store.Keyed)
    (hsorted : w.store.rows.Sorted) (hnone : w.store.unfinished = []) (threshold : Nat) :
    (w.sweep threshold).1 = .ok {} := by
  obtain ⟨rows, report, w', hsweep, -, hperm, hpasses, hresumed, hskipped, hfailed⟩ :=
    sweep_takes hw hkeyed hsorted threshold (by rw [hnone]; nofun)
  rw [hnone] at hperm
  rw [hperm.length_eq, List.length_nil] at hpasses hresumed
  rw [hsweep]
  obtain ⟨orphaned, stale, resumed, skipped, failed⟩ := report
  simp only at hpasses hresumed hskipped hfailed
  rw [hresumed, hskipped, hfailed, Nat.eq_zero_of_add_eq_zero_right hpasses,
    Nat.eq_zero_of_add_eq_zero_left hpasses]

/-- A row that was final is none of those that are taken up. -/
theorem Recovers.others_of_final {rows : List Notice} {w' : World} (h : w.Recovers render rows w')
    (hperm : rows.Perm w.store.unfinished) (hkeyed : w.store.Keyed)
    (hsorted : w.store.rows.Sorted) {id : NoticeId}
    (hfinal : ∀ n, w.store.rows.find? id = some n → n.status.isFinal = true) :
    w'.store.rows.find? id = w.store.rows.find? id := by
  refine h.others id fun n hn hid => ?_
  obtain ⟨hstored, hopen⟩ := (Store.mem_unfinished hkeyed hsorted).mp (hperm.mem_iff.mp hn)
  rw [hfinal n (hid ▸ hstored)] at hopen
  cases hopen

/-- Nothing gets in the way of a sweep, and every row on which there is work to do is overdue and
has its records. Then the sweep takes up just these rows, and every one of them ends as its booking
asks; those whose booking is confirmed or cancelled are told once each. Rows that were final before
stay as they were, whatever their bookings say now. Another sweep behind it has nothing to do. -/
theorem sweep_recovers (hw : w.Clear render) (hfiled : w.store.Filed)
    (hsorted : w.store.rows.Sorted) {threshold : Nat}
    (hoverdue : ∀ n ∈ w.store.unfinished, w.Overdue threshold n) :
    let done := (w.sweep threshold).2
    (∃ report, (w.sweep threshold).1 = .ok report ∧
      report.resumed = w.store.unfinished.length ∧
      report.resumed = report.orphaned + report.stale ∧ report.skipped = 0 ∧ report.failed = 0) ∧
    (∀ id m, done.store.rows.find? id = some m → m.status.isFinal = true) ∧
    (∀ n ∈ w.store.unfinished, ∃ m b, done.store.rows.find? n.id = some m ∧ n.Kin m ∧
      w.registry.bookings.find? n.booking = some b ∧
      (m.status, m.document) = match b.status with
        | .confirmed => (.success, Notice.documentName n.booking)
        | .cancelled => (.success, "")
        | .initializing | .pending => (.failed, "")) ∧
    (∀ id, (∀ n, w.store.rows.find? id = some n → n.status.isFinal = true) →
      done.store.rows.find? id = w.store.rows.find? id) ∧
    (∃ (told : List Notice) (mails : List Mail.Message), told.Nodup ∧
      (∀ n, n ∈ told ↔ n ∈ w.store.unfinished ∧
        ∃ b, w.registry.bookings.find? n.booking = some b ∧
          (b.status = .confirmed ∨ b.status = .cancelled)) ∧
      told.map (fun n => w.registry.mail? render n.booking) = mails.map some ∧
      told.map (fun n => w.registry.address? n.booking) =
        mails.map (fun m => some m.recipient) ∧
      done.outbox.sent = w.outbox.sent ++ mails) ∧
    ∀ threshold', (done.sweep threshold').1 = .ok {} := by
  intro done
  have hkeyed := hfiled.keyed
  obtain ⟨rows, report, w', hsweep, hrecovers, hperm, hpasses, hresumed, hskipped, hfailed⟩ :=
    sweep_takes hw hkeyed hsorted threshold fun n hn =>
      ⟨(hoverdue n hn).awaits hfiled ((Store.mem_unfinished hkeyed hsorted).mp hn).1,
        (hoverdue n hn).overdue⟩
  have hdone : done = w' := congrArg Prod.snd hsweep
  rw [hdone, hsweep]
  have honce : rows.Nodup := hperm.nodup_iff.mpr ((Store.nodup_values hkeyed hsorted).filter _)
  have hmails := map_filter_isSome (fun n : Notice => w.registry.mail? render n.booking) rows
  refine ⟨⟨report, rfl, hresumed.trans hperm.length_eq, hresumed.trans hpasses.symm, hskipped,
    hfailed⟩, fun id m hm => hrecovers.final hperm hkeyed hsorted hm, fun n hn => ?_,
    fun id hfinal => hrecovers.others_of_final hperm hkeyed hsorted hfinal,
    ⟨_, _, honce.filter _, fun n => ?_, hmails, ?_, hrecovers.sent⟩, fun threshold' => ?_⟩
  · obtain ⟨m, hm, hkin, -, hending⟩ := hrecovers.recovered n (hperm.mem_iff.mpr hn)
    obtain ⟨b, -, hb, -⟩ := (hoverdue n hn).complete
    rw [Registry.ending?_of_find? hb] at hending
    exact ⟨m, b, hm, hkin, hb, (Option.some.inj hending).symm⟩
  · rw [List.mem_filter, hperm.mem_iff]
    exact and_congr_right fun hn => Registry.isSome_mail?_iff (hoverdue n hn).complete render
  · rw [← Function.comp_def, ← List.map_map] at hmails ⊢
    exact Registry.map_address? hmails
  · exact sweep_of_unfinished_nil (hw.recovers hrecovers) (hrecovers.keyed hkeyed)
      (hrecovers.sorted hsorted) (hrecovers.unfinished_eq_nil hperm hkeyed hsorted) threshold'

/-- One row waits and one is claimed, both for five seconds, and one has failed already although its
booking is cancelled. -/
def leftBehind : World :=
  { threeBookings with
    store := ((((({} : Store).seed ⟨⟨1⟩, ⟨7⟩, .pending, "", ⟨-5, 0⟩, ⟨-5, 0⟩⟩).2.seed
      ⟨⟨2⟩, ⟨9⟩, .processing, "", ⟨-5, 0⟩, ⟨-5, 0⟩⟩).2).seed
      ⟨⟨3⟩, ⟨8⟩, .failed, "", ⟨-5, 0⟩, ⟨-5, 0⟩⟩).2 }

theorem leftBehind_clear :
    leftBehind.Clear fun p => ("invoice " ++ p.booking.toText ++ " " ++ p.item).toUTF8 where
  toHealthy :=
    ⟨fun _ => rfl, fun _ => rfl, fun _ _ => rfl, fun _ => rfl, fun _ => rfl, fun _ => rfl⟩
  accepts _ := rfl
  keyed := by
    have hfixtures : (((({} : Registry).putUser ⟨⟨3⟩, "ada@example.org", "Ada"⟩).putShowtime ⟨11⟩
        ⟨"Metropolis", "Odeon", "Berlin", "1", 0, 9180000⟩).putSeat ⟨⟨12⟩, "E5"⟩).Keyed :=
      fun _ _ h => nomatch h
    exact ((hfixtures.putBooking _).putBooking _).putBooking _
  ascends i := by
    show ((i : Int) * Timestamp.nanosPerSecond + 0) ≤
      ((i + 1 : Nat) : Int) * Timestamp.nanosPerSecond + 0
    unfold Timestamp.nanosPerSecond
    omega

theorem leftBehind_filed : leftBehind.store.Filed ∧ leftBehind.store.rows.Sorted :=
  ⟨((Store.Filed.empty.seed (by decide)).seed (by decide)).seed (by decide),
    Store.sorted_seed (Store.sorted_seed (Store.sorted_seed Table.Sorted.nil _) _) _⟩

theorem leftBehind_overdue :
    ∀ n ∈ leftBehind.store.unfinished, leftBehind.Overdue 5000000000 n := by
  have hrows : leftBehind.store.unfinished = [⟨⟨1⟩, ⟨7⟩, .pending, "", ⟨-5, 0⟩, ⟨-5, 0⟩⟩,
      ⟨⟨2⟩, ⟨9⟩, .processing, "", ⟨-5, 0⟩, ⟨-5, 0⟩⟩] := by decide +kernel
  intro n hn
  rw [hrows] at hn
  simp only [List.mem_cons, List.not_mem_nil, or_false] at hn
  rcases hn with rfl | rfl <;>
    exact ⟨⟨_, _, rfl, rfl, fun _ => ⟨⟨_, rfl⟩, _, rfl⟩⟩, rfl, by decide +kernel⟩

/-- The two rows are recovered. -/
theorem left_behind_is_recovered :
    leftBehind.Clear (fun p => ("invoice " ++ p.booking.toText ++ " " ++ p.item).toUTF8) ∧
    leftBehind.store.Filed ∧ leftBehind.store.rows.Sorted ∧
    (∀ n ∈ leftBehind.store.unfinished, leftBehind.Overdue 5000000000 n) ∧
    let done := (leftBehind.sweep 5000000000).2
    (∃ report, (leftBehind.sweep 5000000000).1 = .ok report ∧ report.resumed = 2 ∧
      report.failed = 0) ∧
    (∃ m, done.store.rows.find? ⟨1⟩ = some m ∧ m.status = .success ∧
      m.document = "pdf_invoice_7.pdf") ∧
    (∃ m, done.store.rows.find? ⟨2⟩ = some m ∧ m.status = .failed) ∧
    done.store.rows.find? ⟨3⟩ = leftBehind.store.rows.find? ⟨3⟩ ∧
    ∀ threshold', (done.sweep threshold').1 = .ok {} := by
  obtain ⟨hfiled, hsorted⟩ := leftBehind_filed
  refine ⟨leftBehind_clear, hfiled, hsorted, leftBehind_overdue, ?_⟩
  obtain ⟨⟨report, hok, hresumed, -, -, hfailed⟩, -, hrows, hothers, -, hagain⟩ :=
    sweep_recovers leftBehind_clear hfiled hsorted leftBehind_overdue
  have hcount : leftBehind.store.unfinished.length = 2 := by decide +kernel
  refine ⟨⟨report, hok, hresumed.trans hcount, hfailed⟩, ?_, ?_, hothers _ ?_, hagain⟩
  · obtain ⟨m, b, hm, -, hb, hending⟩ :=
      hrows ⟨⟨1⟩, ⟨7⟩, .pending, "", ⟨-5, 0⟩, ⟨-5, 0⟩⟩ (by decide +kernel)
    cases hb
    exact ⟨m, hm, congrArg Prod.fst hending, (congrArg Prod.snd hending).trans (by decide +kernel)⟩
  · obtain ⟨m, b, hm, -, hb, hending⟩ :=
      hrows ⟨⟨2⟩, ⟨9⟩, .processing, "", ⟨-5, 0⟩, ⟨-5, 0⟩⟩ (by decide +kernel)
    cases hb
    exact ⟨m, hm, congrArg Prod.fst hending⟩
  · intro n hn
    cases hn
    rfl

/-- The third row stays as it is: its booking is cancelled and asks for a success, but the row has
failed before. -/
theorem failed_row_is_not_revised :
    leftBehind.Clear (fun p => ("invoice " ++ p.booking.toText ++ " " ++ p.item).toUTF8) ∧
    leftBehind.store.Filed ∧ leftBehind.store.rows.Sorted ∧ leftBehind.store.bookings.Nodup ∧
    (∀ n ∈ leftBehind.store.unfinished, leftBehind.Overdue 5000000000 n) ∧
    (∀ n ∈ leftBehind.store.rows.values, leftBehind.registry.Complete n.booking) ∧
    ∃ row, (leftBehind.sweep 5000000000).2.store.rows.find? ⟨3⟩ = some row ∧
      row.status = .failed ∧ leftBehind.registry.ending? row.booking = some (.success, "") := by
  obtain ⟨hfiled, hsorted⟩ := leftBehind_filed
  refine ⟨leftBehind_clear, hfiled, hsorted, by decide +kernel, leftBehind_overdue, ?_,
    ⟨⟨3⟩, ⟨8⟩, .failed, "", ⟨-5, 0⟩, ⟨-5, 0⟩⟩, by decide +kernel, rfl, by decide +kernel⟩
  have hrows : leftBehind.store.rows.values.map (·.booking) = [⟨7⟩, ⟨9⟩, ⟨8⟩] := by decide +kernel
  intro n hn
  have hbooking : n.booking ∈ leftBehind.store.rows.values.map (·.booking) :=
    List.mem_map.mpr ⟨n, hn, rfl⟩
  rw [hrows] at hbooking
  simp only [List.mem_cons, List.not_mem_nil, or_false] at hbooking
  rcases hbooking with h | h | h <;> rw [h] <;>
    exact ⟨_, _, rfl, rfl, fun _ => ⟨⟨_, rfl⟩, _, rfl⟩⟩

end World

end BookingNotices
