import BookingNotices.Proofs.Attempts
import BookingNotices.Proofs.Room

/-!
# Both passes of a sweep

* `Report.tally`      : what a report says of the attempts of both passes (`tally_balanced`);
* `World.Regular`     : the store is a map, and no leap second is involved;
* `Passes.disjoint`   : no row is attempted in both passes;
* `sweep_attempts`    : a sweep attempts every row that was left behind, and each of them once, as
  far as its listings succeed (`overdue_rows_are_missed_or_repeated`).

The rows of the second pass are listed when the first has ended. By then the first may have claimed
rows whose work failed. Such a row shows a reading of the clock since the sweep began, so it is not
overdue, and it stands behind the rows that are.
-/

namespace BookingNotices

namespace Sweep

/-! ## The report -/

namespace Report

/-- How many attempts there were in each pass, and how many of all of them ended in each way. -/
def tally (orphaned stale : List (Except Notice.Error Worker.Outcome)) : Report where
  orphaned := orphaned.length
  stale := stale.length
  resumed := (orphaned ++ stale).countP fun e => match e with
    | .ok (.completed _) => true
    | _ => false
  skipped := (orphaned ++ stale).countP fun e => match e with
    | .ok .alreadyHandled => true
    | _ => false
  failed := (orphaned ++ stale).countP fun e => match e with
    | .error _ => true
    | _ => false

theorem tally_snoc_orphaned (orphaned : List (Except Notice.Error Worker.Outcome))
    (e : Except Notice.Error Worker.Outcome) :
    ((tally orphaned []).attempt .pending).record e = tally (orphaned ++ [e]) [] := by
  rcases e with _ | _ | _ <;> simp [tally, attempt, record]

theorem tally_snoc_stale (orphaned stale : List (Except Notice.Error Worker.Outcome))
    (e : Except Notice.Error Worker.Outcome) :
    ((tally orphaned stale).attempt .processing).record e = tally orphaned (stale ++ [e]) := by
  rcases e with _ | _ | _ <;> simp [tally, attempt, record, Nat.add_assoc]

theorem foldl_orphaned (results orphaned : List (Except Notice.Error Worker.Outcome)) :
    results.foldl (fun r e => (r.attempt .pending).record e) (tally orphaned []) =
      tally (orphaned ++ results) [] := by
  induction results generalizing orphaned with
  | nil => simp
  | cons e results ih => rw [List.foldl_cons, tally_snoc_orphaned, ih, List.append_assoc]; rfl

theorem foldl_stale (results orphaned stale : List (Except Notice.Error Worker.Outcome)) :
    results.foldl (fun r e => (r.attempt .processing).record e) (tally orphaned stale) =
      tally orphaned (stale ++ results) := by
  induction results generalizing stale with
  | nil => simp
  | cons e results ih => rw [List.foldl_cons, tally_snoc_stale, ih, List.append_assoc]; rfl

/-- Every attempt ends in one of three ways. -/
theorem tally_balanced (orphaned stale : List (Except Notice.Error Worker.Outcome)) :
    (tally orphaned stale).orphaned + (tally orphaned stale).stale =
      (tally orphaned stale).resumed + (tally orphaned stale).skipped +
        (tally orphaned stale).failed := by
  unfold tally
  dsimp only
  rw [← List.length_append]
  induction orphaned ++ stale with
  | nil => rfl
  | cons e results ih => rcases e with _ | _ | _ <;> simp <;> omega

end Report

end Sweep

/-! ## Both passes -/

namespace World

variable {w w' w₁ : World}

/-- The store is a map, and neither the clock nor a row shows a leap second. -/
structure Regular (w : World) : Prop where
  keyed : w.store.Keyed
  sorted : w.store.rows.Sorted
  clock : ∀ i, (w.clock.answer i).IsRegular
  rows : ∀ n, w.store.rows.find? n.id = some n → n.updated.IsRegular

section Between

variable {ids : List NoticeId} (htouches : w.now.2.Touches ids w₁) {n : Notice}
  (hn : w₁.store.rows.find? n.id = some n) (hprocessing : n.status = .processing)

include htouches hn hprocessing

/-- What is claimed when the first pass has ended does not show a leap second. -/
theorem Regular.updated (h : w.Regular) : n.updated.IsRegular := by
  rcases htouches.claimed n.id n hn hprocessing with hbefore | ⟨i, -, hreading⟩
  · exact h.rows n hbefore
  · rw [hreading]
    exact h.clock i

/-- What was claimed since the sweep began shows an instant since then. -/
theorem next_le_updated (hrising : w.clock.Rising) (hnot : w.store.rows.find? n.id ≠ some n) :
    w.next ≤ n.updated := by
  rcases htouches.claimed n.id n hn hprocessing with hbefore | ⟨i, hi, hreading⟩
  · exact absurd hbefore hnot
  · rw [hreading]
    exact hrising.le (Nat.le_refl _) (Nat.le_of_succ_le hi)

end Between

/-- What the first pass of a sweep touches, with the listings before and behind it. -/
theorem Passes.touches_between {threshold : Nat} {orphaned : List Notice}
    {results : List (Except Notice.Error Worker.Outcome)} {w₀ w₂ : World} (h : w.Regular)
    (hlisted : w.now.2.Calls w₀)
    (hfirst : w₀.Passes (·.isOrphaned w.next threshold) process orphaned results w₁)
    (hlisted' : w₁.Calls w₂) : w.now.2.Touches (orphaned.map (·.id)) w₂ := by
  have hstore : w₀.store = w.store := hlisted.aside.store
  have htouches := hfirst.touches confined_process (hstore ▸ h.keyed)
  exact ((hlisted.touches _).trans htouches).trans (hlisted'.touches _)

/-- No row is attempted in both passes: the first leaves none of its rows claimed and overdue. -/
theorem Passes.disjoint {threshold : Nat} {orphaned stale : List Notice}
    {results results' : List (Except Notice.Error Worker.Outcome)} {w₀ w₂ : World} (h : w.Regular)
    (hrising : w.clock.Rising) (hpos : 0 < threshold) (hlisted : w.now.2.Calls w₀)
    (hfirst : w₀.Passes (·.isOrphaned w.next threshold) process orphaned results w₁)
    (hlisted' : w₁.Calls w₂)
    (hsecond : w₂.Passes (·.isStale w.next threshold) (resume · · threshold) stale results' w') :
    ∀ n ∈ orphaned, ∀ m ∈ stale, n.id ≠ m.id := by
  intro n hn m hm hid
  obtain ⟨hstored, horphaned⟩ := (hfirst.mem_iff n).mp hn
  obtain ⟨hleft, hstale⟩ := (hsecond.mem_iff m).mp hm
  unfold Notice.isOrphaned at horphaned
  unfold Notice.isStale at hstale
  rw [Bool.and_eq_true, decide_eq_true_eq] at horphaned hstale
  obtain ⟨hprocessing, hoverdue⟩ := hstale
  have hstore : w₀.store = w.store := hlisted.aside.store
  have htouches := hfirst.touches_between h hlisted hlisted'
  have hnot : w.store.rows.find? m.id ≠ some m := by
    intro hbefore
    have hsame : some n = some m := by
      rw [← hstored, ← hbefore, hid, hstore]
    rw [Option.some.inj hsame, hprocessing] at horphaned
    cases horphaned.1
  have hle := next_le_updated htouches hleft hprocessing hrising hnot
  have hregular := h.updated htouches hleft hprocessing
  rw [Notice.isOverdue_of_le hle (h.clock _) hregular hpos] at hoverdue
  cases hoverdue

/-- What a sweep does when its first listing is behind it: it attempts all rows that wait and are
overdue at the instant at which it began. -/
theorem Regular.first_pass (h : w.Regular) (threshold : Nat) {w₀ : World}
    (hlisted : w.now.2.Calls w₀) : ∃ orphaned results w₁,
      w₀.Passes (·.isOrphaned w.next threshold) process orphaned results w₁ ∧
      Sweep.takeUp .pending (w₀.store.withStatus .pending)
          { began := w.next, threshold := threshold } w₀ =
        ({ began := w.next, threshold := threshold, report := .tally results [] }, w₁) := by
  have hstore : w₀.store = w.store := hlisted.aside.store
  obtain ⟨orphaned, results, w₁, hfirst, htakeUp⟩ := Sweep.passes_withStatus .pending
    (w := w₀) (s := { began := w.next, threshold := threshold }) (hstore ▸ h.keyed)
    (hstore ▸ h.sorted) fun n hn _ => h.rows n (hstore ▸ hn)
  have hreport := congrArg
    (fun r => (({ began := w.next, threshold := threshold, report := r } : Sweep), w₁))
    (Sweep.Report.foldl_orphaned results [])
  exact ⟨orphaned, results, w₁, hfirst, htakeUp.trans hreport⟩

/-- The store is a map, and neither the clock nor a row shows a leap second; the service's own clock
never does. If the first listing of a sweep fails, then so does the sweep, and it attempts nothing.
Otherwise it attempts all rows that wait and are overdue at the instant at which it began. If then
the second listing fails, so does the sweep, and it attempts nothing more. Otherwise it attempts all
rows that are claimed by then and are overdue at the same instant, and its report counts these
attempts, and how each of them ended.

In a pass each row is attempted once, in the order in which rows are taken up, and no other row is
touched. If the threshold is positive and the clock never goes back, no row is attempted in both
passes. -/
theorem sweep_attempts (h : w.Regular) (threshold : Nat) :
    (∀ w', w.now.2.storeFails .list = (true, w') →
      w.sweep threshold = (.error StoreCall.list.failure, w') ∧ w'.store = w.store) ∧
    ∀ w₀, w.now.2.storeFails .list = (false, w₀) → ∃ orphaned results w₁,
      w₀.store = w.store ∧
      w₀.Passes (·.isOrphaned w.next threshold) process orphaned results w₁ ∧
      (∀ w', w₁.storeFails .list = (true, w') →
        w.sweep threshold = (.error StoreCall.list.failure, w') ∧ w'.store = w₁.store ∧
        ∀ id, id ∉ orphaned.map (·.id) →
          w'.store.rows.find? id = w.store.rows.find? id) ∧
      ∀ w₂, w₁.storeFails .list = (false, w₂) → ∃ report w' stale results',
        w.sweep threshold = (.ok report, w') ∧ w₂.store = w₁.store ∧
        w₂.Passes (·.isStale w.next threshold) (resume · · threshold) stale results' w' ∧
        report = .tally results results' ∧
        report.orphaned = orphaned.length ∧ report.stale = stale.length ∧
        report.orphaned + report.stale = report.resumed + report.skipped + report.failed ∧
        (∀ id, id ∉ (orphaned ++ stale).map (·.id) →
          w'.store.rows.find? id = w.store.rows.find? id) ∧
        (0 < threshold → w.clock.Rising → ((orphaned ++ stale).map (·.id)).Nodup) := by
  refine ⟨fun w' hfails => ⟨Sweep.sweep_of_fault hfails, (Calls.of_storeFails hfails).aside.store⟩,
    fun w₀ hlists => ?_⟩
  have hlisted := Calls.of_storeFails hlists
  have hstore : w₀.store = w.store := hlisted.aside.store
  obtain ⟨orphaned, results, w₁, hfirst, htakeUp⟩ := h.first_pass threshold hlisted
  have hothers (id : NoticeId) (hid : id ∉ orphaned.map (·.id)) :
      w₁.store.rows.find? id = w.store.rows.find? id := by
    rw [hfirst.others id hid, hstore]
  refine ⟨orphaned, results, w₁, hstore, hfirst, fun w' hfails => ?_, fun w₂ hlists' => ?_⟩
  · have hsame : w'.store = w₁.store := (Calls.of_storeFails hfails).aside.store
    refine ⟨Sweep.sweep_of_second_fault hlists htakeUp hfails, hsame, fun id hid => ?_⟩
    rw [hsame]
    exact hothers id hid
  · have hlisted' := Calls.of_storeFails hlists'
    have hstore' : w₂.store = w₁.store := hlisted'.aside.store
    have htouches := hfirst.touches_between h hlisted hlisted'
    obtain ⟨stale, results', w', hsecond, htakeUp'⟩ := Sweep.passes_withStatus .processing
      (s := { began := w.next, threshold := threshold, report := .tally results [] })
      (htouches.keyed h.keyed) (htouches.sorted h.sorted) fun n => h.updated htouches
    rw [Sweep.Report.foldl_stale] at htakeUp'
    refine ⟨.tally results results', w', stale, results',
      Sweep.sweep_of_takeUp hlists htakeUp hlists' htakeUp', hstore', hsecond, rfl,
      hfirst.length_results, hsecond.length_results, Sweep.Report.tally_balanced _ _, ?_, ?_⟩
    · intro id hid
      rw [List.map_append, List.mem_append, not_or] at hid
      rw [hsecond.others id hid.2, hstore', hothers id hid.1]
    · intro hpos hrising
      rw [List.map_append]
      apply List.nodup_append.mpr
      refine ⟨hfirst.once, hsecond.once, ?_⟩
      have hdisjoint := Passes.disjoint h hrising hpos hlisted hfirst hlisted' hsecond
      simpa using hdisjoint

/-- All records are gone. One row waits and one is claimed, both for five seconds, and a third is
dated a minute ahead. -/
def withoutRecords : World where
  clock := ⟨fun i => ⟨i, 0⟩, 0⟩
  ids := .constant ""
  store := ((((({} : Store).seed ⟨⟨1⟩, ⟨7⟩, .pending, "", ⟨-5, 0⟩, ⟨-5, 0⟩⟩).2.seed
    ⟨⟨2⟩, ⟨9⟩, .processing, "", ⟨-5, 0⟩, ⟨-5, 0⟩⟩).2).seed
    ⟨⟨3⟩, ⟨8⟩, .pending, "", ⟨60, 0⟩, ⟨60, 0⟩⟩).2

theorem filed_withoutRecords : withoutRecords.store.Keyed ∧ withoutRecords.store.rows.Sorted :=
  ⟨((Store.Keyed.empty.seed _).seed _).seed _,
    Store.sorted_seed (Store.sorted_seed (Store.sorted_seed Table.Sorted.nil _) _) _⟩

theorem rows_withoutRecords {n : Notice} (h : withoutRecords.store.rows.find? n.id = some n) :
    n = ⟨⟨1⟩, ⟨7⟩, .pending, "", ⟨-5, 0⟩, ⟨-5, 0⟩⟩ ∨
      n = ⟨⟨2⟩, ⟨9⟩, .processing, "", ⟨-5, 0⟩, ⟨-5, 0⟩⟩ ∨
      n = ⟨⟨3⟩, ⟨8⟩, .pending, "", ⟨60, 0⟩, ⟨60, 0⟩⟩ := by
  have hrows : withoutRecords.store.rows.values =
      [⟨⟨1⟩, ⟨7⟩, .pending, "", ⟨-5, 0⟩, ⟨-5, 0⟩⟩, ⟨⟨2⟩, ⟨9⟩, .processing, "", ⟨-5, 0⟩, ⟨-5, 0⟩⟩,
        ⟨⟨3⟩, ⟨8⟩, .pending, "", ⟨60, 0⟩, ⟨60, 0⟩⟩] := by decide +kernel
  have hmem := (Store.mem_values filed_withoutRecords.1 filed_withoutRecords.2).mpr h
  rw [hrows] at hmem
  simpa using hmem

theorem regular_withoutRecords : withoutRecords.Regular where
  keyed := filed_withoutRecords.1
  sorted := filed_withoutRecords.2
  clock _ := by
    show 0 < 1000000000
    decide
  rows n hn := by
    show n.updated.nanos < 1000000000
    rcases rows_withoutRecords hn with rfl | rfl | rfl <;> decide

theorem rising_withoutRecords : withoutRecords.clock.Rising := by
  intro i _
  apply (Timestamp.le_iff _ _).mpr
  apply Or.inl
  show (i : Int) < (i + 1 : Nat)
  omega

/-- The first pass takes up the first row only. -/
theorem Passes.first_withoutRecords {w₀ : World} {orphaned : List Notice}
    {results : List (Except Notice.Error Worker.Outcome)}
    (hfirst : w₀.Passes (·.isOrphaned withoutRecords.next 5000000000) process orphaned results w₁)
    (hstore : w₀.store = withoutRecords.store) :
    orphaned = [⟨⟨1⟩, ⟨7⟩, .pending, "", ⟨-5, 0⟩, ⟨-5, 0⟩⟩] ∧
      results = [(w₀.process ⟨1⟩).1] ∧ w₁ = (w₀.process ⟨1⟩).2 := by
  have horphans : orphaned = [⟨⟨1⟩, ⟨7⟩, .pending, "", ⟨-5, 0⟩, ⟨-5, 0⟩⟩] := by
    apply hfirst.eq_singleton
    · rw [hstore]
      decide +kernel
    · decide +kernel
    · intro n hn hdue
      rw [hstore] at hn
      rcases rows_withoutRecords hn with rfl | rfl | rfl
      · rfl
      · exact absurd hdue (by decide +kernel)
      · exact absurd hdue (by decide +kernel)
  subst horphans
  exact ⟨rfl, (congrArg Prod.fst hfirst.attempts).symm, (congrArg Prod.snd hfirst.attempts).symm⟩

/-- The first row is claimed and its work fails. It is not attempted again in the second pass,
which takes up the other claimed row; the row from the future is left alone. -/
theorem failed_attempt_is_not_repeated :
    withoutRecords.Regular ∧ (∀ c, withoutRecords.storeFaults c = []) ∧
    withoutRecords.clock.Rising ∧
    ∃ report w', withoutRecords.sweep 5000000000 = (.ok report, w') ∧
      report.orphaned = 1 ∧ report.stale = 1 ∧ 1 ≤ report.failed ∧
      w'.store.rows.find? ⟨1⟩ = some ⟨⟨1⟩, ⟨7⟩, .processing, "", ⟨-5, 0⟩, ⟨1, 0⟩⟩ ∧
      w'.store.rows.find? ⟨3⟩ = withoutRecords.store.rows.find? ⟨3⟩ := by
  refine ⟨regular_withoutRecords, fun _ => rfl, rising_withoutRecords, ?_⟩
  obtain ⟨orphaned, results, w₁, -, hfirst, -, hrest⟩ :=
    (sweep_attempts regular_withoutRecords 5000000000).2 withoutRecords.now.2 rfl
  obtain ⟨rfl, rfl, rfl⟩ := hfirst.first_withoutRecords rfl
  obtain ⟨e, hrun⟩ : ∃ e, withoutRecords.now.2.process ⟨1⟩ =
      (.error e, ((Worker.claiming ⟨1⟩).twice withoutRecords.now.2).2) :=
    Worker.run_of_twice rfl (by decide +kernel) (by decide +kernel)
  rw [hrun] at hfirst hrest
  have hclaimed : ((Worker.claiming ⟨1⟩).twice withoutRecords.now.2).2.store.rows.find? ⟨1⟩ =
      some ⟨⟨1⟩, ⟨7⟩, .processing, "", ⟨-5, 0⟩, ⟨1, 0⟩⟩ := by decide +kernel
  obtain ⟨report, w', stale, results', hsweep, -, hsecond, htally, horphaned, hstale, -, hothers,
    honce⟩ := hrest _ (storeFails_of_nil rfl)
  have honce := honce (by decide) rising_withoutRecords
  -- the second pass takes up the second row only
  have hstales : stale = [⟨⟨2⟩, ⟨9⟩, .processing, "", ⟨-5, 0⟩, ⟨-5, 0⟩⟩] := by
    apply hsecond.eq_singleton
    · rw [hfirst.others ⟨2⟩ (by decide)]
      decide +kernel
    · decide +kernel
    · intro n hn hdue
      have hne : n.id ≠ ⟨1⟩ := by
        intro hid
        have hmem := List.mem_map_of_mem (f := (·.id)) ((hsecond.mem_iff n).mpr ⟨hn, hdue⟩)
        rw [hid] at hmem
        exact (List.nodup_cons.mp honce).1 hmem
      rw [hfirst.others n.id (by simpa using hne)] at hn
      rcases rows_withoutRecords hn with rfl | rfl | rfl
      · exact absurd rfl hne
      · rfl
      · exact absurd hdue (by decide +kernel)
  subst hstales
  refine ⟨report, w', hsweep, horphaned, hstale, ?_, ?_, hothers ⟨3⟩ (by decide)⟩
  · rw [htally]
    simp [Sweep.Report.tally]
  · rw [hsecond.others ⟨1⟩ (by decide)]
    exact hclaimed

/-! ## Listings that fail, and leap seconds -/

/-- The first listing of rows is made to fail. -/
def unlisted : World := withoutRecords.setFaults .list [0]

/-- The second listing of rows is made to fail. -/
def halfListed : World := withoutRecords.setFaults .list [1]

/-- The first listing fails, so nothing is attempted: no row is written, nothing is announced, and
no record is looked up. -/
theorem sweep_unlisted :
    (unlisted.sweep 5000000000).1 = .error StoreCall.list.failure ∧
    (unlisted.sweep 5000000000).2.store = unlisted.store ∧
    (unlisted.sweep 5000000000).2.bus = unlisted.bus ∧
    (unlisted.sweep 5000000000).2.registry = unlisted.registry := by
  have hsweep := @Sweep.sweep_of_fault unlisted (unlisted.now.2.setFaults .list []) 5000000000 rfl
  rw [hsweep]
  exact ⟨rfl, rfl, rfl, rfl⟩

/-- The second listing fails, so only the row is attempted that waits. -/
theorem sweep_halfListed :
    (halfListed.sweep 5000000000).1 = .error StoreCall.list.failure ∧
    (halfListed.sweep 5000000000).2.store.rows.find? ⟨1⟩ =
      some ⟨⟨1⟩, ⟨7⟩, .processing, "", ⟨-5, 0⟩, ⟨1, 0⟩⟩ ∧
    (halfListed.sweep 5000000000).2.store.rows.find? ⟨2⟩ = halfListed.store.rows.find? ⟨2⟩ := by
  have hregular : halfListed.Regular := ⟨filed_withoutRecords.1, filed_withoutRecords.2,
    regular_withoutRecords.clock, regular_withoutRecords.rows⟩
  have hlists : halfListed.now.2.storeFails .list =
    (false, halfListed.now.2.setFaults .list [0]) := rfl
  obtain ⟨orphaned, results, w₁, hfirst, htakeUp⟩ :=
    hregular.first_pass 5000000000 (Calls.of_storeFails hlists)
  obtain ⟨rfl, rfl, rfl⟩ := Passes.first_withoutRecords hfirst rfl
  obtain ⟨e, hrun⟩ : ∃ e, (halfListed.now.2.setFaults .list [0]).process ⟨1⟩ =
      (.error e, ((Worker.claiming ⟨1⟩).twice (halfListed.now.2.setFaults .list [0])).2) :=
    Worker.run_of_twice rfl (by decide +kernel) (by decide +kernel)
  rw [hrun] at htakeUp
  rw [Sweep.sweep_of_second_fault hlists htakeUp rfl]
  refine ⟨rfl, ?_, ?_⟩
  · show ((Worker.claiming ⟨1⟩).twice (halfListed.now.2.setFaults .list [0])).2.store.rows.find?
      ⟨1⟩ = _
    decide +kernel
  · show ((Worker.claiming ⟨1⟩).twice (halfListed.now.2.setFaults .list [0])).2.store.rows.find?
      ⟨2⟩ = _
    decide +kernel

/-- One row was written in a leap second, and the next one in the second behind it. -/
def leaping : World where
  clock := .constant ⟨1, 0⟩
  ids := .constant ""
  store := ((({} : Store).seed ⟨⟨1⟩, ⟨7⟩, .pending, "", ⟨-1, 1500000000⟩, ⟨-1, 1500000000⟩⟩).2.seed
    ⟨⟨2⟩, ⟨9⟩, .pending, "", ⟨0, 200000000⟩, ⟨0, 200000000⟩⟩).2

/-- The row of the leap second comes first and is not overdue, though the next one is. -/
theorem sweep_leaping : (leaping.sweep 600000000).1 = .ok {} := by
  have hpending : leaping.now.2.store.withStatus .pending =
      [⟨⟨1⟩, ⟨7⟩, .pending, "", ⟨-1, 1500000000⟩, ⟨-1, 1500000000⟩⟩,
        ⟨⟨2⟩, ⟨9⟩, .pending, "", ⟨0, 200000000⟩, ⟨0, 200000000⟩⟩] := by
    unfold Store.withStatus
    rw [List.mergeSort_of_pairwise (by decide +kernel)]
    decide +kernel
  have hprocessing : leaping.now.2.store.withStatus .processing = [] := by
    unfold Store.withStatus
    rw [List.mergeSort_of_pairwise (by decide +kernel)]
    decide +kernel
  have hfirst : Sweep.takeUp .pending (leaping.now.2.store.withStatus .pending)
      { began := leaping.next, threshold := 600000000 } leaping.now.2 =
      ({ began := leaping.next, threshold := 600000000 }, leaping.now.2) := by
    rw [hpending]
    rfl
  have hsecond : Sweep.takeUp .processing (leaping.now.2.store.withStatus .processing)
      { began := leaping.next, threshold := 600000000 } leaping.now.2 =
      ({ began := leaping.next, threshold := 600000000 }, leaping.now.2) := by
    rw [hprocessing]
    rfl
  rw [Sweep.sweep_of_takeUp rfl hfirst rfl hsecond]

/-- The clock shows a leap second first, and the second behind it next. -/
def beganInLeap : World where
  clock := ⟨fun i => if i = 0 then ⟨-1, 1500000000⟩ else ⟨i - 1, 0⟩, 0⟩
  ids := .constant ""
  store := (({} : Store).seed ⟨⟨1⟩, ⟨7⟩, .pending, "", ⟨-5, 0⟩, ⟨-5, 0⟩⟩).2

theorem rising_beganInLeap : beganInLeap.clock.Rising := by
  intro i _
  show (if i = 0 then (⟨-1, 1500000000⟩ : Timestamp) else ⟨(i : Int) - 1, 0⟩) ≤
    if i + 1 = 0 then ⟨-1, 1500000000⟩ else ⟨((i + 1 : Nat) : Int) - 1, 0⟩
  rw [if_neg (Nat.succ_ne_zero i), Timestamp.le_iff]
  split
  · exact Or.inl (by dsimp only; omega)
  · exact Or.inl (by dsimp only; omega)

/-- The row is claimed in the second behind the leap second, and counts as left behind since. -/
theorem sweep_beganInLeap : ∃ report w', beganInLeap.sweep 500000000 = (.ok report, w') ∧
    report.orphaned = 1 ∧ report.stale = 1 := by
  let first := ((Worker.claiming ⟨1⟩).twice beganInLeap.now.2).2
  obtain ⟨e, hrun⟩ : ∃ e, (Worker.claiming ⟨1⟩).run beganInLeap.now.2 = (.error e, first) :=
    Worker.run_of_twice rfl (by decide +kernel) (by decide +kernel)
  have hpending : beganInLeap.now.2.store.withStatus .pending =
      [⟨⟨1⟩, ⟨7⟩, .pending, "", ⟨-5, 0⟩, ⟨-5, 0⟩⟩] := by
    unfold Store.withStatus
    rw [List.mergeSort_of_pairwise (by decide +kernel)]
    decide +kernel
  have hprocessing : first.store.withStatus .processing =
      [⟨⟨1⟩, ⟨7⟩, .processing, "", ⟨-5, 0⟩, ⟨0, 0⟩⟩] := by
    unfold Store.withStatus
    rw [List.mergeSort_of_pairwise (by decide +kernel)]
    decide +kernel
  have hfirst : Sweep.takeUp .pending (beganInLeap.now.2.store.withStatus .pending)
      { began := beganInLeap.next, threshold := 500000000 } beganInLeap.now.2 =
      ({ began := beganInLeap.next, threshold := 500000000, report := ⟨1, 0, 0, 0, 1⟩ },
        first) := by
    rw [hpending]
    unfold Sweep.takeUp
    rw [if_pos (by decide +kernel)]
    dsimp only [Sweep.Pass.worker]
    rw [hrun]
    rfl
  have hsecond : Sweep.takeUp .processing (first.store.withStatus .processing)
      { began := beganInLeap.next, threshold := 500000000, report := ⟨1, 0, 0, 0, 1⟩ } first =
      Sweep.takeUp .processing []
        { began := beganInLeap.next, threshold := 500000000,
          report := (Sweep.Report.attempt ⟨1, 0, 0, 0, 1⟩ .processing).record
            ((Worker.renewing ⟨1⟩ 500000000).run first).1 }
        ((Worker.renewing ⟨1⟩ 500000000).run first).2 := by
    rw [hprocessing]
    conv => lhs; unfold Sweep.takeUp
    rw [if_pos (by decide +kernel)]
    rfl
  refine ⟨_, _, Sweep.sweep_of_takeUp rfl hfirst rfl hsecond, ?_, ?_⟩
  · rcases ((Worker.renewing ⟨1⟩ 500000000).run first).1 with _ | _ | _ <;> rfl
  · rcases ((Worker.renewing ⟨1⟩ 500000000).run first).1 with _ | _ | _ <;> rfl

/-- Overdue rows are left out if a listing fails: all of them if it is the first, the claimed ones
if it is the second. One is left out behind a row of a leap second, too, and a sweep that begins in
a leap second may attempt a row twice. -/
theorem overdue_rows_are_missed_or_repeated :
    ((∃ n, unlisted.store.rows.find? n.id = some n ∧
        n.isOrphaned unlisted.next 5000000000 = true) ∧
      (unlisted.sweep 5000000000).1 = .error StoreCall.list.failure ∧
      (unlisted.sweep 5000000000).2.store = unlisted.store ∧
      (unlisted.sweep 5000000000).2.bus = unlisted.bus ∧
      (unlisted.sweep 5000000000).2.registry = unlisted.registry) ∧
    ((∃ n, n.id = ⟨2⟩ ∧ n.isStale halfListed.next 5000000000 = true ∧
        halfListed.store.rows.find? ⟨2⟩ = some n ∧
        (halfListed.sweep 5000000000).2.store.rows.find? ⟨2⟩ = some n) ∧
      (halfListed.sweep 5000000000).1 = .error StoreCall.list.failure ∧
      (halfListed.sweep 5000000000).2.store.rows.find? ⟨1⟩ =
        some ⟨⟨1⟩, ⟨7⟩, .processing, "", ⟨-5, 0⟩, ⟨1, 0⟩⟩) ∧
    ((∃ n, leaping.store.rows.find? n.id = some n ∧
        n.isOrphaned leaping.next 600000000 = true) ∧
      (leaping.sweep 600000000).1 = .ok {}) ∧
    beganInLeap.clock.Rising ∧ beganInLeap.store.rows.values.length = 1 ∧
    ∃ report w', beganInLeap.sweep 500000000 = (.ok report, w') ∧
      report.orphaned = 1 ∧ report.stale = 1 := by
  obtain ⟨herror, hclaimed, hkept⟩ := sweep_halfListed
  refine ⟨⟨⟨⟨⟨1⟩, ⟨7⟩, .pending, "", ⟨-5, 0⟩, ⟨-5, 0⟩⟩, ?_, ?_⟩, sweep_unlisted⟩,
    ⟨⟨⟨⟨2⟩, ⟨9⟩, .processing, "", ⟨-5, 0⟩, ⟨-5, 0⟩⟩, rfl, ?_, ?_, hkept.trans ?_⟩,
      herror, hclaimed⟩,
    ⟨⟨⟨⟨2⟩, ⟨9⟩, .pending, "", ⟨0, 200000000⟩, ⟨0, 200000000⟩⟩, ?_, ?_⟩, sweep_leaping⟩,
    rising_beganInLeap, ?_, sweep_beganInLeap⟩
  all_goals decide +kernel

end World

end BookingNotices
