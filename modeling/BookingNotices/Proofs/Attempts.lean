import BookingNotices.Proofs.Copy
import BookingNotices.Proofs.Dispatch.Bound
import BookingNotices.Proofs.Listing
import BookingNotices.Service.Sweep

/-!
# Attempts at rows

* `World.each`        : attempts at some rows, one after the other;
* `World.Touches`     : some rows may have been worked on, and no other was touched;
* `Worker.touches_run`, `Attempt.Confined.each` : a worker touches its own row, and attempts touch
  theirs;
* `World.Passes`      : attempts at all rows of a kind that are stored, in the order in which they
  are taken up;
* `Sweep.takeUp_eq`   : a pass that ends at the first row that is not due attempts all that are;
* `Sweep.passes_withStatus` : so a listing is worked off;
* `Sweep.sweep_of_takeUp`, `sweep_of_fault`, `sweep_of_second_fault` : a sweep is its two passes, or
  fails with one of its listings.

A worker writes its own row only: it claims it, and while its claim holds it stores the outcome.
-/

namespace BookingNotices

namespace World

/-! ## Attempts in a row -/

/-- How a row is worked on. -/
abbrev Attempt : Type := World → NoticeId → Except Notice.Error Worker.Outcome × World

/-- Attempts at some rows, one after the other, and what came of each. -/
def each (attempt : Attempt) (w : World) :
    List NoticeId → List (Except Notice.Error Worker.Outcome) × World
  | [] => ([], w)
  | id :: ids =>
    let (result, w) := attempt w id
    let (results, w) := each attempt w ids
    (result :: results, w)

theorem length_each (attempt : Attempt) (ids : List NoticeId) (w : World) :
    (w.each attempt ids).1.length = ids.length := by
  induction ids generalizing w with
  | nil => rfl
  | cons id ids ih =>
    show (_ + 1) = _
    rw [ih]
    rfl

/-- Some rows may have been worked on, and no other was touched. A row that is claimed was so
before, or shows a reading of the clock that was taken since. -/
structure Touches (ids : List NoticeId) (w w' : World) : Prop extends Ticks w w' where
  faults : ∀ c, (w'.storeFaults c).length ≤ (w.storeFaults c).length
  keyed : w.store.Keyed → w'.store.Keyed
  sorted : w.store.rows.Sorted → w'.store.rows.Sorted
  others : ∀ id, id ∉ ids → w'.store.rows.find? id = w.store.rows.find? id
  claimed : ∀ id n, w'.store.rows.find? id = some n → n.status = .processing →
    w.store.rows.find? id = some n ∨ ∃ i, w.clock.used ≤ i ∧ n.updated = w.clock.answer i

variable {ids ids' : List NoticeId} {a b c w w' : World}

theorem Touches.of_store (hticks : w.Ticks w') (hsteady : w.Steady w')
    (hstore : w'.store = w.store) : w.Touches ids w' where
  toTicks := hticks
  faults := hsteady.faults
  keyed h := hstore ▸ h
  sorted h := hstore ▸ h
  others _ _ := by rw [hstore]
  claimed _ _ hn _ := by
    rw [hstore] at hn
    exact Or.inl hn

theorem Touches.refl (ids : List NoticeId) (w : World) : w.Touches ids w :=
  .of_store (.refl w) (.refl w) rfl

/-- Calls alone touch nothing. -/
theorem Calls.touches (h : w.Calls w') (ids : List NoticeId) : w.Touches ids w' := by
  have haside := h.aside
  obtain ⟨faults, rfl, -⟩ := h
  exact .of_store ⟨rfl, Nat.le_refl _⟩ haside.toSteady rfl

theorem Touches.trans (h₁ : a.Touches ids b) (h₂ : b.Touches ids c) : a.Touches ids c where
  toTicks := h₁.toTicks.trans h₂.toTicks
  faults call := Nat.le_trans (h₂.faults call) (h₁.faults call)
  keyed h := h₂.keyed (h₁.keyed h)
  sorted h := h₂.sorted (h₁.sorted h)
  others id hid := (h₂.others id hid).trans (h₁.others id hid)
  claimed := by
    intro id n hn hprocessing
    rcases h₂.claimed id n hn hprocessing with hn | ⟨i, hi, hreading⟩
    · exact h₁.claimed id n hn hprocessing
    · rw [h₁.answer] at hreading
      exact Or.inr ⟨i, Nat.le_trans h₁.used hi, hreading⟩

theorem Touches.mono (h : w.Touches ids w') (hsub : ∀ id ∈ ids, id ∈ ids') :
    w.Touches ids' w' where
  toTicks := h.toTicks
  faults := h.faults
  keyed := h.keyed
  sorted := h.sorted
  others id hid := h.others id fun hmem => hid (hsub id hmem)
  claimed := h.claimed

end World

namespace Worker

/-! ## What one worker touches -/

/-- The row that a worker is about, until it has stored an outcome. -/
def row? : Worker → Option NoticeId
  | .claiming id => some id
  | .renewing id _ => some id
  | k => k.lease?.map (·.1)

variable {k k' : Worker} {w w' : World} {ds : List Deed}

theorem row?_of_lease? {lease : NoticeId × Timestamp} (h : k.lease? = some lease) :
    k.row? = some lease.1 := by
  cases k with
  | claiming => cases h
  | renewing => cases h
  | _ => simp [row?, h]

/-- A worker stays with its row. -/
theorem Acts.row? (h : k.Acts w k' w' ds) : k'.row? = k.row? ∨ k'.row? = none := by
  cases h with
  | claimed hk =>
    rw [hk]
    exact Or.inl rfl
  | renewed hk =>
    rw [hk]
    exact Or.inl rfl
  | worked hk hk' =>
    rw [row?_of_lease? hk, row?_of_lease? hk']
    exact Or.inl rfl
  | _ => exact Or.inr rfl

/-- A claim shows a reading of the clock. -/
theorem Copies.reading {n : Notice} (h : Copies k w (.findingBooking n) w') :
    ∃ i, w.clock.used ≤ i ∧ n.updated = w.clock.answer i := by
  cases h with
  | taken hrow hopen hn hi => exact ⟨_, hi, by rw [hn]⟩
  | kept hk hk' => cases hk'
  | dropped hk' => cases hk'

/-- A step writes no row, or the worker's own; a claim shows a reading of the clock. -/
theorem Acts.own_row (h : k.Acts w k' w' ds) (hfits : k.Fits w.store) (hcopies : Copies k w k' w') :
    w'.store = w.store ∨ ∃ n, k.row? = some n.id ∧ w'.store = w.store.put n ∧
      (n.status = .processing → ∃ i, w.clock.used ≤ i ∧ n.updated = w.clock.answer i) := by
  cases h.stores hfits with
  | nothing _ hstore => exact Or.inl hstore
  | @claimed row n _ hk hk' hrow hpending hn hstore =>
    subst hk hk'
    exact Or.inr ⟨n, rfl, hstore, fun _ => hcopies.reading⟩
  | @renewed row n _ threshold hk hk' hrow hprocessing hn hstore =>
    subst hk hk'
    exact Or.inr ⟨n, rfl, hstore, fun _ => hcopies.reading⟩
  | @resolved row n hresolves hrow hprocessing hkin hfinal hstore =>
    obtain ⟨since, booking, user, hk, -⟩ := hresolves.claim
    refine Or.inr ⟨n, ?_, hstore, fun hstill => ?_⟩
    · rw [hk]
      rfl
    · rw [hstill] at hfinal
      cases hfinal

theorem touches_step (hkeyed : w.store.Keyed) (hfits : k.Fits w.store) (hgoing : k.result? = none)
    {id : NoticeId} (hrow : k.row? = some id ∨ k.row? = none) : w.Touches [id] (k.step w).2 := by
  have hacts := (goes_step hkeyed hfits hgoing).acts
  have hticks := habit_step World.ticks_habit k w fun _ _ => World.ticks_publishes
  rcases hacts.own_row hfits (copies_step hkeyed hfits) with hstore | ⟨n, hn, hstore, hreading⟩
  · exact .of_store hticks hacts.steady hstore
  · have hid : n.id = id := by
      rw [hn] at hrow
      simpa using hrow
    apply World.Touches.mk hticks hacts.steady.faults (hacts.keyed hfits) (hacts.sorted hfits)
    · intro id' hid'
      have hne : id' ≠ n.id := by simpa [hid] using hid'
      rw [hstore, Store.find?_put_of_ne hne]
    · intro id' m hm hprocessing
      rw [hstore] at hm
      rcases Store.find?_put_cases hm with ⟨-, rfl⟩ | ⟨-, hm⟩
      · exact Or.inr (hreading hprocessing)
      · exact Or.inl hm

/-- A worker touches its own row. -/
theorem touches_run (hkeyed : w.store.Keyed) (hfits : k.Fits w.store) {id : NoticeId}
    (hrow : k.row? = some id) : w.Touches [id] (k.run w).2 := by
  have hrun := run_induction
    (P := fun k' w' => k'.Fits w'.store ∧ (k'.row? = some id ∨ k'.row? = none) ∧
      w.Touches [id] w')
    (fun k' w' hgoing ⟨hfits', hrow', htouches⟩ => by
      have hgoes := goes_step (htouches.keyed hkeyed) hfits' hgoing
      refine ⟨hgoes.fits, ?_,
        htouches.trans (touches_step (htouches.keyed hkeyed) hfits' hgoing hrow')⟩
      rcases hgoes.acts.row? with hsame | hnone
      · rw [hsame]
        exact hrow'
      · exact Or.inr hnone)
    k w ⟨hfits, Or.inl hrow, .refl _ w⟩
  exact hrun.2.2

end Worker

namespace World

variable {w w' : World}

/-- An attempt touches the row that it is at. -/
def Attempt.Confined (attempt : Attempt) : Prop :=
  ∀ (w : World) (id : NoticeId), w.store.Keyed → w.Touches [id] (attempt w id).2

theorem confined_process : Attempt.Confined process :=
  fun _ id hkeyed => Worker.touches_run (k := .claiming id) hkeyed trivial rfl

theorem confined_resume (threshold : Nat) : Attempt.Confined (resume · · threshold) :=
  fun _ id hkeyed => Worker.touches_run (k := .renewing id threshold) hkeyed trivial rfl

/-- Attempts touch the rows that they are at. -/
theorem Attempt.Confined.each {attempt : Attempt} (h : attempt.Confined) (ids : List NoticeId)
    (w : World) (hkeyed : w.store.Keyed) : w.Touches ids (w.each attempt ids).2 := by
  induction ids generalizing w with
  | nil => exact .refl [] w
  | cons id ids ih =>
    have hfirst := h w id hkeyed
    apply (hfirst.mono ?_).trans ((ih _ (hfirst.keyed hkeyed)).mono ?_)
    · intro id' hid'
      rw [List.mem_singleton.mp hid']
      exact List.mem_cons_self
    · intro id' hid'
      exact List.mem_cons_of_mem _ hid'

/-! ## Passes -/

/-- All rows of a kind that are stored are attempted, each of them once, in the order in which rows
are taken up; no other row is touched. -/
structure Passes (due : Notice → Bool) (attempt : Attempt) (rows : List Notice)
    (results : List (Except Notice.Error Worker.Outcome)) (w w' : World) : Prop where
  mem_iff : ∀ n, n ∈ rows ↔ w.store.rows.find? n.id = some n ∧ due n = true
  once : (rows.map (·.id)).Nodup
  ordered : rows.Pairwise Notice.Precedes
  attempts : w.each attempt (rows.map (·.id)) = (results, w')
  others : ∀ id, id ∉ rows.map (·.id) → w'.store.rows.find? id = w.store.rows.find? id

namespace Passes

variable {due : Notice → Bool} {attempt : Attempt} {rows : List Notice}
  {results : List (Except Notice.Error Worker.Outcome)}

theorem length_results (h : w.Passes due attempt rows results w') :
    results.length = rows.length := by
  have hlength := length_each attempt (rows.map (·.id)) w
  rw [h.attempts, List.length_map] at hlength
  exact hlength

theorem touches (h : w.Passes due attempt rows results w') (hconfined : attempt.Confined)
    (hkeyed : w.store.Keyed) : w.Touches (rows.map (·.id)) w' := by
  have htouches := hconfined.each (rows.map (·.id)) w hkeyed
  rw [h.attempts] at htouches
  exact htouches

theorem eq_singleton (h : w.Passes due attempt rows results w') {row : Notice}
    (hrow : w.store.rows.find? row.id = some row) (hdue : due row = true)
    (honly : ∀ n, w.store.rows.find? n.id = some n → due n = true → n = row) : rows = [row] := by
  have hnodup := Store.nodup_of_ids h.once
  apply List.perm_singleton.mp
  apply (List.perm_ext_iff_of_nodup hnodup (List.pairwise_singleton _ row)).mpr
  intro n
  rw [h.mem_iff, List.mem_singleton]
  constructor
  · intro ⟨hn, hdue⟩
    exact honly n hn hdue
  · rintro rfl
    exact ⟨hrow, hdue⟩

end Passes

end World

namespace Sweep

open World

variable {w : World} {s : Sweep}

/-- What a worker of a pass does with a row. -/
def Pass.attempt (p : Pass) (threshold : Nat) : Attempt :=
  match p with
  | .pending => process
  | .processing => (resume · · threshold)

theorem Pass.run_worker (p : Pass) (s : Sweep) (n : Notice) (w : World) :
    (p.worker s n).run w = p.attempt s.threshold w n.id := by cases p <;> rfl

theorem Pass.confined_attempt (p : Pass) (threshold : Nat) : (p.attempt threshold).Confined := by
  cases p with
  | pending => exact confined_process
  | processing => exact confined_resume threshold

theorem Pass.isDue_iff {p : Pass} {n : Notice} :
    p.isDue s n = true ↔ n.status = p.status ∧ n.isOverdue s.began s.threshold = true := by
  cases p <;> simp [isDue, Notice.isOrphaned, Notice.isStale, status]

/-- If whoever comes before a row that is due is due as well, then a pass that ends at the first row
that is not attempts all that are. -/
theorem takeUp_eq (p : Pass) (rows : List Notice) (s : Sweep) (w : World)
    (hfirst : rows.Pairwise fun a b => p.isDue s b = true → p.isDue s a = true) :
    let ended := w.each (p.attempt s.threshold) ((rows.filter (p.isDue s)).map (·.id))
    takeUp p rows s w =
      ({ s with report := ended.1.foldl (fun r e => (r.attempt p).record e) s.report },
        ended.2) := by
  induction rows generalizing s w with
  | nil => rfl
  | cons n rows ih =>
    obtain ⟨hbefore, hfirst⟩ := List.pairwise_cons.mp hfirst
    unfold takeUp
    by_cases hdue : p.isDue s n = true
    · rw [if_pos hdue, List.filter_cons_of_pos hdue, Pass.run_worker]
      exact ih _ _ hfirst
    · have hnone : rows.filter (p.isDue s) = [] := by
        apply List.filter_eq_nil_iff.mpr
        intro m hm hm'
        exact hdue (hbefore m hm hm')
      rw [if_neg hdue, List.filter_cons_of_neg hdue, hnone]
      rfl

/-- A listing is worked off up to its first row that is not due: then all that are due have been
attempted. -/
theorem passes_withStatus (p : Pass) (hkeyed : w.store.Keyed) (hsorted : w.store.rows.Sorted)
    (hregular : ∀ n, w.store.rows.find? n.id = some n → n.status = p.status →
      n.updated.IsRegular) :
    ∃ rows results w', w.Passes (p.isDue s) (p.attempt s.threshold) rows results w' ∧
      takeUp p (w.store.withStatus p.status) s w =
        ({ s with report := results.foldl (fun r e => (r.attempt p).record e) s.report }, w') := by
  have hmem (n : Notice) : n ∈ w.store.withStatus p.status ↔
      w.store.rows.find? n.id = some n ∧ n.status = p.status := Store.mem_withStatus hkeyed hsorted
  have hordered := Store.pairwise_withStatus hkeyed hsorted p.status
  have honce : (((w.store.withStatus p.status).filter (p.isDue s)).map (·.id)).Nodup :=
    (Store.nodup_ids_withStatus hkeyed hsorted p.status).sublist (List.filter_sublist.map _)
  refine ⟨_, _, _, ⟨?_, honce, hordered.filter _, rfl, ?_⟩, takeUp_eq p _ s w ?_⟩
  · intro n
    rw [List.mem_filter, hmem, and_assoc, Pass.isDue_iff, and_self_left]
  · exact ((p.confined_attempt s.threshold).each _ w hkeyed).others
  · apply List.Pairwise.imp_of_mem _ hordered
    intro a b ha hb hprecedes hdue
    obtain ⟨hstored, hstatus⟩ := (hmem a).mp ha
    obtain ⟨hstored', hstatus'⟩ := (hmem b).mp hb
    rw [Pass.isDue_iff] at hdue ⊢
    exact ⟨hstatus, hprecedes.isOverdue (hregular a hstored hstatus)
      (hregular b hstored' hstatus') hdue.2⟩

/-! ## The passes of a sweep -/

section Whole

variable {w₁ w' : World} {s₁ s₂ : Sweep} {threshold : Nat}

theorem list_of_call {w₀ : World} (h : w.storeFails .list = (false, w₀)) (p : Pass) :
    list p w = (.ok (w₀.store.withStatus p.status), w₀) := by
  unfold list
  rw [h]

theorem list_of_fault {w₀ : World} (h : w.storeFails .list = (true, w₀)) (p : Pass) :
    list p w = (.error StoreCall.list.failure, w₀) := by
  unfold list
  rw [h]

/-- A sweep whose first listing fails does no more. -/
theorem sweep_of_fault (hfails : w.now.2.storeFails .list = (true, w')) :
    w.sweep threshold = (.error StoreCall.list.failure, w') := by
  show finish { began := w.next, threshold := threshold } w.now.2 = _
  unfold finish
  dsimp only
  rw [list_of_fault hfails]

section First

variable {w₀ w₂ : World} (hlists : w.now.2.storeFails .list = (false, w₀))
  (hfirst : takeUp .pending (w₀.store.withStatus .pending)
    { began := w.next, threshold := threshold } w₀ = (s₁, w₁))

include hlists hfirst

theorem sweep_of_first : w.sweep threshold = finishProcessing s₁ w₁ := by
  show finish { began := w.next, threshold := threshold } w.now.2 = _
  unfold finish
  dsimp only
  rw [list_of_call hlists]
  dsimp only [Pass.status]
  unfold finishFrom
  rw [hfirst]

/-- A sweep is its two passes, if no listing fails. -/
theorem sweep_of_takeUp (hlists₁ : w₁.storeFails .list = (false, w₂))
    (hsecond : takeUp .processing (w₂.store.withStatus .processing) s₁ w₂ = (s₂, w')) :
    w.sweep threshold = (.ok s₂.report, w') := by
  rw [sweep_of_first hlists hfirst]
  unfold finishProcessing
  rw [list_of_call hlists₁]
  dsimp only [Pass.status]
  rw [hsecond]

/-- A sweep whose second listing fails does no more than its first pass. -/
theorem sweep_of_second_fault (hfails : w₁.storeFails .list = (true, w')) :
    w.sweep threshold = (.error StoreCall.list.failure, w') := by
  rw [sweep_of_first hlists hfirst]
  unfold finishProcessing
  rw [list_of_fault hfails]

end First

end Whole

end Sweep

end BookingNotices
