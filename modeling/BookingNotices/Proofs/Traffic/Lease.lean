import BookingNotices.Proofs.Clock
import BookingNotices.Proofs.Traffic.Step

/-!
# A claim is a lease

* `Taking`          : a claim on a row, or a renewal of one; `Traffic.takings` are all of them in
  their order, `Traffic.owner` is the call that took the row last;
* `Taking.Before`   : a renewal comes its threshold after the taking before it, or later;
* `Traffic.Leased`  : what the takings of a row say about the row and about those who work on it;
* `leases_are_fenced` : the takings of a row come in the order of their instants, a worker whose row
  was taken again stores nothing and mails nothing, and only the last owner does.

The instant of a claim is also its token. Two takings of one row never have the same instant,
because a renewal reads the clock once to find the claim overdue and once more, later, to write it
down.
-/

namespace BookingNotices

/-! ## Takings -/

/-- A claim on a row, or a renewal of one. -/
structure Taking where
  /-- who took it, unless it was claimed from the first -/
  call : Option Nat
  notice : Notice
  /-- how old the claim had to be that this one renewed -/
  threshold : Option Nat

namespace Taking

/-- When the row was taken. -/
def instant (t : Taking) : Int := t.notice.updated.toNanos

/-- A taking, and a later one: that is a renewal, its threshold after the first or later. -/
structure Before (earlier later : Taking) : Prop where
  instant : earlier.instant < later.instant
  renewal : ∃ threshold, later.threshold = some threshold ∧
    (threshold : Int) ≤ later.notice.updated.since earlier.notice.updated

end Taking

/-- The taking of a row that an entry of the log tells of. -/
def Traffic.Entry.taking? (id : NoticeId) (e : Traffic.Entry) : Option Taking :=
  match e.deed with
  | .claimed n => if n.id = id then some ⟨some e.call, n, none⟩ else none
  | .renewed n threshold => if n.id = id then some ⟨some e.call, n, some threshold⟩ else none
  | _ => none

/-- The claim that a row has from the first. -/
def World.firstTaking (w : World) (id : NoticeId) : List Taking :=
  match w.store.rows.find? id with
  | some row => if row.status = .processing then [⟨none, row, none⟩] else []
  | none => []

namespace Traffic

/-- How often a row was taken, in traffic that began in a world. -/
def takings (w : World) (id : NoticeId) (t : Traffic) : List Taking :=
  w.firstTaking id ++ t.log.filterMap (Entry.taking? id)

/-- The call that took a row last. -/
def owner (w : World) (id : NoticeId) (t : Traffic) : Option Nat :=
  (t.takings w id).getLast?.bind Taking.call

theorem takings_append (w : World) (id : NoticeId) (w' : World) (calls : List Call)
    (log : List Entry) (i : Nat) (ds : List Deed) :
    takings w id ⟨w', calls, log ++ entries i ds⟩ =
      (w.firstTaking id ++ log.filterMap (Entry.taking? id)) ++
        (entries i ds).filterMap (Entry.taking? id) := by
  unfold takings
  rw [List.filterMap_append, List.append_assoc]

/-- What the takings of a row say about the row and about those who work on it. -/
structure Leased (w : World) (id : NoticeId) (t : Traffic) : Prop where
  ordered : (t.takings w id).Pairwise Taking.Before
  /-- a row that waits was never taken -/
  waiting : ∀ row, t.world.store.rows.find? id = some row → row.status = .pending →
    t.takings w id = []
  /-- a claimed row shows the instant of its last taking -/
  current : ∀ row, t.world.store.rows.find? id = some row → row.status = .processing →
    ∃ last, (t.takings w id).getLast? = some last ∧ last.notice.updated = row.updated
  /-- who has a claim took it at its instant -/
  holds : ∀ i k since, t.workerOf? i = some k → k.lease? = some (id, since) →
    ∃ taking ∈ t.takings w id, taking.call = some i ∧ taking.notice.updated = since
  /-- who owes the mail took the row last -/
  owes : ∀ i k n, t.workerOf? i = some k → k.owed? = some n → n.id = id →
    t.owner w id = some i

/-! ## Consequences -/

/-- No taking comes after the last one. -/
theorem before_last {takings : List Taking} {last a : Taking}
    (hordered : takings.Pairwise Taking.Before) (hlast : takings.getLast? = some last)
    (ha : a ∈ takings) : a = last ∨ a.Before last := by
  obtain ⟨front, rfl⟩ := List.getLast?_eq_some_iff.mp hlast
  rcases List.mem_append.mp ha with ha | ha
  · exact Or.inr ((List.pairwise_append.mp hordered).2.2 a ha last List.mem_cons_self)
  · exact Or.inl (List.mem_singleton.mp ha)

/-- A claim that still holds is the last one. -/
theorem Leased.owner_of_claim {w : World} {id : NoticeId} {t : Traffic} (h : Leased w id t)
    {i : Nat} {k : Worker} {since : Timestamp} (hk : t.workerOf? i = some k)
    (hlease : k.lease? = some (id, since)) (hclaim : t.world.store.claimHolds id since = true) :
    t.owner w id = some i := by
  obtain ⟨row, hrow, hprocessing, hsince⟩ := Store.claimHolds_iff.mp hclaim
  obtain ⟨last, hlast, hupdated⟩ := h.current row hrow hprocessing
  obtain ⟨taking, hmem, hcall, hinstant⟩ := h.holds i k since hk hlease
  unfold owner
  rw [hlast]
  rcases before_last h.ordered hlast hmem with rfl | hbefore
  · exact hcall
  · have hlt := hbefore.instant
    unfold Taking.instant at hlt
    rw [hinstant, hupdated, hsince] at hlt
    omega

/-- A claim whose row was taken again does not hold. -/
theorem Leased.claimHolds_eq_false {w : World} {id : NoticeId} {t : Traffic} (h : Leased w id t)
    {since : Timestamp} {later : Taking} (hlater : later ∈ t.takings w id)
    (hlt : since.toNanos < later.instant) : t.world.store.claimHolds id since = false := by
  rw [Bool.eq_false_iff]
  intro hholds
  obtain ⟨row, hrow, hprocessing, hsince⟩ := Store.claimHolds_iff.mp hholds
  obtain ⟨last, hlast, hupdated⟩ := h.current row hrow hprocessing
  have hle : later.instant ≤ last.instant := by
    rcases before_last h.ordered hlast hlater with rfl | hbefore
    · exact Int.le_refl _
    · exact Int.le_of_lt hbefore.instant
  unfold Taking.instant at hle hlt
  rw [hupdated, hsince] at hle
  omega

/-! ## What happens keeps the leases -/

theorem Leased.rests {w : World} {id : NoticeId} {t t' : Traffic} (h : Leased w id t)
    (hrest : t.Rests t') : Leased w id t' := by
  have htakings : t'.takings w id = t.takings w id := by
    unfold takings
    rw [hrest.log]
  constructor
  · rw [htakings]
    exact h.ordered
  · rw [hrest.store, htakings]
    exact h.waiting
  · rw [hrest.store, htakings]
    exact h.current
  · rw [htakings]
    intro i k since hk hlease
    rcases hrest.worker i k hk with hidle | hk
    · rw [hidle.1] at hlease
      cases hlease
    · exact h.holds i k since hk hlease
  · unfold owner
    rw [htakings]
    intro i k n hk howed
    rcases hrest.worker i k hk with hidle | hk
    · rw [hidle.2] at howed
      cases howed
    · exact h.owes i k n hk howed

section Worked

variable {w : World} {id : NoticeId} {t : Traffic} {i : Nat} {c c' : Call} {k k' : Worker}
  {w' : World} {ds : List Deed}

/-- A worker's step that does not touch the row. -/
theorem Leased.elsewhere (h : Leased w id t) (hi : t.calls[i]? = some c) (hk : c.worker? = some k)
    (hk' : c'.worker? = some k')
    (hstore : w'.store.rows.find? id = t.world.store.rows.find? id)
    (hds : (entries i ds).filterMap (Entry.taking? id) = [])
    (hlease : ∀ since, k'.lease? = some (id, since) → k.lease? = some (id, since))
    (howed : ∀ n, k'.owed? = some n → n.id = id → k.owed? = some n) :
    Leased w id ⟨w', t.calls.set i c', t.log ++ entries i ds⟩ := by
  have htakings : takings w id ⟨w', t.calls.set i c', t.log ++ entries i ds⟩ = t.takings w id := by
    rw [takings_append, hds, List.append_nil]
    rfl
  have hwi : t.workerOf? i = some k := (workerOf?_of_call hi).trans hk
  constructor
  · rw [htakings]
    exact h.ordered
  · rw [htakings]
    show ∀ row, w'.store.rows.find? id = some row → _
    rw [hstore]
    exact h.waiting
  · rw [htakings]
    show ∀ row, w'.store.rows.find? id = some row → _
    rw [hstore]
    exact h.current
  · rw [htakings]
    intro j l since hl hlease'
    rw [workerOf?_set hi] at hl
    split at hl
    · rename_i hij
      subst hij
      rw [hk'] at hl
      cases hl
      exact h.holds i k since hwi (hlease since hlease')
    · exact h.holds j l since hl hlease'
  · unfold owner
    rw [htakings]
    intro j l n hl howed' hid
    rw [workerOf?_set hi] at hl
    split at hl
    · rename_i hij
      subst hij
      rw [hk'] at hl
      cases hl
      exact h.owes i k n hwi (howed n howed' hid) hid
    · exact h.owes j l n hl howed' hid

/-- The row is not final, so nobody owes mail about it. -/
theorem not_owed_of_open (hsane : t.Sane) {row : Notice}
    (hrow : t.world.store.rows.find? id = some row) (hopen : row.status.isFinal = false)
    {j : Nat} {l : Worker} {n : Notice} (hl : t.workerOf? j = some l) (howed : l.owed? = some n) :
    n.id ≠ id := by
  intro hid
  have hfits := hsane.fits j l hl
  have hstored : n.Stored t.world.store := by
    cases l with
    | composing => cases howed; exact hfits.1
    | sending => cases howed; exact hfits
    | _ => cases howed
  have hn := hstored.row
  rw [hid, hrow] at hn
  cases hn
  rw [hstored.success] at hopen
  cases hopen

/-- A worker takes the row. -/
theorem Leased.taken (h : Leased w id t) (hsane : t.Sane) (hi : t.calls[i]? = some c)
    {n row : Notice} (threshold : Option Nat) (hk' : c'.worker? = some (.findingBooking n))
    (hid : n.id = id) (hprocessing : n.status = .processing)
    (hrow : t.world.store.rows.find? id = some row) (hopen : row.status.isFinal = false)
    (hstore : w'.store = t.world.store.put n)
    (hds : (entries i ds).filterMap (Entry.taking? id) = [⟨some i, n, threshold⟩])
    (hbefore : ∀ a ∈ t.takings w id, a.Before ⟨some i, n, threshold⟩) :
    Leased w id ⟨w', t.calls.set i c', t.log ++ entries i ds⟩ := by
  have htakings : takings w id ⟨w', t.calls.set i c', t.log ++ entries i ds⟩ =
      t.takings w id ++ [⟨some i, n, threshold⟩] := by
    rw [takings_append, hds]
    rfl
  have hfound : w'.store.rows.find? id = some n := by
    rw [hstore, ← hid]
    exact Store.find?_put_self _ n
  constructor
  · rw [htakings]
    refine List.pairwise_append.mpr ⟨h.ordered, List.pairwise_singleton _ _, fun a ha b hb => ?_⟩
    rw [List.mem_singleton.mp hb]
    exact hbefore a ha
  · intro row' hrow' hpending
    have hrow' : w'.store.rows.find? id = some row' := hrow'
    rw [hfound] at hrow'
    cases hrow'
    rw [hprocessing] at hpending
    cases hpending
  · intro row' hrow' _
    have hrow' : w'.store.rows.find? id = some row' := hrow'
    rw [hfound] at hrow'
    cases hrow'
    rw [htakings]
    exact ⟨_, List.getLast?_concat, rfl⟩
  · rw [htakings]
    intro j l since hl hlease
    rw [workerOf?_set hi] at hl
    split at hl
    · rename_i hij
      subst hij
      rw [hk'] at hl
      cases hl
      cases hlease
      exact ⟨_, List.mem_append_right _ List.mem_cons_self, rfl, rfl⟩
    · obtain ⟨taking, hmem, htaking⟩ := h.holds j l since hl hlease
      exact ⟨taking, List.mem_append_left _ hmem, htaking⟩
  · intro j l m hl howed hm
    rw [workerOf?_set hi] at hl
    split at hl
    · rw [hk'] at hl
      cases hl
      cases howed
    · exact absurd hm (not_owed_of_open hsane hrow hopen hl howed)

/-- A worker stores the outcome of its claim. -/
theorem Leased.resolved (h : Leased w id t) (hsane : t.Sane) (hi : t.calls[i]? = some c)
    (hk : c.worker? = some k) (hk' : c'.worker? = some k') {n : Notice}
    (hresolves : k.Resolves t.world n w') (hfinal : n.status.isFinal = true)
    (hlease : k'.lease? = none) (howed : ∀ m, k'.owed? = some m → m = n)
    (hds : (entries i ds).filterMap (Entry.taking? id) = []) :
    Leased w id ⟨w', t.calls.set i c', t.log ++ entries i ds⟩ := by
  have hwi : t.workerOf? i = some k := (workerOf?_of_call hi).trans hk
  obtain ⟨since, booking, user, rfl, hclaim⟩ := hresolves.claim
  by_cases hid : n.id = id
  · subst hid
    have howner := h.owner_of_claim hwi rfl hclaim
    obtain ⟨row, hrow, hprocessing, -⟩ := Store.claimHolds_iff.mp hclaim
    have hopen : row.status.isFinal = false := by rw [hprocessing]; rfl
    have htakings : takings w n.id ⟨w', t.calls.set i c', t.log ++ entries i ds⟩ =
        t.takings w n.id := by
      rw [takings_append, hds, List.append_nil]
      rfl
    have hstatus : ∀ row', w'.store.rows.find? n.id = some row' → row'.status.isFinal = true := by
      intro row' hrow'
      rw [hresolves.puts.store, Store.find?_put_self] at hrow'
      cases hrow'
      exact hfinal
    constructor
    · rw [htakings]
      exact h.ordered
    · intro row' hrow' hpending
      have := hstatus row' hrow'
      rw [hpending] at this
      cases this
    · intro row' hrow' hprocessing
      have := hstatus row' hrow'
      rw [hprocessing] at this
      cases this
    · rw [htakings]
      intro j l since hl hlease'
      rw [workerOf?_set hi] at hl
      split at hl
      · rw [hk'] at hl
        cases hl
        rw [hlease] at hlease'
        cases hlease'
      · exact h.holds j l since hl hlease'
    · unfold owner
      rw [htakings]
      intro j l m hl howed hm
      rw [workerOf?_set hi] at hl
      split at hl
      · rename_i hij
        subst hij
        exact howner
      · exact absurd hm (not_owed_of_open hsane hrow hopen hl howed)
  · refine h.elsewhere hi hk hk' ?_ hds ?_ ?_
    · rw [hresolves.puts.store, Store.find?_put, if_neg hid]
    · intro _ hlease'
      rw [hlease] at hlease'
      cases hlease'
    · intro m hm hmid
      rw [howed m hm] at hmid
      exact absurd hmid hid

/-- A renewal comes after all takings of its row. -/
theorem Leased.before_renewal (h : Leased w id t) (hclock : t.world.clock.Ascends) {n row : Notice}
    {threshold : Nat} (hpositive : 0 < threshold)
    (hrow : t.world.store.rows.find? id = some row)
    (hstale : row.isStale (t.world.clock.answer t.world.clock.used) threshold = true)
    (hn : n = { row with updated := t.world.clock.answer (t.world.clock.used + 1) }) :
    ∀ a ∈ t.takings w id, a.Before ⟨some i, n, some threshold⟩ := by
  intro a ha
  obtain ⟨last, hlast, hupdated⟩ := h.current row hrow (Notice.processing_of_isStale hstale)
  have hle : a.instant ≤ row.updated.toNanos := by
    rw [← hupdated]
    rcases before_last h.ordered hlast ha with rfl | hbefore
    · exact Int.le_refl _
    · exact Int.le_of_lt hbefore.instant
  -- the second reading of the clock is not before the first
  have hreading := hclock t.world.clock.used
  have hinstant : n.updated = t.world.clock.answer (t.world.clock.used + 1) := by rw [hn]
  unfold Notice.isStale Notice.isOverdue at hstale
  rw [Bool.and_eq_true, decide_eq_true_eq] at hstale
  have hdue := of_decide_eq_true hstale.2
  unfold Timestamp.since at hdue
  unfold Taking.instant at hle
  refine ⟨?_, threshold, rfl, ?_⟩
  · show a.notice.updated.toNanos < n.updated.toNanos
    rw [hinstant]
    omega
  · show (threshold : Int) ≤ n.updated.toNanos - a.notice.updated.toNanos
    rw [hinstant]
    omega

/-- A worker's step that ends it, and that does not touch the rows. -/
theorem Leased.ended {result : Except Notice.Error Worker.Outcome} (h : Leased w id t)
    (hi : t.calls[i]? = some c) (hk : c.worker? = some k)
    (hk' : c'.worker? = some (.ended result)) (hstore : w'.store = t.world.store)
    (hds : (entries i ds).filterMap (Entry.taking? id) = []) :
    Leased w id ⟨w', t.calls.set i c', t.log ++ entries i ds⟩ := by
  refine h.elsewhere hi hk hk' (by rw [hstore]) hds ?_ ?_
  · intro _ hlease
    cases hlease
  · intro _ howed
    cases howed

/-- A worker takes another row. -/
theorem Leased.taken_elsewhere {n : Notice} (h : Leased w id t) (hi : t.calls[i]? = some c)
    (hk : c.worker? = some k) (hk' : c'.worker? = some (.findingBooking n)) (hid : n.id ≠ id)
    (hstore : w'.store = t.world.store.put n)
    (hds : (entries i ds).filterMap (Entry.taking? id) = []) :
    Leased w id ⟨w', t.calls.set i c', t.log ++ entries i ds⟩ := by
  refine h.elsewhere hi hk hk' ?_ hds ?_ ?_
  · rw [hstore, Store.find?_put, if_neg hid]
  · intro since hlease
    cases hlease
    exact absurd rfl hid
  · intro m howed
    cases howed

/-- A worker's step keeps the leases, if it does not renew a claim at once. -/
theorem Leased.worked (h : Leased w id t) (hsane : t.Sane) (hclock : t.world.clock.Ascends)
    (hpatient : ∀ threshold, k = .renewing id threshold → 0 < threshold)
    (hi : t.calls[i]? = some c) (hk : c.worker? = some k) (hk' : c'.worker? = some k')
    (hacts : k.Acts t.world k' w' ds) :
    Leased w id ⟨w', t.calls.set i c', t.log ++ entries i ds⟩ := by
  have hopen {row : Notice} (hrow : row.status = .pending ∨ row.status = .processing) :
      row.status.isFinal = false := by
    rcases hrow with hrow | hrow <;> rw [hrow] <;> rfl
  cases hacts with
  | @claimed row n now _ hclaiming hrow hpending hn hw =>
    by_cases hid : n.id = id
    · rw [hid] at hrow
      refine h.taken hsane hi none hk' hid (by rw [hn]) hrow
        (hopen (Or.inl hpending)) hw.store ?_ ?_
      · simp [entries, Entry.taking?, hid]
      · rw [h.waiting row hrow hpending]
        intro a ha
        cases ha
    · refine h.taken_elsewhere hi hk hk' hid hw.store ?_
      simp [entries, Entry.taking?, hid]
  | @renewed row n threshold _ hrenewing hrow hstale hn hw =>
    by_cases hid : n.id = id
    · rw [hid] at hrow
      have hprocessing := Notice.processing_of_isStale hstale
      refine h.taken hsane hi (some threshold) hk' hid ?_ hrow
        (hopen (Or.inr hprocessing)) hw.store ?_ ?_
      · rw [hn]
        exact hprocessing
      · simp [entries, Entry.taking?, hid]
      · exact h.before_renewal hclock (hpatient threshold (by rw [hrenewing, hid])) hrow hstale hn
    · refine h.taken_elsewhere hi hk hk' hid hw.store ?_
      simp [entries, Entry.taking?, hid]
  | landed hresolves hn =>
    refine h.resolved hsane hi hk hk' hresolves (by rw [hn]; rfl) rfl (fun m hm => ?_) rfl
    cases hm
    rfl
  | settled hresolves hn =>
    refine h.resolved hsane hi hk hk' hresolves (by rw [hn]; rfl) rfl (fun m hm => ?_) rfl
    cases hm
  | worked hlease hlease' hw =>
    refine h.elsewhere hi hk hk' (by rw [hw.store]) rfl ?_ ?_
    · intro since hsince
      rw [hlease, ← hlease']
      exact hsince
    · intro m howed
      rw [Worker.owed?_of_lease? hlease'] at howed
      cases howed
  | composed hcomposing hw =>
    subst hcomposing
    refine h.elsewhere hi hk hk' (by rw [hw.store]) rfl ?_ ?_
    · intro _ hlease
      cases hlease
    · intro m howed _
      exact howed
  | stopped _ _ hw => exact h.ended hi hk hk' hw.store rfl
  | spoiled _ _ hw => exact h.ended hi hk hk' hw.store rfl
  | refused _ _ hw => exact h.ended hi hk hk' hw.store rfl
  | accepted _ _ hstore => exact h.ended hi hk hk' hstore rfl

end Worked

end Traffic

/-! ## Patient calls -/

/-- A worker that renews no claim at once. -/
def Worker.Patient (k : Worker) : Prop := ∀ id threshold, k = .renewing id threshold → 0 < threshold

/-- A call that renews no claim at once. -/
def Call.Patient : Call → Prop
  | .worker k => k.Patient
  | .sweep s => 0 < s.threshold ∧ ∀ pass k rows, s.phase = .working pass k rows → k.Patient
  | _ => True

/-- Somebody takes up rows, but renews none at once; no clock goes back. -/
def Move.Patient : Move → Prop
  | .start (.process _) => True
  | .start (.resume _ threshold) => 0 < threshold
  | .start (.sweep threshold) => 0 < threshold
  | .start (.create _ _) => False
  | .start .dispatch => False
  | .advance _ => True
  | .publish _ => True
  | .change s => s.clock.Ascends

theorem Move.Patient.mayCreate {m : Move} (h : m.Patient) : m.mayCreate = false := by
  cases m with
  | start r =>
    cases r with
    | create => cases h
    | dispatch => cases h
    | _ => rfl
  | _ => rfl

/-- No step leads to a renewal. -/
theorem Worker.patient_step {k : Worker} (hgoing : k.result? = none) (w : World) :
    (k.step w).1.Patient := by
  intro id threshold hrenewing
  have hlt := stepsLeft_step_lt hgoing w
  have hle : k.stepsLeft ≤ 10 := by cases k <;> simp [stepsLeft]
  rw [hrenewing] at hlt
  have hten : (Worker.renewing id threshold).stepsLeft = 10 := rfl
  omega

theorem Sweep.patient_step {s : Sweep} (h : (Call.sweep s).Patient) (w : World) :
    (Call.sweep (s.step w).1).Patient := by
  rcases s with ⟨began, threshold, report, phase⟩
  obtain ⟨hpositive, hworker⟩ := h
  cases phase with
  | listing pass =>
    dsimp only [step]
    split <;> exact ⟨hpositive, fun _ _ _ hphase => nomatch hphase⟩
  | choosing pass rows =>
    cases rows with
    | nil => cases pass <;> exact ⟨hpositive, fun _ _ _ hphase => nomatch hphase⟩
    | cons n rows =>
      dsimp only [step]
      split
      · refine ⟨hpositive, fun pass' k rows' hphase id th hk => ?_⟩
        cases hphase
        cases pass with
        | pending => cases hk
        | processing =>
          cases hk
          exact hpositive
      · cases pass <;> exact ⟨hpositive, fun _ _ _ hphase => nomatch hphase⟩
  | working pass k rows =>
    dsimp only [step]
    split
    · exact ⟨hpositive, fun _ _ _ hphase => nomatch hphase⟩
    · rename_i hgoing
      refine ⟨hpositive, fun pass' k' rows' hphase => ?_⟩
      cases hphase
      exact Worker.patient_step hgoing w
  | ended => exact ⟨hpositive, hworker⟩

theorem Call.patient_step {c : Call} (h : c.Patient) (w : World) : (c.step w).1.Patient := by
  cases c with
  | creation => trivial
  | created => trivial
  | worker k =>
    by_cases hgoing : k.result? = none
    · exact Worker.patient_step hgoing w
    · cases k with
      | ended => exact h
      | _ => exact absurd rfl hgoing
  | sweep s => exact Sweep.patient_step h w
  | dispatch => trivial

theorem Call.Patient.worker {c : Call} (h : c.Patient) (hc : c.mayCreate = false) {k : Worker}
    (hk : c.worker? = some k) : k.Patient := by
  cases c with
  | creation => cases hc
  | dispatch => cases hc
  | created => cases hk
  | worker =>
    cases hk
    exact h
  | sweep s =>
    unfold worker? at hk
    dsimp only at hk
    split at hk
    · rename_i pass k' rows hphase
      cases hk
      exact h.2 _ _ _ hphase
    · cases hk

namespace Traffic

theorem patient_step {t : Traffic} {m : Move} (hm : m.Patient) (h : ∀ c ∈ t.calls, c.Patient) :
    ∀ c ∈ (t.step m).calls, c.Patient := by
  refine forall_calls_step (fun c w hc => Call.patient_step hc w) (fun r hr => ?_) h
  subst hr
  cases r with
  | create => cases hm
  | dispatch => cases hm
  | process => exact fun _ _ hk => nomatch hk
  | resume id threshold =>
    intro _ _ hk
    cases hk
    exact hm
  | sweep => exact ⟨hm, fun _ _ _ hphase => nomatch hphase⟩

theorem ascends_step {t : Traffic} {m : Move} (hsane : t.Sane) (hm : m.Patient)
    (h : t.world.clock.Ascends) : (t.step m).world.clock.Ascends := by
  rcases steady_step hsane m with ⟨s, rfl⟩ | hsteady
  · exact hm
  · intro i
    rw [hsteady.clock]
    exact h i

theorem Leased.begin (w : World) (id : NoticeId) : Leased w id { world := w } := by
  have htakings : Traffic.takings w id { world := w } = w.firstTaking id := List.append_nil _
  constructor
  · rw [htakings]
    unfold World.firstTaking
    split
    · split
      · exact List.pairwise_singleton _ _
      · exact List.Pairwise.nil
    · exact List.Pairwise.nil
  · intro row hrow hpending
    have hrow : w.store.rows.find? id = some row := hrow
    rw [htakings]
    unfold World.firstTaking
    rw [hrow]
    dsimp only
    rw [hpending]
    rfl
  · intro row hrow hprocessing
    have hrow : w.store.rows.find? id = some row := hrow
    rw [htakings]
    unfold World.firstTaking
    rw [hrow]
    dsimp only
    rw [if_pos hprocessing]
    exact ⟨_, rfl, rfl⟩
  · intro i k since hk
    cases hk
  · intro i k n hk
    cases hk

/-- The invariant of patient traffic. -/
structure Patient (w : World) (id : NoticeId) (t : Traffic) : Prop where
  clock : t.world.clock.Ascends
  calls : ∀ c ∈ t.calls, c.Patient
  leased : Leased w id t

theorem Patient.happens {w : World} {id : NoticeId} {t t' : Traffic} (h : Patient w id t)
    (hsane : t.Sane) (hcalls : ∀ c ∈ t.calls, c.mayCreate = false) (hhappens : t.Happens t') :
    Leased w id t' := by
  cases hhappens with
  | rested hrest => exact h.leased.rests hrest
  | created hi hc =>
    rw [Call.creation?_of_mayCreate (hcalls _ (List.mem_of_getElem? hi))] at hc
    cases hc
  | worked hi hk hk' hacts =>
    have hmem := List.mem_of_getElem? hi
    have hpatient := (h.calls _ hmem).worker (hcalls _ hmem) hk
    exact h.leased.worked hsane h.clock (hpatient id) hi hk hk' hacts

theorem Patient.step {w : World} {id : NoticeId} {t : Traffic} {m : Move} (h : Patient w id t)
    (hsane : t.Sane) (hcalls : ∀ c ∈ t.calls, c.mayCreate = false) (hm : m.Patient) :
    Patient w id (t.step m) :=
  ⟨ascends_step hsane hm h.clock, patient_step hm h.calls,
    h.happens hsane hcalls (happens_step hsane m)⟩

/-! ## Workers that lost their claim -/

/-- The next step of a call with a worker that has a claim or owes mail is the worker's. -/
theorem step_of_busy {t : Traffic} {i : Nat} {c : Call} {k : Worker} (hsane : t.Sane)
    (hi : t.calls[i]? = some c) (hk : c.worker? = some k) (hbusy : ¬ k.Idle) :
    k.Acts t.world (k.step t.world).1 (t.step (.advance i)).world (c.deeds t.world) := by
  have hworld : (t.step (.advance i)).world = (c.step t.world).2 := by
    unfold step
    dsimp only
    rw [hi]
  rw [hworld]
  have hacts := c.acts_step t.world
  generalize (c.step t.world).1 = c', (c.step t.world).2 = w', c.deeds t.world = ds at hacts ⊢
  cases hacts with
  | created _ hidle => exact absurd (hidle k hk) hbusy
  | aside hidle => exact absurd (hidle k hk) hbusy
  | worked hk' hgoing =>
    rw [hk] at hk'
    cases hk'
    have hfits := hsane.fits i k ((workerOf?_of_call hi).trans hk)
    exact (Worker.goes_step hsane.keyed hfits hgoing).acts

/-- A worker whose claim does not hold stores nothing and mails nothing. -/
theorem step_of_lost {t : Traffic} {i : Nat} {k : Worker} {id : NoticeId} {since : Timestamp}
    (hsane : t.Sane) (hk : t.workerOf? i = some k) (hlease : k.lease? = some (id, since))
    (hlost : t.world.store.claimHolds id since = false) :
    (t.step (.advance i)).world.store = t.world.store ∧
      (t.step (.advance i)).world.outbox.sent = t.world.outbox.sent := by
  unfold workerOf? at hk
  cases hi : t.calls[i]? with
  | none =>
    rw [hi] at hk
    cases hk
  | some c =>
    rw [hi] at hk
    have hk : c.worker? = some k := hk
    have hbusy : ¬ k.Idle := fun hidle => by
      rw [hidle.1] at hlease
      cases hlease
    have hacts := step_of_busy hsane hi hk hbusy
    generalize (k.step t.world).1 = k', (t.step (.advance i)).world = w', c.deeds t.world = ds
      at hacts ⊢
    have hnot {n : Notice} (hresolves : k.Resolves t.world n w') : False := by
      obtain ⟨since', booking, user, rfl, hclaim⟩ := hresolves.claim
      cases hlease
      rw [hclaim] at hlost
      cases hlost
    cases hacts with
    | claimed hclaiming => subst hclaiming; cases hlease
    | renewed hrenewing => subst hrenewing; cases hlease
    | worked _ _ hw => exact ⟨hw.store, hw.sent⟩
    | stopped _ _ hw => exact ⟨hw.store, hw.sent⟩
    | landed hresolves => exact (hnot hresolves).elim
    | settled hresolves => exact (hnot hresolves).elim
    | composed _ hw => exact ⟨hw.store, hw.sent⟩
    | spoiled _ _ hw => exact ⟨hw.store, hw.sent⟩
    | refused _ _ hw => exact ⟨hw.store, hw.sent⟩
    | accepted hsending => subst hsending; cases hlease

/-- A worker that stores the outcome of a row, or hands over the mail about it, took the row
last. -/
theorem Leased.owner_of_act {w : World} {id : NoticeId} {t : Traffic} (h : Leased w id t)
    {i : Nat} {k k' : Worker} {w' : World} {ds : List Deed} (hk : t.workerOf? i = some k)
    (hacts : k.Acts t.world k' w' ds) {d : Deed} (hd : d ∈ ds)
    (hkind : d.lands id = true ∨ d.hands id = true) : t.owner w id = some i := by
  have landing {n : Notice} (hresolves : k.Resolves t.world n w') (hid : n.id = id) :
      t.owner w id = some i := by
    obtain ⟨since, booking, user, rfl, hclaim⟩ := hresolves.claim
    subst hid
    exact h.owner_of_claim hk rfl hclaim
  have mailing {n mail} (hsending : k = .sending n mail) (hid : n.id = id) :
      t.owner w id = some i := by
    subst hsending
    exact h.owes i _ n hk rfl hid
  have hno (e : Deed) (he : d = e) (hl : e.lands id = false) (hh : e.hands id = false) :
      t.owner w id = some i := by
    subst he
    rw [hl, hh] at hkind
    rcases hkind with hkind | hkind <;> cases hkind
  cases hacts with
  | claimed => exact hno _ (List.mem_singleton.mp hd) rfl rfl
  | renewed => exact hno _ (List.mem_singleton.mp hd) rfl rfl
  | worked => cases hd
  | stopped => cases hd
  | composed => cases hd
  | spoiled => exact hno _ (List.mem_singleton.mp hd) rfl rfl
  | landed hresolves =>
    rw [List.mem_singleton.mp hd] at hkind
    rcases hkind with hkind | hkind
    · exact landing hresolves (of_decide_eq_true hkind)
    · cases hkind
  | settled hresolves =>
    rcases List.mem_cons.mp hd with hd | hd
    · rw [hd] at hkind
      rcases hkind with hkind | hkind
      · exact landing hresolves (of_decide_eq_true hkind)
      · cases hkind
    · exact hno _ (List.mem_singleton.mp hd) rfl rfl
  | refused hsending =>
    rcases List.mem_cons.mp hd with hd | hd
    · rw [hd] at hkind
      rcases hkind with hkind | hkind
      · cases hkind
      · exact mailing hsending (of_decide_eq_true hkind)
    · exact hno _ (List.mem_singleton.mp hd) rfl rfl
  | accepted hsending =>
    rcases List.mem_cons.mp hd with hd | hd
    · rw [hd] at hkind
      rcases hkind with hkind | hkind
      · cases hkind
      · exact mailing hsending (of_decide_eq_true hkind)
    · exact hno _ (List.mem_singleton.mp hd) rfl rfl

/-- Who stores the outcome of a row, or hands over the mail about it, took the row last. -/
theorem Leased.owner_of_deed {w : World} {id : NoticeId} {t : Traffic} (h : Leased w id t)
    (hsane : t.Sane) {i : Nat} {c : Call} (hi : t.calls[i]? = some c) {d : Deed}
    (hd : d ∈ c.deeds t.world) (hkind : d.lands id = true ∨ d.hands id = true) :
    t.owner w id = some i := by
  have hacts := c.acts_step t.world
  generalize (c.step t.world).1 = c', (c.step t.world).2 = w', c.deeds t.world = ds at hacts hd
  cases hacts with
  | created =>
    rw [List.mem_singleton.mp hd] at hkind
    rcases hkind with hkind | hkind <;> cases hkind
  | aside => cases hd
  | @worked k _ hk hgoing =>
    have hwi : t.workerOf? i = some k := (workerOf?_of_call hi).trans hk
    have hacts := (Worker.goes_step hsane.keyed (hsane.fits i k hwi) hgoing).acts
    exact h.owner_of_act hwi hacts hd hkind

/-! ## Every run -/

/-- If no clock goes back and no claim is renewed at once, then the takings of a row come in the
order of their instants, each its threshold after those before it. A claim is one of them; if one of
the others is later, then who has the claim cannot store an outcome any more, changes no row and
mails nothing. Only the last owner of a row stores its outcome and mails it. -/
theorem leases_are_fenced {w : World} (hkeyed : w.store.Keyed) (hclock : w.clock.Ascends)
    (moves : List Move) (hmoves : ∀ m ∈ moves, m.Patient) (id : NoticeId) :
    let t := Traffic.run { world := w } moves
    (t.takings w id).Pairwise Taking.Before ∧
    (∀ i k since, t.workerOf? i = some k → k.lease? = some (id, since) →
      (∃ taking ∈ t.takings w id, taking.call = some i ∧ taking.notice.updated = since) ∧
      ∀ later ∈ t.takings w id, since.toNanos < later.instant →
        (∀ n : Notice, n.id = id → n.id.isUnset = false →
          t.world.store.resolve n since = .ok none) ∧
        (t.step (.advance i)).world.store = t.world.store ∧
        (t.step (.advance i)).world.outbox.sent = t.world.outbox.sent) ∧
    ∀ i c d, t.calls[i]? = some c → d ∈ c.deeds t.world → d.lands id = true ∨ d.hands id = true →
      t.owner w id = some i := by
  intro t
  obtain ⟨hsane, hpatient⟩ := run_sane (P := Patient w id) (fun m hm => hm.mayCreate)
    (fun t m hsane hcalls hm h => h.step hsane hcalls hm) hkeyed
    ⟨hclock, (fun _ hc => nomatch hc), Leased.begin w id⟩ hmoves
  have hleased : Leased w id t := hpatient.leased
  refine ⟨hleased.ordered, fun i k since hk hlease => ?_, fun i c d hi hd hkind => ?_⟩
  · refine ⟨hleased.holds i k since hk hlease, fun later hlater hlt => ?_⟩
    have hlost := hleased.claimHolds_eq_false hlater hlt
    refine ⟨fun n hid hset => ?_, step_of_lost hsane hk hlease hlost⟩
    subst hid
    exact Store.resolve_eq_none hset hlost
  · exact hleased.owner_of_deed hsane hi hd hkind

/-- A worker whose claim another one has renewed cannot store an outcome any more, which is so
because the renewal has a later instant. -/
theorem taken_over_claim_is_lost :
    World.oneWaiting.store.Keyed ∧ World.oneWaiting.clock.Ascends ∧
    (∀ m ∈ takeOver, m.Patient) ∧
    let t := Traffic.run { world := World.oneWaiting } takeOver
    t.owner World.oneWaiting ⟨1⟩ = some 1 ∧
    (t.workerOf? 0).bind Worker.lease? = some (⟨1⟩, ⟨0, 0⟩) ∧
    ∀ n : Notice, n.id = ⟨1⟩ → n.id.isUnset = false →
      t.world.store.resolve n ⟨0, 0⟩ = .ok none := by
  have hkeyed : World.oneWaiting.store.Keyed := Store.Keyed.empty.insert _
  have hclock : World.oneWaiting.clock.Ascends := by
    intro i
    show ((i : Int) * Timestamp.nanosPerSecond + 0) ≤
      ((i + 1 : Nat) : Int) * Timestamp.nanosPerSecond + 0
    unfold Timestamp.nanosPerSecond
    omega
  have hmoves : ∀ m ∈ takeOver, m.Patient := by simp [takeOver, Move.Patient]
  refine ⟨hkeyed, hclock, hmoves, ?_⟩
  intro t
  obtain ⟨-, hholds, -⟩ := leases_are_fenced hkeyed hclock takeOver hmoves ⟨1⟩
  refine ⟨by decide +kernel, by decide +kernel, ?_⟩
  obtain ⟨-, hlost⟩ := hholds 0 _ ⟨0, 0⟩ rfl rfl
  exact (hlost ⟨some 1, ⟨⟨1⟩, ⟨7⟩, .processing, "", ⟨0, 0⟩, ⟨3, 0⟩⟩, some 1⟩
    (List.mem_of_getLast? rfl) (by decide +kernel)).1

end Traffic

end BookingNotices
