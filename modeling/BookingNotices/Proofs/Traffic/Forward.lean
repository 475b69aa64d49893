import BookingNotices.Proofs.Aging
import BookingNotices.Proofs.Room
import BookingNotices.Proofs.Traffic.Along

/-!
# Rows only move forward

* `Deed.writes`         : the deeds that write a row;
* `Traffic.OnTime`      : the clock of new surroundings does not go back;
* `Traffic.Spacious`    : sane traffic whose store has grown out of the first one (`Spacious.run`);
* `Traffic.Timely`      : no row was written, and no claim taken, later than the clock shows next
  (`Timely.step`);
* `Happens.advances`    : one move takes the status of a row along one arrow at most;
* `rows_only_move_forward` : no row is lost, each keeps its identity, its booking and its creation,
  and one that is final is never written again.

Three kinds of write replace a whole row. A claim and a renewal write what they have read in the
same transaction. An outcome is written from a copy that may be old; but its claim still holds then,
so nobody has written the row since the copy was made.
-/

namespace BookingNotices

namespace Deed

/-- A row is written. -/
@[simp] def writes (id : NoticeId) : Deed → Bool
  | .created _ (.ok n) _ => n.id = id
  | .claimed n => n.id = id
  | .renewed n _ => n.id = id
  | .landed n => n.id = id
  | _ => false

end Deed

/-! ## Single steps -/

namespace Worker

/-- A step changes the status of one row at most, along one arrow. -/
theorem Acts.advances {k k' : Worker} {w w' : World} {ds : List Deed} (h : k.Acts w k' w' ds)
    (hfits : k.Fits w.store) {id : NoticeId} {row row' : Notice}
    (hrow : w.store.rows.find? id = some row) (hrow' : w'.store.rows.find? id = some row') :
    row'.status = row.status ∨ row.status.mayBecome row'.status = true := by
  have puts {old n : Notice} (hold : w.store.rows.find? n.id = some old)
      (hstore : w'.store = w.store.put n)
      (hn : n.status = old.status ∨ old.status.mayBecome n.status = true) :
      row'.status = row.status ∨ row.status.mayBecome row'.status = true := by
    rw [hstore] at hrow'
    rcases Store.find?_put_cases hrow' with ⟨rfl, rfl⟩ | ⟨-, hrow'⟩
    · rw [hold] at hrow
      cases hrow
      exact hn
    · rw [hrow] at hrow'
      cases hrow'
      exact Or.inl rfl
  cases h.stores hfits with
  | nothing _ hstore =>
    rw [hstore, hrow] at hrow'
    cases hrow'
    exact Or.inl rfl
  | claimed _ _ hold hpending hn hstore =>
    refine puts hold hstore (Or.inr ?_)
    rw [hn, hpending]
    rfl
  | renewed _ _ hold _ hn hstore => exact puts hold hstore (Or.inl (by rw [hn]))
  | resolved _ hold hprocessing _ hfinal hstore =>
    refine puts hold hstore (Or.inr ?_)
    rw [hprocessing]
    rcases (Notice.Status.isFinal_iff _).mp hfinal with hn | hn <;> rw [hn] <;> decide

/-- A final row is not written. -/
theorem Acts.writes {k k' : Worker} {w w' : World} {ds : List Deed} (h : k.Acts w k' w' ds)
    {id : NoticeId} {row : Notice} (hrow : w.store.rows.find? id = some row)
    (hfinal : row.status.isFinal = true) : ds.countP (Deed.writes id) = 0 := by
  have other {n old : Notice} (hold : w.store.rows.find? n.id = some old)
      (hopen : old.status.isFinal = false) : n.id ≠ id := by
    rintro rfl
    rw [hold] at hrow
    cases hrow
    rw [hfinal] at hopen
    cases hopen
  have resolved {n : Notice} (hresolves : k.Resolves w n w') : n.id ≠ id := by
    obtain ⟨since, booking, user, -, hclaim⟩ := hresolves.claim
    obtain ⟨old, hold, hprocessing, -⟩ := Store.claimHolds_iff.mp hclaim
    exact other hold (by rw [hprocessing]; rfl)
  cases h with
  | claimed hk hold hpending hn hw => simp [other hold (by rw [hpending]; rfl)]
  | renewed hk hold hstale hn hw =>
    simp [other hold (by rw [Notice.processing_of_isStale hstale]; rfl)]
  | landed hresolves => simp [resolved hresolves]
  | settled hresolves => simp [resolved hresolves]
  | _ => rfl

end Worker

namespace Traffic

/-! ## Single moves -/

/-- One move takes the status of a row along one arrow at most. -/
theorem Happens.advances {t t' : Traffic} (h : t.Happens t') (hsane : t.Sane) (hroom : t.Roomy)
    {id : NoticeId} {row row' : Notice} (hrow : t.world.store.rows.find? id = some row)
    (hrow' : t'.world.store.rows.find? id = some row') :
    row'.status = row.status ∨ row.status.mayBecome row'.status = true := by
  cases h with
  | rested hrest =>
    rw [hrest.store, hrow] at hrow'
    cases hrow'
    exact Or.inl rfl
  | @created i c c' booking cause hi hc =>
    have hroom : t.world.store.Roomy := hroom c (List.mem_of_getElem? hi) (by simp [hc])
    rcases t.world.create_cases booking cause with ⟨e, he, hw⟩ | ⟨n, w', -, -, -, hw, -⟩
    · rw [hw.store, hrow] at hrow'
      cases hrow'
      exact Or.inl rfl
    · rw [hw, hroom.find?_insert _ hrow] at hrow'
      cases hrow'
      exact Or.inl rfl
  | worked hi hk hk' hacts =>
    exact hacts.advances (hsane.fits _ _ ((workerOf?_of_call hi).trans hk)) hrow hrow'

/-- No move writes a final row. -/
theorem Happens.writes {t t' : Traffic} (h : t.Happens t') (hroom : t.Roomy) {id : NoticeId}
    {row : Notice} (hrow : t.world.store.rows.find? id = some row)
    (hfinal : row.status.isFinal = true) :
    t'.tally (Deed.writes id) = t.tally (Deed.writes id) := by
  cases h with
  | rested hrest => rw [hrest.tally]
  | @created i c c' booking cause hi hc =>
    have hroom : t.world.store.Roomy := hroom c (List.mem_of_getElem? hi) (by simp [hc])
    rw [tally_append]
    refine Nat.add_eq_left.mpr ?_
    unfold Call.creationDeed
    rcases t.world.create_cases booking cause with ⟨e, he, hw⟩ | ⟨n, w', -, -, hn, -, -⟩
    · rw [he]
      rfl
    · have hid : (t.world.store.insert n).1.id ≠ id := by
        rintro rfl
        exact Option.some_ne_none row (hrow.symm.trans hroom)
      rw [hn]
      simp [hid]
  | worked hi hk hk' hacts =>
    rw [tally_append, hacts.writes hrow hfinal]
    rfl

/-! ## Room -/

/-- Sane traffic whose store has grown out of the first one. -/
structure Spacious (w : World) (t : Traffic) : Prop extends Sane t where
  grown : ∃ made, w.store.Grown t.world.store made

theorem Spacious.begin {w : World} (hfiled : w.store.Filed) : Spacious w { world := w } :=
  ⟨Sane.of_keyed hfiled.keyed, [], Store.Grown.refl w.store⟩

theorem Spacious.roomy {w : World} {t : Traffic} (h : Spacious w t) (hfiled : w.store.Filed) :
    t.Roomy := by
  obtain ⟨made, hgrown⟩ := h.grown
  exact fun _ _ _ => hgrown.roomy hfiled

theorem Spacious.happens {w : World} {t t' : Traffic} (h : Spacious w t) (hfiled : w.store.Filed)
    (hhappens : t.Happens t') : Spacious w t' := by
  refine ⟨h.toSane.happens (h.roomy hfiled) hhappens, ?_⟩
  obtain ⟨made, hgrown⟩ := h.grown
  cases hhappens with
  | rested hrest => exact ⟨made, by rw [hrest.store]; exact hgrown⟩
  | @created i c c' booking cause hi hc =>
    rcases t.world.create_cases booking cause with ⟨e, he, hw⟩ | ⟨n, w', rfl, hzero, -, hw, -⟩
    · exact ⟨made, by rw [hw.store]; exact hgrown⟩
    · exact ⟨booking :: made, by rw [hw]; exact hgrown.insert hfiled hzero⟩
  | worked hi hk hk' hacts =>
    rcases hacts.store (h.fits _ _ ((workerOf?_of_call hi).trans hk)) with
      hstore | ⟨row, n, hrow, hfollows, hstore⟩
    · exact ⟨made, by rw [hstore]; exact hgrown⟩
    · exact ⟨made, by rw [hstore]; exact hgrown.put hrow hfollows.booking⟩

theorem Spacious.run {w : World} {t : Traffic} (h : Spacious w t) (hfiled : w.store.Filed)
    (moves : List Move) : Spacious w (t.run moves) :=
  run_induction (Q := fun _ => True)
    (fun _ m h _ => h.happens hfiled (happens_step h.toSane m)) moves t h fun _ _ => trivial

/-! ## Time -/

/-- The clock of new surroundings does not go back. -/
def OnTime (t : Traffic) : Move → Prop
  | .change s => s.clock.Rising ∧ t.world.next ≤ s.clock.answer s.clock.used
  | _ => True

/-- No row was written, and no claim taken, later than the clock shows next. -/
structure Timely (t : Traffic) : Prop where
  clock : t.world.clock.Rising
  written : t.world.store.WrittenBy t.world.next
  dated : ∀ i k, t.workerOf? i = some k → k.Dated t.world.next

theorem clock_step {t : Traffic} {m : Move} (hm : t.OnTime m) (hclock : t.world.clock.Rising) :
    (t.step m).world.clock.Rising ∧ t.world.next ≤ (t.step m).world.next := by
  by_cases hchange : ∃ s, m = .change s
  · obtain ⟨s, rfl⟩ := hchange
    exact hm
  · have hticks := t.habit_step World.ticks_habit World.ticks_publishes World.ticks_queues
      fun s hs => hchange ⟨s, hs⟩
    exact ⟨hticks.rising hclock, hticks.next_le hclock⟩

theorem Timely.happens {t t' : Traffic} (h : t.Timely) (hsane : t.Sane) (hroom : t.Roomy)
    (hhappens : t.Happens t') (hclock : t'.world.clock.Rising)
    (hnext : t.world.next ≤ t'.world.next) :
    t'.Timely ∧ t.world.store.Ages t'.world.store := by
  have hwritten := h.written.mono hnext
  have hdated (i : Nat) (k : Worker) (hk : t.workerOf? i = some k) : k.Dated t'.world.next :=
    (h.dated i k hk).mono hnext
  cases hhappens with
  | rested hrest =>
    refine ⟨⟨hclock, by rw [hrest.store]; exact hwritten, fun i k hk => ?_⟩,
      by rw [hrest.store]; exact Store.Ages.refl _⟩
    rcases hrest.worker i k hk with hidle | hk
    · exact .of_lease? hidle.1 _
    · exact hdated i k hk
  | @created i c c' booking cause hi hc hidle hidle' =>
    have hroom : t.world.store.Roomy := hroom c (List.mem_of_getElem? hi) (by simp [hc])
    have hdated' : ∀ j k, (Traffic.mk (t.world.create booking cause).2 (t.calls.set i c')
        (t.log ++ entries i [Call.creationDeed t.world booking cause])).workerOf? j = some k →
        k.Dated (t.world.create booking cause).2.next := by
      intro j k hk
      rw [workerOf?_set hi] at hk
      split at hk
      · exact .of_lease? (hidle' k hk).1 _
      · exact hdated j k hk
    rcases t.world.create_cases booking cause with ⟨e, he, hw⟩ | ⟨n, w', rfl, -, -, hw, -⟩
    · exact ⟨⟨hclock, by rw [hw.store]; exact hwritten, hdated'⟩,
        by rw [hw.store]; exact Store.Ages.refl _⟩
    · have hstore := congrArg World.store hw
      dsimp only at hstore
      exact ⟨⟨hclock, by rw [hstore]; exact hwritten.insert hnext, hdated'⟩,
        by rw [hstore]; exact Store.Ages.insert hroom _⟩
  | @worked i c c' k k' w' ds hi hk hk' hacts hfits hstep =>
    have hfits₀ := hsane.fits i k ((workerOf?_of_call hi).trans hk)
    have hdated₀ := h.dated i k ((workerOf?_of_call hi).trans hk)
    have hcopies : Worker.Copies k t.world k' w' := by
      have := Worker.copies_step hsane.keyed hfits₀
      rwa [hstep] at this
    have hticks : t.world.Ticks w' := by
      have := Worker.habit_step World.ticks_habit k t.world fun _ _ => World.ticks_publishes
      rwa [hstep] at this
    have hdated' : ∀ j k, (Traffic.mk w' (t.calls.set i c') (t.log ++ entries i ds)).workerOf? j =
        some k → k.Dated w'.next := by
      intro j l hl
      rw [workerOf?_set hi] at hl
      split at hl
      · rw [hk'] at hl
        cases hl
        exact hcopies.dated hticks h.clock hdated₀
      · exact hdated j l hl
    rcases hacts.ages hfits₀ hcopies hticks h.clock h.written hdated₀ with
      hstore | ⟨row, n, hrow, hbefore, hafter, hstore⟩
    · exact ⟨⟨hclock, by rw [hstore]; exact hwritten, hdated'⟩,
        by rw [hstore]; exact Store.Ages.refl _⟩
    · exact ⟨⟨hclock, by rw [hstore]; exact hwritten.put hafter, hdated'⟩,
        by rw [hstore]; exact Store.Ages.put hrow hbefore⟩

theorem Timely.begin {w : World} (hclock : w.clock.Rising) (hwritten : w.store.WrittenBy w.next) :
    Timely { world := w } := ⟨hclock, hwritten, fun _ _ hk => nomatch hk⟩

theorem Timely.run {w : World} (hfiled : w.store.Filed) {t : Traffic} {moves : List Move}
    (halong : t.Along OnTime moves) (hspacious : Spacious w t) (ht : t.Timely) :
    (t.run moves).Timely ∧ t.world.store.Ages (t.run moves).world.store := by
  have hrun := halong.run
    (P := fun t' => Spacious w t' ∧ t'.Timely ∧ t.world.store.Ages t'.world.store)
    (fun t' m ht' hm => by
      obtain ⟨hspacious, htimely, hages⟩ := ht'
      have hhappens := happens_step hspacious.toSane m
      obtain ⟨hclock, hnext⟩ := clock_step hm htimely.clock
      obtain ⟨htimely', hages'⟩ := htimely.happens hspacious.toSane (hspacious.roomy hfiled)
        hhappens hclock hnext
      exact ⟨hspacious.happens hfiled hhappens, htimely', hages.trans hages'⟩)
    ⟨hspacious, ht, Store.Ages.refl _⟩
  exact hrun.2

/-! ## Every run -/

/-- What happens to a row from one state of the traffic to a later one. -/
structure Forward (t t' : Traffic) : Prop where
  evolves : t.world.store.Evolves t'.world.store
  unwritten : ∀ id row, t.world.store.rows.find? id = some row → row.status.isFinal = true →
    t'.tally (Deed.writes id) = t.tally (Deed.writes id)

theorem Forward.refl (t : Traffic) : t.Forward t := ⟨Store.Evolves.refl _, fun _ _ _ _ => rfl⟩

theorem Forward.trans {a b c : Traffic} (h₁ : a.Forward b) (h₂ : b.Forward c) : a.Forward c := by
  refine ⟨h₁.evolves.trans h₂.evolves, fun id row hrow hfinal => ?_⟩
  rw [h₂.unwritten id row (h₁.evolves.final hrow hfinal) hfinal, h₁.unwritten id row hrow hfinal]

theorem Spacious.forward {w : World} {t t' : Traffic} (h : Spacious w t) (hfiled : w.store.Filed)
    (hhappens : t.Happens t') : t.Forward t' :=
  ⟨hhappens.evolves h.toSane (h.roomy hfiled),
    fun _ _ hrow hfinal => hhappens.writes (h.roomy hfiled) hrow hfinal⟩

theorem Spacious.forward_run {w : World} {t : Traffic} (h : Spacious w t) (hfiled : w.store.Filed)
    (moves : List Move) : t.Forward (t.run moves) := by
  have hrun := run_induction (P := fun t' => Spacious w t' ∧ t.Forward t') (Q := fun _ => True)
    (fun t' m ht' _ => by
      have hhappens := happens_step ht'.1.toSane m
      exact ⟨ht'.1.happens hfiled hhappens, ht'.2.trans (ht'.1.forward hfiled hhappens)⟩)
    moves t ⟨h, Forward.refl t⟩ fun _ _ => trivial
  exact hrun.2

/-- Whatever is in a well-kept store, and however creations, workers, sweeps and deliveries are
mixed and fail, no row is lost. It keeps its identity, its booking and the instant of its creation,
each move takes its status along one arrow at most, and once it is final it stays as it is and is
never written again. If the clock never goes back, and no row is newer than it shows at first, then
the instant of the last step on a row never goes back, either. -/
theorem rows_only_move_forward {w : World} (hfiled : w.store.Filed) (before after : List Move)
    {id : NoticeId} {row : Notice}
    (hrow : (Traffic.run { world := w } before).world.store.rows.find? id = some row) :
    let t := Traffic.run { world := w } before
    (∀ m, ∃ row', (t.step m).world.store.rows.find? id = some row' ∧
      (row'.status = row.status ∨ row.status.mayBecome row'.status = true)) ∧
    ∃ row', (t.run after).world.store.rows.find? id = some row' ∧
      row'.id = id ∧ row'.booking = row.booking ∧ row'.created = row.created ∧
      row.status.rank ≤ row'.status.rank ∧
      (row.status.isFinal = true → row' = row ∧
        (t.run after).tally (Deed.writes id) = t.tally (Deed.writes id)) ∧
      (w.clock.Rising → w.store.WrittenBy w.next →
        Along OnTime { world := w } (before ++ after) → row.updated ≤ row'.updated) := by
  intro t
  have hspacious : Spacious w t := (Spacious.begin hfiled).run hfiled before
  have hforward := hspacious.forward_run hfiled after
  refine ⟨fun m => ?_, ?_⟩
  · have hhappens := happens_step hspacious.toSane m
    obtain ⟨row', hrow', -⟩ := (hspacious.forward hfiled hhappens).evolves id row hrow
    exact ⟨row', hrow', hhappens.advances hspacious.toSane (hspacious.roomy hfiled) hrow hrow'⟩
  · obtain ⟨row', hrow', hfollows⟩ := hforward.evolves id row hrow
    have hid : row'.id = id := ((hspacious.run hfiled after).keyed) id row' hrow'
    refine ⟨row', hrow', hid, hfollows.booking, hfollows.created, hfollows.rank,
      fun hfinal => ⟨hfollows.final hfinal, hforward.unwritten id row hrow hfinal⟩,
      fun hclock hwritten halong => ?_⟩
    obtain ⟨hbefore, hafter⟩ := Along.append.mp halong
    have htimely : t.Timely :=
      (Timely.run hfiled hbefore (Spacious.begin hfiled) (Timely.begin hclock hwritten)).1
    obtain ⟨row'', hrow'', hupdated⟩ := (Timely.run hfiled hafter hspacious htimely).2 id row hrow
    rw [hrow'] at hrow''
    cases hrow''
    exact hupdated

/-- A row that waits is claimed, its claim is renewed, and it ends well. -/
theorem waiting_row_moves_on :
    let moves := takeOver ++ List.replicate 6 (.advance 1)
    World.oneWaiting.store.Filed ∧ World.oneWaiting.clock.Rising ∧
    ∃ row row', World.oneWaiting.store.rows.find? ⟨1⟩ = some row ∧
      (Traffic.run { world := World.oneWaiting } moves).world.store.rows.find? ⟨1⟩ = some row' ∧
      row.status = .pending ∧ row'.status = .success ∧ row'.booking = row.booking ∧
      row.updated ≤ row'.updated := by
  intro moves
  have hfiled : World.oneWaiting.store.Filed := Store.Filed.empty.insert (by decide) _
  have hclock : World.oneWaiting.clock.Rising :=
    fun i _ => (Timestamp.le_iff _ _).mpr (Or.inl (Int.lt_succ (i : Int)))
  have hwritten : World.oneWaiting.store.WrittenBy World.oneWaiting.next :=
    (Store.WrittenBy.empty _).insert (Timestamp.le_refl _)
  have hbefore : (World.oneWaiting.store.rows.find? ⟨1⟩).map Notice.status = some .pending := by
    decide +kernel
  have hafter : ((Traffic.run { world := World.oneWaiting } moves).world.store.rows.find? ⟨1⟩).map
      Notice.status = some .success := by decide +kernel
  obtain ⟨row, hrow, hpending⟩ := Option.map_eq_some_iff.mp hbefore
  obtain ⟨_, row', hrow', -, hbooking, -, -, -, hupdated⟩ :=
    rows_only_move_forward hfiled [] moves hrow
  have hrow' : (Traffic.run { world := World.oneWaiting } moves).world.store.rows.find? ⟨1⟩ =
      some row' := hrow'
  rw [hrow'] at hafter
  exact ⟨hfiled, hclock, row, row', hrow, hrow', hpending, Option.some.inj hafter, hbooking,
    hupdated hclock hwritten (by simp [moves, takeOver, Along, OnTime])⟩

end Traffic

end BookingNotices
