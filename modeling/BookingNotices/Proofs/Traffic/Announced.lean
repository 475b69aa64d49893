import BookingNotices.Proofs.Announcement
import BookingNotices.Proofs.Traffic.Along
import BookingNotices.Proofs.Traffic.Dedup

/-!
# Rows and their announcements

* `Notice.announcements` : a row is announced when it is created, and again when it is claimed;
* `World.Tallied`        : what was published announces the rows that are stored, so often each
  (`Tallied.step`);
* `Move.Foreign`         : nobody else publishes announcements;
* `announcements_follow_rows` : as long as the store does not fail, a row that waits was announced
  once, every other row twice, and nothing else was ever announced.

The store and the bus are two things, and no step changes both at once. But an announcement is
refused before its row is stored, and a row is stored right after its announcement was accepted.
-/

namespace BookingNotices

/-- How often a row was announced: when it was created, and when it was claimed. -/
def Notice.announcements (n : Notice) : Nat := if n.status = .pending then 1 else 2

theorem Notice.announcements_of_pending {n : Notice} (h : n.status = .pending) :
    n.announcements = 1 := if_pos h

theorem Notice.announcements_of_ne {n : Notice} (h : n.status ≠ .pending) : n.announcements = 2 :=
  if_neg h

namespace Store

/-- How often the row of an identity was announced. -/
def announcements (s : Store) (id : NoticeId) : Nat :=
  match s.rows.find? id with
  | none => 0
  | some n => n.announcements

theorem announcements_of_some {s : Store} {id : NoticeId} {n : Notice}
    (h : s.rows.find? id = some n) : s.announcements id = n.announcements := by
  unfold announcements
  rw [h]

theorem announcements_of_none {s : Store} {id : NoticeId} (h : s.rows.find? id = none) :
    s.announcements id = 0 := by
  unfold announcements
  rw [h]

theorem announcements_put (s : Store) (n : Notice) (id : NoticeId) :
    (s.put n).announcements id = if n.id = id then n.announcements else s.announcements id := by
  by_cases hid : n.id = id
  · subst hid
    rw [if_pos rfl, announcements_of_some (find?_put_self s n)]
  · unfold announcements
    rw [if_neg hid, find?_put, if_neg hid]

theorem announcements_insert {s : Store} (hroom : s.Roomy) (n : Notice) (id : NoticeId) :
    (s.insert n).2.announcements id =
      s.announcements id + if (s.insert n).1.id = id then n.announcements else 0 := by
  have hnext : (s.insert n).1.id = ⟨s.lastId + 1⟩ := rfl
  rw [hnext]
  by_cases hid : (⟨s.lastId + 1⟩ : NoticeId) = id
  · subst hid
    have hnew : (s.insert n).2.rows.find? ⟨s.lastId + 1⟩ = some (s.insert n).1 := by
      rw [find?_insert, if_pos rfl]
      rfl
    rw [if_pos rfl, announcements_of_none hroom, announcements_of_some hnew, Nat.zero_add]
    rfl
  · unfold announcements
    rw [if_neg hid, find?_insert, if_neg hid]
    rfl

end Store

namespace World

/-- What was published announces the rows that are stored, so often each. -/
structure Tallied (w : World) : Prop where
  counted : ∀ id, w.bus.published.countP (Event.announces id) = w.store.announcements id
  stored : ∀ e ∈ w.bus.published, e.topic = Event.Created.topic →
    ∃ id n, e.AnnouncesOnly id ∧ w.store.rows.find? id = some n

theorem Tallied.begin {w : World} (hempty : w.store = {}) (hpublished : w.bus.published = []) :
    w.Tallied := by
  refine ⟨fun id => ?_, fun e he => ?_⟩
  · rw [hempty, hpublished]
    rfl
  · rw [hpublished] at he
    cases he

/-- Nothing is published, and no row is announced more often. -/
theorem Tallied.still {w w' : World} (h : w.Tallied)
    (hpublished : w'.bus.published = w.bus.published) (hevolves : w.store.Evolves w'.store)
    (hstore : ∀ id, w'.store.announcements id = w.store.announcements id) : w'.Tallied := by
  refine ⟨fun id => ?_, fun e he htopic => ?_⟩
  · rw [hpublished, h.counted, hstore]
  · rw [hpublished] at he
    obtain ⟨id, n, honly, hn⟩ := h.stored e he htopic
    obtain ⟨n', hn', -⟩ := hevolves id n hn
    exact ⟨id, n', honly, hn'⟩

/-- A row that is announced once more is counted once more. -/
theorem Tallied.step {w w' : World} {id? : Option NoticeId} (h : w.Tallied)
    (hannounced : w.Announced id? w') (hevolves : w.store.Evolves w'.store)
    (hstore : ∀ id, w'.store.announcements id =
      w.store.announcements id + if id? = some id then 1 else 0) : w'.Tallied := by
  cases id? with
  | none => exact h.still hannounced.published_none hevolves hstore
  | some new =>
    obtain ⟨event, hmore, honly⟩ := hannounced.published_some
    refine ⟨fun id => ?_, fun e he htopic => ?_⟩
    · rw [hmore, List.countP_append, h.counted, hstore, List.countP_singleton,
        honly.announces_iff]
      simp
    · rw [hmore] at he
      rcases List.mem_append.mp he with he | he
      · obtain ⟨id, n, honly, hn⟩ := h.stored e he htopic
        obtain ⟨n', hn', -⟩ := hevolves id n hn
        exact ⟨id, n', honly, hn'⟩
      · rw [List.mem_singleton.mp he]
        refine ⟨new, ?_⟩
        cases hn : w'.store.rows.find? new with
        | none =>
          have := hstore new
          rw [Store.announcements_of_none hn, if_pos rfl] at this
          omega
        | some n => exact ⟨n, honly, rfl⟩

/-- Another event is published, or refused. -/
theorem Tallied.publish {w : World} (h : w.Tallied) {e : Event}
    (htopic : e.topic ≠ Event.Created.topic) : (w.publish e).2.Tallied := by
  unfold World.publish Bus.publish
  dsimp only
  split
  · exact ⟨h.counted, h.stored⟩
  · refine ⟨fun id => ?_, fun e' he' htopic' => ?_⟩
    · show (w.bus.published ++ [e]).countP _ = _
      rw [List.countP_append, List.countP_singleton, Event.announces_of_topic htopic, h.counted]
      rfl
    · have he' : e' ∈ w.bus.published ++ [e] := he'
      rcases List.mem_append.mp he' with he' | he'
      · exact h.stored e' he' htopic'
      · rw [List.mem_singleton.mp he'] at htopic'
        exact absurd htopic' htopic

theorem Tallied.create {w : World} (h : w.Tallied) (hreliable : w.Reliable) (hroom : w.store.Roomy)
    (booking : BookingId) (cause : Option String) : (w.create booking cause).2.Tallied := by
  have hannounced := announced_create hreliable booking cause
  rcases w.create_cases booking cause with ⟨e, he, hw⟩ | ⟨n, w', hn, -, hresult, hw, -⟩
  · rw [he] at hannounced
    exact h.still hannounced.published_none (Store.Evolves.of_eq hw.store) fun id => by
      rw [hw.store]
  · have hstore : (w.create booking cause).2.store = (w.store.insert n).2 := by rw [hw]
    rw [hresult] at hannounced
    refine h.step hannounced ?_ fun id => ?_
    · rw [hstore]
      exact Store.Evolves.insert hroom n
    · have hpending : n.announcements = 1 := by
        rw [hn]
        exact Notice.announcements_of_pending rfl
      rw [hstore, Store.announcements_insert hroom, hpending]
      simp [Except.toOption]

end World

/-- A worker that takes a row announces it; none of its other steps does. -/
theorem Worker.Acts.announcements {k k' : Worker} {w w' : World} {ds : List Deed}
    (h : k.Acts w k' w' ds) (hfits : k.Fits w.store) (id : NoticeId) :
    w'.store.announcements id =
      w.store.announcements id + if announced? k k' = some id then 1 else 0 := by
  have puts {row n : Notice} (hrow : w.store.rows.find? n.id = some row)
      (hstore : w'.store = w.store.put n) (hnone : announced? k k' = none)
      (hopen : row.status ≠ .pending) (hn : n.status ≠ .pending) :
      w'.store.announcements id =
        w.store.announcements id + if announced? k k' = some id then 1 else 0 := by
    rw [hstore, hnone, Store.announcements_put]
    split
    · rename_i hid
      subst hid
      rw [Store.announcements_of_some hrow, Notice.announcements_of_ne hn,
        Notice.announcements_of_ne hopen]
      rfl
    · rfl
  cases h.stores hfits with
  | nothing hnot hstore =>
    rw [hstore, announced?_eq_none hnot]
    rfl
  | @claimed row n now hk hk' hrow hpending hn hstore =>
    subst hk hk'
    rw [hstore, Store.announcements_put]
    have hclaimed : n.announcements = 2 :=
      Notice.announcements_of_ne (by rw [hn]; exact Notice.Status.noConfusion)
    by_cases hid : n.id = id
    · subst hid
      rw [if_pos rfl, Store.announcements_of_some hrow,
        Notice.announcements_of_pending hpending, hclaimed]
      simp [announced?]
    · simp [announced?, hid]
  | renewed hk _ hrow hprocessing hn hstore =>
    subst hk
    refine puts hrow hstore rfl ?_ ?_
    · rw [hprocessing]
      exact Notice.Status.noConfusion
    · rw [hn]
      show _ ≠ _
      rw [hprocessing]
      exact Notice.Status.noConfusion
  | resolved hresolves hrow hprocessing hkin hfinal hstore =>
    obtain ⟨_, _, _, rfl, -⟩ := hresolves.claim
    refine puts hrow hstore rfl ?_ fun hpending => ?_
    · rw [hprocessing]
      exact Notice.Status.noConfusion
    · rw [hpending] at hfinal
      cases hfinal

/-- Nobody else publishes announcements. -/
def Move.Foreign : Move → Prop
  | .publish e => e.topic ≠ Event.Created.topic
  | _ => True

namespace Traffic

/-- Sound traffic over a store that does not fail, with its announcements. -/
structure Announced (t : Traffic) : Prop extends Sound t where
  reliable : t.world.Reliable
  tallied : t.world.Tallied

theorem Announced.step {t : Traffic} (h : t.Announced) {m : Move} (hm : m.Reliable)
    (hforeign : m.Foreign) : (t.step m).Announced := by
  refine ⟨h.toSound.happens (happens_step h.toSane m), reliable_step h.toSane hm h.reliable, ?_⟩
  have hchanges := changes_step t m
  by_cases hpublish : ∃ e, m = .publish e
  · obtain ⟨e, rfl⟩ := hpublish
    exact h.tallied.publish hforeign
  · generalize (t.step m).world = w' at hchanges
    cases hchanges with
    | aside hstore hpublished =>
      exact h.tallied.still (hpublished fun e he => hpublish ⟨e, he⟩) (Store.Evolves.of_eq hstore)
        fun id => by rw [hstore]
    | created => exact h.tallied.create h.reliable h.sound.roomy _ _
    | worked hadvance hk hgoing =>
      have hfits := h.fits _ _ hk
      have hacts := (Worker.goes_step h.keyed hfits hgoing).acts
      exact h.tallied.step (Worker.announced_step h.reliable _) (hacts.evolves hfits)
        (hacts.announcements hfits)

theorem Announced.run {t : Traffic} (h : t.Announced) {moves : List Move}
    (hmoves : ∀ m ∈ moves, m.Reliable ∧ m.Foreign) :
    (t.run moves).Announced ∧ t.world.store.Evolves (t.run moves).world.store :=
  run_induction (P := fun t' => t'.Announced ∧ t.world.store.Evolves t'.world.store)
    (fun _ m ht' hm => ⟨ht'.1.step hm.1 hm.2, ht'.2.trans
      ((happens_step ht'.1.toSane m).evolves ht'.1.toSane ht'.1.toSound.roomy)⟩)
    moves t ⟨h, Store.Evolves.refl _⟩ hmoves

/-- In traffic that begins with an empty store and an empty bus, over a store that does not fail,
and with announcements that nobody else publishes, a row that waits was announced once, every other
row twice, and no announcement is about anything else; however creations, workers, sweeps and
deliveries are mixed, and whatever else fails. So nothing that follows announces a row again that
does not wait any more. -/
theorem announcements_follow_rows {w : World} (hempty : w.store = {})
    (hpublished : w.bus.published = []) (hreliable : w.Reliable) {moves : List Move}
    (hmoves : ∀ m ∈ moves, m.Reliable ∧ m.Foreign) :
    let t := Traffic.run { world := w } moves
    (∀ id, t.world.bus.published.countP (Event.announces id) =
      match t.world.store.rows.find? id with
      | none => 0
      | some row => if row.status = .pending then 1 else 2) ∧
    (∀ e ∈ t.world.bus.published, e.topic = Event.Created.topic →
      ∃ id row, Event.Created.ofEvent e = .ok ⟨id⟩ ∧ t.world.store.rows.find? id = some row) ∧
    ∀ id row, t.world.store.rows.find? id = some row → row.status ≠ .pending →
      ∀ later, (∀ m ∈ later, m.Reliable ∧ m.Foreign) →
        (t.run later).world.bus.published.countP (Event.announces id) = 2 := by
  intro t
  have hbegin : Announced { world := w } :=
    ⟨Sound.begin hempty, hreliable, World.Tallied.begin hempty hpublished⟩
  have ht : t.Announced := (hbegin.run hmoves).1
  refine ⟨ht.tallied.counted, fun e he htopic => ?_, fun id row hrow hopen later hlater => ?_⟩
  · obtain ⟨id, row, honly, hrow⟩ := ht.tallied.stored e he htopic
    exact ⟨id, row, honly.2, hrow⟩
  · obtain ⟨hend, hevolves⟩ := ht.run hlater
    obtain ⟨row', hrow', hfollows⟩ := hevolves id row hrow
    have hopen' : row'.status ≠ .pending := fun hpending => hopen (hfollows.pending hpending)
    rw [hend.tallied.counted, Store.announcements_of_some hrow',
      Notice.announcements_of_ne hopen']

/-- A world in which the first announcement is refused. -/
def shy : World :=
  let w := World.oneBooking.register
  { w with bus := w.bus.refuseNext 1 }

/-- A creation is tried twice, and then events are delivered until nothing waits. -/
def triedTwice : List Move :=
  [.start (.create ⟨7⟩ none), .advance 0, .start (.create ⟨7⟩ none), .advance 1,
    .start .dispatch] ++ List.replicate 20 (.advance 2)

/-- The refused announcement does not count; the row is announced when it is created and when it is
claimed, and never again. -/
theorem refused_announcement_does_not_count :
    shy.store = {} ∧ shy.bus.published = [] ∧ shy.Reliable ∧
    (∀ m ∈ triedTwice, m.Reliable ∧ m.Foreign) ∧
    ∀ later, (∀ m ∈ later, m.Reliable ∧ m.Foreign) →
      ((Traffic.run { world := shy } triedTwice).run later).world.bus.published.countP
        (Event.announces ⟨1⟩) = 2 := by
  have hempty : shy.store = {} := rfl
  have hpublished : shy.bus.published = [] := rfl
  have hreliable : shy.Reliable := fun _ => rfl
  have hmoves : ∀ m ∈ triedTwice, m.Reliable ∧ m.Foreign := by
    simp [triedTwice, Move.Reliable, Move.Foreign]
  have hstatus : ((Traffic.run { world := shy } triedTwice).world.store.rows.find? ⟨1⟩).map
      Notice.status = some .success := by decide +kernel
  obtain ⟨row, hrow, hsuccess⟩ := Option.map_eq_some_iff.mp hstatus
  obtain ⟨-, -, hlater⟩ := announcements_follow_rows hempty hpublished hreliable hmoves
  exact ⟨hempty, hpublished, hreliable, hmoves,
    hlater ⟨1⟩ row hrow (by rw [hsuccess]; exact Notice.Status.noConfusion)⟩

end Traffic

end BookingNotices
