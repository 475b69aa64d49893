import BookingNotices.Proofs.Informed
import BookingNotices.Proofs.Traffic.Along
import BookingNotices.Proofs.Traffic.Dedup

/-!
# Rows and their invoices

* `Traffic.Keeps`  : new surroundings keep bookings under their own identities, and lose no blob;
* `Traffic.Holds`  : the worker of a call has looked up a booking for its claimed notice, and has
  had it at hand ever since;
* `Traffic.Landed` : the outcome of a row was stored by such a worker;
* `Traffic.Accounted`   : what rows and workers know, after some moves (`Accounted.concat`);
* `documents_follow_outcomes` : a row has a document exactly if the worker that stored its outcome
  had found the booking confirmed; the document is then the invoice of that booking, and it is
  there.

A worker sets the document on its own copy, after the invoice is stored. The copy becomes the row
only if the claim still holds, so a booking that changes between the lookups of two workers cannot
leave a document behind.
-/

namespace BookingNotices

/-! ## Records and blobs -/

namespace World

/-- The bookings stay as they are, and no blob is lost. -/
structure Preserves (w w' : World) : Prop where
  bookings : w'.registry.bookings = w.registry.bookings
  blobs : ∀ name, w.shelf.has name = true → w'.shelf.has name = true

theorem preserves_habit : Habit Preserves where
  refl _ := ⟨rfl, fun _ h => h⟩
  trans h₁ h₂ := ⟨h₂.bookings.trans h₁.bookings, fun name h => h₂.blobs name (h₁.blobs name h)⟩
  storeFails w c := by
    unfold World.storeFails
    split <;> exact ⟨rfl, fun _ h => h⟩
  now _ := ⟨rfl, fun _ h => h⟩
  freshId _ := ⟨rfl, fun _ h => h⟩
  store _ _ := ⟨rfl, fun _ h => h⟩
  lookUp _ _ hserved := ⟨hserved.bookings, fun _ h => h⟩
  render _ _ := ⟨rfl, fun _ h => h⟩
  read w name := by
    rw [Shelf.read_snd]
    exact ⟨rfl, fun _ h => h⟩
  put _ name bytes := ⟨rfl, fun _ h => Shelf.has_put h name bytes⟩
  send _ _ := ⟨rfl, fun _ h => h⟩

theorem preserves_publishes : Publishes Preserves := fun _ _ => ⟨rfl, fun _ h => h⟩

theorem preserves_queues : Queues Preserves := fun _ _ _ => ⟨rfl, fun _ h => h⟩

end World

namespace Traffic

/-- New surroundings keep bookings under their own identities, and lose no blob. -/
def Keeps (t : Traffic) : Move → Prop
  | .change s => s.registry.Keyed ∧ ∀ name, t.world.shelf.has name = true → s.shelf.has name = true
  | _ => True

theorem keeps_step {t : Traffic} {m : Move} (hm : t.Keeps m) (hkeyed : t.world.registry.Keyed) :
    (t.step m).world.registry.Keyed ∧
      ∀ name, t.world.shelf.has name = true → (t.step m).world.shelf.has name = true := by
  by_cases hchange : ∃ s, m = .change s
  · obtain ⟨s, rfl⟩ := hchange
    exact hm
  · have hpreserves := t.habit_step World.preserves_habit World.preserves_publishes
      World.preserves_queues fun s hs => hchange ⟨s, hs⟩
    refine ⟨fun id b hb => ?_, hpreserves.blobs⟩
    rw [hpreserves.bookings] at hb
    exact hkeyed id b hb

theorem keyed_run {t : Traffic} {moves : List Move} (halong : t.Along Keeps moves)
    (hkeyed : t.world.registry.Keyed) : (t.run moves).world.registry.Keyed :=
  halong.run (P := fun t => t.world.registry.Keyed)
    (fun _ _ hkeyed hm => (keeps_step hm hkeyed).1) hkeyed

/-! ## Where a booking comes from -/

/-- The worker of a call has looked up a booking for its claimed notice, and has had it at hand ever
since. -/
def Holds (w : World) (moves : List Move) (i : Nat) (claimed : Notice) (b : Booking) : Prop :=
  ∃ before middle, moves = before ++ .advance i :: middle ∧
    (Traffic.run { world := w } before).workerOf? i = some (.findingBooking claimed) ∧
    ((Traffic.run { world := w } before).world.registry.booking claimed.booking).1 = .ok b ∧
    ∀ part, part <+: middle →
      ((Traffic.run { world := w } (before ++ .advance i :: part)).workerOf? i).bind
        Worker.booking? = some b

/-- The outcome of a row was stored by a worker that had looked up a booking for it. -/
def Landed (w : World) (moves : List Move) (row : Notice) (b : Booking) : Prop :=
  ∃ i claimed user held after, moves = held ++ .advance i :: after ∧ Holds w held i claimed b ∧
    (Traffic.run { world := w } held).workerOf? i =
      some (.resolving claimed.updated row b user) ∧
    (∃ old, (Traffic.run { world := w } held).world.store.rows.find? row.id = some old ∧
      old.status = .processing) ∧
    (Traffic.run { world := w } (held ++ [.advance i])).world.store.rows.find? row.id = some row

variable {w : World} {moves : List Move} {m : Move} {i : Nat} {claimed row : Notice} {b : Booking}

theorem Holds.begin
    (hk : (Traffic.run { world := w } moves).workerOf? i = some (.findingBooking claimed))
    (hb : ((Traffic.run { world := w } moves).world.registry.booking claimed.booking).1 = .ok b)
    (hnext : ((Traffic.run { world := w } (moves ++ [.advance i])).workerOf? i).bind
      Worker.booking? = some b) : Holds w (moves ++ [.advance i]) i claimed b := by
  refine ⟨moves, [], rfl, hk, hb, fun part hpart => ?_⟩
  rw [List.prefix_nil.mp hpart]
  exact hnext

theorem Holds.concat (h : Holds w moves i claimed b)
    (hnext : ((Traffic.run { world := w } (moves ++ [m])).workerOf? i).bind
      Worker.booking? = some b) : Holds w (moves ++ [m]) i claimed b := by
  obtain ⟨before, middle, rfl, hk, hb, hmiddle⟩ := h
  refine ⟨before, middle ++ [m], by simp, hk, hb, fun part hpart => ?_⟩
  rcases List.prefix_concat_iff.mp hpart with rfl | hpart
  · simpa using hnext
  · exact hmiddle part hpart

/-- The booking is that of the claimed notice. -/
theorem Holds.booking (h : Holds w moves i claimed b) (hkeyed : w.registry.Keyed)
    (halong : Along Keeps { world := w } moves) : b.id = claimed.booking := by
  obtain ⟨before, middle, rfl, -, hb, -⟩ := h
  exact (keyed_run (Along.append.mp halong).1 hkeyed).booking hb

theorem Landed.concat (h : Landed w moves row b) (m : Move) : Landed w (moves ++ [m]) row b := by
  obtain ⟨i, claimed, user, held, after, rfl, hrest⟩ := h
  exact ⟨i, claimed, user, held, after ++ [m], by simp, hrest⟩

/-! ## What rows tell -/

/-- An open row has no document; a final one tells an outcome, and its document is there. -/
structure Documented (w : World) (moves : List Move) (shelf : Shelf) (row : Notice) : Prop where
  blank : row.status = .pending ∨ row.status = .processing → row.document = ""
  landed : row.status.isFinal = true → ∃ b, Landed w moves row b
  stored : row.document ≠ "" → shelf.has row.document = true

theorem Documented.concat {shelf shelf' : Shelf} (h : Documented w moves shelf row)
    (hblobs : ∀ name, shelf.has name = true → shelf'.has name = true) (m : Move) :
    Documented w (moves ++ [m]) shelf' row := by
  refine ⟨h.blank, fun hfinal => ?_, fun hdocument => hblobs _ (h.stored hdocument)⟩
  obtain ⟨b, hlanded⟩ := h.landed hfinal
  exact ⟨b, hlanded.concat m⟩

/-- A row that is open and has no document. -/
theorem Documented.of_open {shelf : Shelf}
    (hopen : row.status = .pending ∨ row.status = .processing) (hblank : row.document = "") :
    Documented w moves shelf row := by
  refine ⟨fun _ => hblank, fun hfinal => ?_, fun hdocument => absurd hblank hdocument⟩
  rcases hopen with hopen | hopen <;> rw [hopen] at hfinal <;> cases hfinal

/-- What rows and workers know, after some moves. -/
structure Accounted (w : World) (moves : List Move) : Prop where
  sound : (Traffic.run { world := w } moves).Sound
  keyed : (Traffic.run { world := w } moves).world.registry.Keyed
  informed : ∀ i k, (Traffic.run { world := w } moves).workerOf? i = some k →
    k.Informed (Traffic.run { world := w } moves).world.shelf (Holds w moves i)
  rows : ∀ id row, (Traffic.run { world := w } moves).world.store.rows.find? id = some row →
    Documented w moves (Traffic.run { world := w } moves).world.shelf row

theorem Accounted.begin (hempty : w.store = {}) (hkeyed : w.registry.Keyed) : Accounted w [] := by
  refine ⟨Sound.begin hempty, hkeyed, fun _ _ hk => (nomatch hk), fun id row hrow => ?_⟩
  have hrow : w.store.rows.find? id = some row := hrow
  rw [hempty] at hrow
  cases hrow

/-- Workers stay informed. -/
theorem Accounted.informed_concat (h : Accounted w moves)
    (hm : (Traffic.run { world := w } moves).Keeps m) :
    ∀ i k, (Traffic.run { world := w } (moves ++ [m])).workerOf? i = some k →
      k.Informed (Traffic.run { world := w } (moves ++ [m])).world.shelf
        (Holds w (moves ++ [m]) i) := by
  intro i k' hk'
  have hblobs := (keeps_step hm h.keyed).2
  have hstep := run_concat { world := w } moves m
  have hafter := hk'
  rw [hstep] at hafter ⊢
  have hholds (n : Notice) (b : Booking) (hb : k'.booking? = some b)
      (hheld : Holds w moves i n b) : Holds w (moves ++ [m]) i n b := by
    refine hheld.concat ?_
    rw [hk']
    exact hb
  rcases workerOf?_step hafter with hidle | hk | ⟨k, rfl, hk, rfl, hworld⟩
  · exact .of_lease? hidle.1
  · exact (h.informed i k' hk).mono hblobs hholds
  · have hcopies := Worker.copies_step h.sound.keyed (h.sound.fits i k hk)
    rw [hworld] at hblobs ⊢
    refine hcopies.informed (h.informed i k hk) (fun id row hrow => (h.rows id row hrow).blank) ?_
      fun n b hheld hb => hholds n b hb hheld
    rintro n b rfl hfound hb
    exact Holds.begin hk hfound (by rw [hk']; exact hb)

/-- Rows stay documented when a worker takes a step. -/
theorem Accounted.rows_worked (h : Accounted w moves) {i : Nat} {k : Worker}
    (hk : (Traffic.run { world := w } moves).workerOf? i = some k) (hgoing : k.result? = none)
    (hworld : (Traffic.run { world := w } (moves ++ [.advance i])).world =
      (k.step (Traffic.run { world := w } moves).world).2)
    (hblobs : ∀ name, (Traffic.run { world := w } moves).world.shelf.has name = true →
      (k.step (Traffic.run { world := w } moves).world).2.shelf.has name = true)
    {id : NoticeId} {row : Notice}
    (hrow : (k.step (Traffic.run { world := w } moves).world).2.store.rows.find? id = some row) :
    Documented w (moves ++ [.advance i])
      (k.step (Traffic.run { world := w } moves).world).2.shelf row := by
  have hstays (hold : (Traffic.run { world := w } moves).world.store.rows.find? id = some row) :
      Documented w (moves ++ [.advance i])
        (k.step (Traffic.run { world := w } moves).world).2.shelf row :=
    (h.rows id row hold).concat hblobs _
  have hputs {n : Notice}
      (hstore : (k.step (Traffic.run { world := w } moves).world).2.store =
        (Traffic.run { world := w } moves).world.store.put n)
      (hn : Documented w (moves ++ [.advance i])
        (k.step (Traffic.run { world := w } moves).world).2.shelf n) :
      Documented w (moves ++ [.advance i])
        (k.step (Traffic.run { world := w } moves).world).2.shelf row := by
    rw [hstore] at hrow
    rcases Store.find?_put_cases hrow with ⟨-, rfl⟩ | ⟨-, hrow⟩
    · exact hn
    · exact hstays hrow
  have hfits := h.sound.fits i k hk
  have hacts := (Worker.goes_step h.sound.keyed hfits hgoing).acts
  cases hacts.stores hfits with
  | nothing _ hstore => exact hstays (by rwa [hstore] at hrow)
  | claimed _ _ hold hpending hn hstore =>
    refine hputs hstore (.of_open (Or.inr (by rw [hn])) ?_)
    rw [hn]
    exact (h.rows _ _ hold).blank (Or.inl hpending)
  | renewed _ _ hold hprocessing hn hstore =>
    refine hputs hstore (.of_open (Or.inr (by rw [hn]; exact hprocessing)) ?_)
    rw [hn]
    exact (h.rows _ _ hold).blank (Or.inr hprocessing)
  | @resolved old n hresolves hold hprocessing _ hfinal hstore =>
    obtain ⟨since, b, user, rfl, -⟩ := hresolves.claim
    obtain ⟨claimed, now, hn, rfl, hblank, hheld, hblob⟩ :=
      (h.informed i _ hk).outcome since n b user rfl
    refine hputs hstore ⟨fun hopen => ?_, fun _ => ?_, fun hdocument => ?_⟩
    · rcases hopen with hopen | hopen <;> rw [hopen] at hfinal <;> cases hfinal
    · refine ⟨b, i, claimed, user, moves, [], rfl, hheld, hk, ⟨old, hold, hprocessing⟩, ?_⟩
      rw [hworld, hstore]
      exact Store.find?_put_self _ n
    · have hconfirmed : b.status = .confirmed := by
        rw [hn] at hdocument
        exact (Notice.decided_document hblank b now).mp hdocument
      have hname : n.document = Notice.documentName b.id := by
        rw [hn, Notice.decided_of_confirmed hconfirmed]
      rw [hname]
      exact hblobs _ (hblob hconfirmed)

theorem Accounted.concat (h : Accounted w moves) (hm : (Traffic.run { world := w } moves).Keeps m) :
    Accounted w (moves ++ [m]) := by
  obtain ⟨hkeyed, hblobs⟩ := keeps_step hm h.keyed
  have hstep := run_concat { world := w } moves m
  refine ⟨?_, by rw [hstep]; exact hkeyed, h.informed_concat hm, fun id row hrow => ?_⟩
  · rw [hstep]
    exact h.sound.happens (happens_step h.sound.toSane m)
  · have hworld := congrArg Traffic.world hstep
    have hchanges := changes_step (Traffic.run { world := w } moves) m
    rw [hworld] at hrow ⊢
    generalize hw' : ((Traffic.run { world := w } moves).step m).world = w' at *
    cases hchanges with
    | aside hstore =>
      rw [hstore] at hrow
      exact (h.rows id row hrow).concat hblobs m
    | @created booking cause =>
      rcases World.create_cases _ booking cause with ⟨e, he, hw⟩ | ⟨n, w', rfl, -, -, hw, -⟩
      · rw [hw.store] at hrow
        exact (h.rows id row hrow).concat hblobs m
      · have hstore := congrArg World.store hw
        dsimp only at hstore
        rw [hstore] at hrow
        rcases Store.find?_insert_cases hrow with ⟨-, rfl⟩ | hrow
        · exact .of_open (Or.inl rfl) rfl
        · exact (h.rows id row hrow).concat hblobs m
    | worked hadvance hk hgoing =>
      subst hadvance
      exact h.rows_worked hk hgoing hworld hblobs hrow

theorem Accounted.run {after : List Move} (h : Accounted w moves)
    (halong : Along Keeps (Traffic.run { world := w } moves) after) :
    Accounted w (moves ++ after) := by
  induction after generalizing moves with
  | nil => simpa using h
  | cons m after ih =>
    have hafter : Along Keeps (Traffic.run { world := w } (moves ++ [m])) after := by
      rw [run_concat]
      exact halong.2
    simpa using ih (h.concat halong.1) hafter

/-- The row tells what the worker had found. -/
theorem Landed.tells (h : Landed w moves row b) (hempty : w.store = {})
    (hkeyed : w.registry.Keyed) (halong : Along Keeps { world := w } moves) :
    b.id = row.booking ∧ row.status = .ofBooking b.status ∧
      (row.document ≠ "" ↔ b.status = .confirmed) ∧
      (b.status = .confirmed → row.document = Notice.documentName row.booking) := by
  obtain ⟨i, _, user, held, after, rfl, -, hk, -, -⟩ := h
  have hheld := (Along.append.mp halong).1
  have haccounted : Accounted w held := (Accounted.begin hempty hkeyed).run hheld
  obtain ⟨claimed, now, hrow, -, hblank, hholds, -⟩ :=
    (haccounted.informed i _ hk).outcome _ row b user rfl
  have hid := hholds.booking hkeyed hheld
  rw [hrow, Notice.decided_document hblank]
  refine ⟨hid, rfl, Iff.rfl, fun hconfirmed => ?_⟩
  rw [Notice.decided_of_confirmed hconfirmed, hid]

/-- A row with a document is successful, and the document is the invoice of its booking. -/
theorem Documented.named {shelf : Shelf} (h : Documented w moves shelf row) (hempty : w.store = {})
    (hkeyed : w.registry.Keyed) (halong : Along Keeps { world := w } moves)
    (hdocument : row.document ≠ "") :
    row.status = .success ∧ row.document = Notice.documentName row.booking := by
  have hfinal : row.status.isFinal = true := by
    cases hstatus : row.status with
    | pending => exact absurd (h.blank (Or.inl hstatus)) hdocument
    | processing => exact absurd (h.blank (Or.inr hstatus)) hdocument
    | success => rfl
    | failed => rfl
  obtain ⟨b, hlanded⟩ := h.landed hfinal
  obtain ⟨-, hstatus, hconfirmed, hname⟩ := hlanded.tells hempty hkeyed halong
  have hconfirmed := hconfirmed.mp hdocument
  rw [hstatus, hconfirmed]
  exact ⟨rfl, hname hconfirmed⟩

/-! ## Every run -/

/-- In traffic that begins with an empty store, however creations, workers, sweeps and deliveries
are mixed and fail, and however bookings change meanwhile, a row has a document only if it is
successful; the document is then the invoice of its own booking, under a name that stands for a
blob, and it is on the shelf. The outcome of a final row was stored by a worker that had looked up
that booking, and the row has a document exactly if the worker had found it confirmed. Rows of
different bookings never share a document. -/
theorem documents_follow_outcomes {w : World} (hempty : w.store = {}) (hkeyed : w.registry.Keyed)
    {moves : List Move} (hmoves : Along Keeps { world := w } moves) {id : NoticeId} {row : Notice}
    (hrow : (Traffic.run { world := w } moves).world.store.rows.find? id = some row) :
    let t := Traffic.run { world := w } moves
    (row.document ≠ "" → row.status = .success ∧
      row.document = Notice.documentName row.booking ∧ Blob.checkName row.document = .ok () ∧
      t.world.shelf.has row.document = true) ∧
    (row.status.isFinal = true → ∃ b, Landed w moves row b) ∧
    (∀ b, Landed w moves row b → b.id = row.booking ∧ row.status = .ofBooking b.status ∧
      (row.document ≠ "" ↔ b.status = .confirmed)) ∧
    (∀ id' row', t.world.store.rows.find? id' = some row' → row'.booking ≠ row.booking →
      row.document ≠ "" → row'.document ≠ row.document) := by
  intro t
  have haccounted : Accounted w moves := (Accounted.begin hempty hkeyed).run hmoves
  refine ⟨fun hdocument => ?_, (haccounted.rows id row hrow).landed, fun b hlanded => ?_,
    fun id' row' hrow' hother hdocument hsame => ?_⟩
  · obtain ⟨hstatus, hname⟩ := (haccounted.rows id row hrow).named hempty hkeyed hmoves hdocument
    refine ⟨hstatus, hname, ?_, (haccounted.rows id row hrow).stored hdocument⟩
    unfold Blob.checkName
    rw [hname, if_pos (Notice.isName_documentName _)]
  · obtain ⟨hid, hstatus, hconfirmed, -⟩ := hlanded.tells hempty hkeyed hmoves
    exact ⟨hid, hstatus, hconfirmed⟩
  · rw [← hsame] at hdocument
    have hrows := haccounted.rows
    have hname := ((hrows id row hrow).named hempty hkeyed hmoves (hsame ▸ hdocument)).2
    have hname' := ((hrows id' row' hrow').named hempty hkeyed hmoves hdocument).2
    rw [hname, hname'] at hsame
    exact hother (Notice.documentName_inj hsame)

/-- A notice is created and taken up, and its worker comes to the end. -/
def takenUp : List Move :=
  [.start (.create ⟨7⟩ none), .advance 0, .start (.process ⟨1⟩)] ++ List.replicate 7 (.advance 1)

/-- A booking that is confirmed gets its invoice. -/
theorem confirmed_booking_gets_its_invoice :
    let t := Traffic.run { world := World.oneConfirmed } takenUp
    World.oneConfirmed.store = {} ∧ World.oneConfirmed.registry.Keyed ∧
    Along Keeps { world := World.oneConfirmed } takenUp ∧
    ∃ row, t.world.store.rows.find? ⟨1⟩ = some row ∧ row.document = "pdf_invoice_7.pdf" ∧
      t.world.shelf.has row.document = true ∧
      ∃ b, Landed World.oneConfirmed takenUp row b ∧ b.status = .confirmed := by
  have hempty : World.oneConfirmed.store = {} := rfl
  have hkeyed : World.oneConfirmed.registry.Keyed :=
    Registry.Keyed.empty.putBooking ⟨⟨7⟩, .confirmed, ⟨3⟩, ⟨11⟩, ⟨12⟩, 9000, "USD"⟩
  have hmoves : Along Keeps { world := World.oneConfirmed } takenUp := by
    simp [takenUp, Along, Keeps]
  have hdocument : ((Traffic.run { world := World.oneConfirmed } takenUp).world.store.rows.find?
      ⟨1⟩).map Notice.document = some "pdf_invoice_7.pdf" := by decide +kernel
  obtain ⟨row, hrow, hname⟩ := Option.map_eq_some_iff.mp hdocument
  obtain ⟨hnamed, hlanded, htells, -⟩ := documents_follow_outcomes hempty hkeyed hmoves hrow
  have hsome : row.document ≠ "" := by
    rw [hname]
    decide
  obtain ⟨hstatus, -, -, hshelf⟩ := hnamed hsome
  obtain ⟨b, hb⟩ := hlanded (by rw [hstatus]; rfl)
  exact ⟨hempty, hkeyed, hmoves, row, hrow, hname, hshelf, b, hb, (htells b hb).2.2.mp hsome⟩

end Traffic

end BookingNotices
