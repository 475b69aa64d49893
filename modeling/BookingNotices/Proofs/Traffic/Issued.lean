import BookingNotices.Proofs.Traffic.Invoices
import BookingNotices.Proofs.Traffic.Mail
import BookingNotices.Proofs.Upload

/-!
# What becomes of an issued invoice

* `Traffic.Spares`  : new surroundings leave the blobs alone;
* `Traffic.upload?` : the blob that the next move stores (`blobs_step`);
* `Traffic.Intact`  : an invoice is on the shelf as it was issued, and so it is in every mail about
  its row;
* `Traffic.Issued`  : so it will be in the mail that is under way (`Issued.step`, `Issued.run`,
  `Issued.of_landing`);
* `issued_invoice_stays_unless_replaced` : an issued invoice stays intact exactly as long as no
  worker stores other bytes under its name; who stores it again has lost its claim on the row.

The claim guards the row, but not the shelf. A worker whose claim is lost finds out when it stores
the outcome, and by then its invoice is stored, under the name that all workers of the booking
share. The two invoices differ if the records have changed between the lookups.
-/

namespace BookingNotices

namespace Worker

theorem Idle.upload? {k : Worker} (h : k.Idle) (w : World) : k.upload? w = none := by
  cases k with
  | storing => cases h.1
  | _ => rfl

end Worker

namespace Traffic

/-! ## The shelf -/

/-- New surroundings keep bookings under their own identities, and leave the blobs alone. -/
def Spares (t : Traffic) : Move → Prop
  | .change s => s.registry.Keyed ∧ s.shelf.blobs = t.world.shelf.blobs
  | _ => True

theorem Spares.keeps {t : Traffic} {m : Move} (h : t.Spares m) : t.Keeps m := by
  cases m with
  | change s =>
    refine ⟨h.1, fun name hname => ?_⟩
    unfold Shelf.has at hname ⊢
    rwa [h.2]
  | _ => trivial

/-- The blob that the next move stores. -/
def upload? (t : Traffic) : Move → Option (String × Bytes)
  | .advance i => (t.workerOf? i).bind (Worker.upload? t.world)
  | _ => none

/-- A move stores its blob, if it has one, and changes no other. -/
theorem blobs_step {t : Traffic} {m : Move} (hm : t.Spares m) :
    (∃ name bytes, t.upload? m = some (name, bytes) ∧
      (t.step m).world.shelf.blobs = t.world.shelf.blobs.insert name bytes) ∨
    t.upload? m = none ∧ (t.step m).world.shelf.blobs = t.world.shelf.blobs := by
  cases m with
  | start r => cases r <;> exact Or.inr ⟨rfl, rfl⟩
  | publish e => exact Or.inr ⟨rfl, rfl⟩
  | change s => exact Or.inr ⟨rfl, hm.2⟩
  | advance i =>
    unfold step Traffic.upload?
    dsimp only
    cases hi : t.calls[i]? with
    | none =>
      have hnobody : t.workerOf? i = none := by
        unfold workerOf?
        rw [hi]
        rfl
      rw [hnobody]
      exact Or.inr ⟨rfl, rfl⟩
    | some c =>
      have hacts := c.acts_step t.world
      rw [workerOf?_of_call hi]
      dsimp only
      generalize (c.step t.world).1 = c', (c.step t.world).2 = w', c.deeds t.world = ds at hacts ⊢
      have idle (hidle : c.Idle) : c.worker?.bind (Worker.upload? t.world) = none := by
        cases hk : c.worker? with
        | none => rfl
        | some k => exact (hidle k hk).upload? t.world
      cases hacts with
      | created _ hidle => exact Or.inr ⟨idle hidle, by rw [World.shelf_create]⟩
      | aside hidle _ _ _ hshelf => exact Or.inr ⟨idle hidle, by rw [hshelf]⟩
      | @worked k _ hk =>
        rw [hk]
        exact k.blobs_step t.world

theorem get_of_upload {t : Traffic} {m : Move} (hm : t.Spares m) {name : String} {bytes : Bytes}
    (h : t.upload? m = some (name, bytes)) : (t.step m).world.shelf.get name = .ok bytes := by
  rcases blobs_step hm with ⟨name', bytes', hupload, hblobs⟩ | ⟨hupload, -⟩
  · rw [h] at hupload
    cases hupload
    rw [Shelf.get_eq_ok, hblobs, Table.find?_insert, if_pos rfl]
  · rw [h] at hupload
    cases hupload

/-- A blob stays as it is, unless other bytes are stored under its name. -/
theorem get_step {t : Traffic} {m : Move} (hm : t.Spares m) {name : String} {bytes : Bytes}
    (hget : t.world.shelf.get name = .ok bytes)
    (h : ∀ bytes', t.upload? m = some (name, bytes') → bytes' = bytes) :
    (t.step m).world.shelf.get name = .ok bytes := by
  rw [Shelf.get_eq_ok] at hget ⊢
  rcases blobs_step hm with ⟨name', bytes', hupload, hblobs⟩ | ⟨-, hblobs⟩
  · rw [hblobs, Table.find?_insert]
    split
    · rename_i hname
      subst hname
      rw [h bytes' hupload]
    · exact hget
  · rw [hblobs]
    exact hget

/-! ## The mail -/

/-- An invoice as it was issued: it is on the shelf, and in every mail about its row. -/
structure Intact (row : Notice) (bytes : Bytes) (t : Traffic) : Prop where
  blob : t.world.shelf.get row.document = .ok bytes
  mails : ∀ e ∈ t.log, ∀ n mail accepted, e.deed = .handed n mail accepted → n.id = row.id →
    mail.attachment = some ⟨row.document, Invoice.contentType, bytes⟩

/-- An invoice that is intact, and will be so in the mail that is under way. -/
structure Issued (row : Notice) (bytes : Bytes) (t : Traffic) : Prop extends
    Intact row bytes t where
  stored : t.world.store.rows.find? row.id = some row
  composing : ∀ i user email, t.workerOf? i = some (.composing row user email) →
    email.attachInvoice = true
  sending : ∀ i mail, t.workerOf? i = some (.sending row mail) →
    mail.attachment = some ⟨row.document, Invoice.contentType, bytes⟩

/-- A mail is handed over by the worker that sends it. -/
theorem handed_step {t : Traffic} (hsane : t.Sane) {m : Move} {e : Entry}
    (he : e ∈ (t.step m).log) {n : Notice} {mail : Mail.Message} {accepted : Bool}
    (hdeed : e.deed = .handed n mail accepted) :
    e ∈ t.log ∨ ∃ i, t.workerOf? i = some (.sending n mail) := by
  have hhappens := happens_step hsane m
  have append {log : List Entry} {i : Nat} {ds : List Deed} (he : e ∈ log ++ entries i ds) :
      e ∈ log ∨ Deed.handed n mail accepted ∈ ds := by
    rcases List.mem_append.mp he with he | he
    · exact Or.inl he
    · obtain ⟨d, hd, rfl⟩ := List.mem_map.mp he
      exact Or.inr (hdeed ▸ hd)
  generalize t.step m = t' at hhappens he
  cases hhappens with
  | rested hrest =>
    rw [hrest.log] at he
    exact Or.inl he
  | created =>
    refine (append he).imp_right fun hd => ?_
    cases List.mem_singleton.mp hd
  | @worked i c c' k k' w' ds hi hk hk' hacts =>
    refine (append he).imp_right fun hd => ⟨i, ?_⟩
    rw [workerOf?_of_call hi, hk, hacts.sending_of_handed hd]

/-- A mail is composed by the worker that has just stored the outcome. -/
theorem composing_step {t : Traffic} (hsane : t.Sane) {m : Move} {i : Nat} {n : Notice}
    {user : User} {email : Notice.Email}
    (hk' : (t.step m).workerOf? i = some (.composing n user email)) :
    t.workerOf? i = some (.composing n user email) ∨
      ∃ since booking user', t.workerOf? i = some (.resolving since n booking user') ∧
        t.world.store.claimHolds n.id since = true ∧
        Notice.Email.forBooking booking = some email := by
  rcases workerOf?_step hk' with hidle | hk | ⟨k, -, hk, hnext, -⟩
  · cases hidle.2
  · exact Or.inl hk
  · have hgoing : k.result? = none := by
      cases k with
      | ended => cases hnext
      | _ => rfl
    have hacts := (Worker.goes_step hsane.keyed (hsane.fits i k hk) hgoing).acts
    rw [← hnext] at hacts
    obtain ⟨since, booking, user', rfl, hclaim⟩ := hacts.resolves.claim
    exact Or.inr ⟨since, booking, user', hk, hclaim, Worker.forBooking_of_step hnext.symm⟩

/-- A mail is sent by the worker that has just composed it. -/
theorem sending_step {t : Traffic} (hsane : t.Sane) {m : Move} {i : Nat} {n : Notice}
    {mail : Mail.Message} (hk' : (t.step m).workerOf? i = some (.sending n mail)) :
    t.workerOf? i = some (.sending n mail) ∨
      ∃ user email, t.workerOf? i = some (.composing n user email) ∧
        (n.compose user email t.world.shelf).1 = .ok mail := by
  rcases workerOf?_step hk' with hidle | hk | ⟨k, -, hk, hnext, -⟩
  · cases hidle.2
  · exact Or.inl hk
  · have hgoing : k.result? = none := by
      cases k with
      | ended => cases hnext
      | _ => rfl
    have hacts := (Worker.goes_step hsane.keyed (hsane.fits i k hk) hgoing).acts
    rw [← hnext] at hacts
    obtain ⟨user, email, rfl⟩ := hacts.composes
    exact Or.inr ⟨user, email, hk, (Worker.compose_of_step hnext.symm).2⟩

section Issued

variable {w : World} {moves : List Move} {m : Move} {row : Notice} {bytes : Bytes} {t : Traffic}

/-- The mail about a row stays what it is, unless other bytes are stored under its document. -/
theorem Issued.step (h : Issued row bytes t) (hsound : t.Sound)
    (hfinal : row.status.isFinal = true) (hm : t.Spares m)
    (hbytes : ∀ bytes', t.upload? m = some (row.document, bytes') → bytes' = bytes) :
    Issued row bytes (t.step m) := by
  have hhappens := happens_step hsound.toSane m
  have hstored := (hhappens.evolves hsound.toSane hsound.roomy).final h.stored hfinal
  refine ⟨⟨get_step hm h.blob hbytes, fun e he n mail accepted hdeed hid => ?_⟩, hstored,
    fun i user email hk' => ?_, fun i mail hk' => ?_⟩
  · rcases handed_step hsound.toSane he hdeed with he | ⟨i, hk⟩
    · exact h.mails e he n mail accepted hdeed hid
    · have hfits : n.Stored t.world.store := hsound.fits i _ hk
      have hn := hfits.row
      rw [hid, h.stored] at hn
      cases hn
      exact h.sending i mail hk
  · rcases composing_step hsound.toSane hk' with hk | ⟨since, booking, user', hk, hclaim, -⟩
    · exact h.composing i user email hk
    · -- the claim of an outcome that is stored does not hold any more
      obtain ⟨old, hold, hprocessing, -⟩ := Store.claimHolds_iff.mp hclaim
      rw [h.stored] at hold
      cases hold
      rw [hprocessing] at hfinal
      cases hfinal
  · rcases sending_step hsound.toSane hk' with hk | ⟨user, email, hk, hcompose⟩
    · exact h.sending i mail hk
    · obtain ⟨bytes', hget, hattachment⟩ :=
        Notice.compose_eq_ok hcompose (h.composing i user email hk)
      rw [h.blob] at hget
      cases hget
      exact hattachment

/-- No mail about a row was handed over before the move that made the row successful. -/
theorem Mailing.unhanded {first : List Mail.Message} (h : Mailing first row.id t)
    (hbefore : ∀ old, t.world.store.rows.find? row.id = some old → old.status ≠ .success)
    (hrow : (t.step m).world.store.rows.find? row.id = some row) (hsuccess : row.status = .success)
    {e : Entry} (he : e ∈ t.log) {n : Notice} {mail : Mail.Message} {accepted : Bool}
    (hdeed : e.deed = .handed n mail accepted) : n.id ≠ row.id := by
  intro hid
  have hhands : 0 < t.tally (Deed.hands row.id) :=
    List.countP_pos_iff.mpr ⟨e, he, by rw [hdeed]; exact decide_eq_true hid⟩
  have hm := h.ledger.mailed
  have hh := h.ledger.handed
  have hd := h.ledger.due
  obtain ⟨old, hold, hfinal⟩ := h.ledger.final (by omega)
  have hevolves := (happens_step h.toSane m).evolves h.toSane h.toSound.roomy
  have hkept := hevolves.final hold hfinal
  rw [hrow] at hkept
  cases hkept
  exact hbefore row hold hsuccess

/-- The move that makes a row successful issues its invoice, if it has one. -/
theorem Issued.of_landing (hempty : w.store = {}) (hkeyed : w.registry.Keyed)
    (halong : Along Keeps { world := w } (moves ++ [m]))
    (hbefore : ∀ old, (Traffic.run { world := w } moves).world.store.rows.find? row.id = some old →
      old.status ≠ .success)
    (hrow : (Traffic.run { world := w } (moves ++ [m])).world.store.rows.find? row.id = some row)
    (hsuccess : row.status = .success) (hdocument : row.document ≠ "") :
    ∃ bytes, Issued row bytes (Traffic.run { world := w } (moves ++ [m])) := by
  have haccounted : Accounted w moves :=
    (Accounted.begin hempty hkeyed).run (Along.concat.mp halong).1
  have hafter : Accounted w (moves ++ [m]) := (Accounted.begin hempty hkeyed).run halong
  have hmailing := ((Mailing.begin hempty row.id).run moves).1
  have hsound := haccounted.sound
  have hother {n : Notice} (hn : n.Stored (Traffic.run { world := w } moves).world.store) :
      n.id ≠ row.id := fun hid => hbefore n (hid ▸ hn.row) hn.success
  obtain ⟨bytes, hbytes⟩ :=
    Option.isSome_iff_exists.mp ((hafter.rows row.id row hrow).stored hdocument)
  have hblob := Shelf.get_eq_ok.mpr hbytes
  rw [run_concat] at hrow hblob ⊢
  refine ⟨bytes, ⟨hblob, fun e he n mail accepted hdeed hid => ?_⟩, hrow,
    fun i user email hk' => ?_, fun i mail hk' => ?_⟩
  · rcases handed_step hsound.toSane he hdeed with he | ⟨i, hk⟩
    · exact absurd hid (hmailing.unhanded hbefore hrow hsuccess he hdeed)
    · exact absurd hid (hother (hsound.fits i _ hk))
  · rcases composing_step hsound.toSane hk' with hk | ⟨since, booking, user', hk, -, hemail⟩
    · exact absurd rfl (hother (hsound.fits i _ hk).1)
    · obtain ⟨n, now, hn, -, hblank, -, -⟩ := (haccounted.informed i _ hk).outcome _ _ _ _ rfl
      rw [hn] at hdocument
      have hconfirmed := (Notice.decided_document hblank booking now).mp hdocument
      unfold Notice.Email.forBooking at hemail
      rw [hconfirmed] at hemail
      cases hemail
      rfl
  · rcases sending_step hsound.toSane hk' with hk | ⟨user, email, hk, -⟩
    · exact absurd rfl (hother (hsound.fits i _ hk))
    · exact absurd rfl (hother (hsound.fits i _ hk).1)

/-- An invoice stays what it is, unless other bytes are stored under its name. -/
theorem Issued.run (h : Issued row bytes t) (hsound : t.Sound)
    (hfinal : row.status.isFinal = true) {after : List Move} (halong : Along Spares t after)
    (hbytes : ∀ part next bytes', part ++ [next] <+: after →
      (t.run part).upload? next = some (row.document, bytes') → bytes' = bytes) :
    Issued row bytes (t.run after) := by
  induction after generalizing t with
  | nil => exact h
  | cons m after ih =>
    have hm : ∀ bytes', t.upload? m = some (row.document, bytes') → bytes' = bytes :=
      fun bytes' => hbytes [] m bytes' ⟨after, rfl⟩
    refine ih (h.step hsound hfinal halong.1 hm) (hsound.happens (happens_step hsound.toSane m))
      halong.2 fun part next bytes' hpart => ?_
    exact hbytes (m :: part) next bytes' (List.cons_prefix_cons.mpr ⟨rfl, hpart⟩)

/-! ## Late workers -/

/-- Who stores the invoice of a row that has one works on that row, and has lost its claim. -/
theorem Accounted.late_upload (h : Accounted w moves) (hempty : w.store = {})
    (hkeyed : w.registry.Keyed) (halong : Along Keeps { world := w } moves)
    (hrow : (Traffic.run { world := w } moves).world.store.rows.find? row.id = some row)
    (hdocument : row.document ≠ "") {next : Move}
    (hupload : (Traffic.run { world := w } moves).upload? next = some (row.document, bytes)) :
    ∃ i k since, next = .advance i ∧ (Traffic.run { world := w } moves).workerOf? i = some k ∧
      k.lease? = some (row.id, since) ∧
      (Traffic.run { world := w } moves).world.store.claimHolds row.id since = false := by
  cases next with
  | advance i =>
    obtain ⟨k, hk, hupload⟩ := Option.bind_eq_some_iff.mp hupload
    obtain ⟨n, booking, user, invoice, rfl, hname⟩ := Worker.upload?_eq_some hupload
    obtain ⟨hsuccess, hown⟩ := (h.rows row.id row hrow).named hempty hkeyed halong hdocument
    have hfits : n.Held (Traffic.run { world := w } moves).world.store :=
      (h.sound.fits i _ hk).1
    have hbooking : booking.id = n.booking :=
      ((h.informed i _ hk).file n booking rfl).2.booking hkeyed halong
    obtain ⟨old, hold, hkin⟩ := hfits.row
    have hsame : old.booking = row.booking := by
      rw [hkin.booking, ← hbooking]
      exact Notice.documentName_inj (hname.symm.trans hown)
    have hid : n.id = row.id := h.sound.sound.id_inj hold hrow hsame
    refine ⟨i, _, n.updated, rfl, hk, by rw [← hid]; rfl, ?_⟩
    rw [Bool.eq_false_iff]
    intro hclaim
    obtain ⟨claimed, hclaimed, hprocessing, -⟩ := Store.claimHolds_iff.mp hclaim
    rw [hrow] at hclaimed
    cases hclaimed
    rw [hsuccess] at hprocessing
    cases hprocessing
  | _ => cases hupload

end Issued

/-! ## Every run -/

/-- In traffic that begins with an empty store, consider the move that makes a row successful and
gives it a document. The invoice is then on the shelf. Whatever follows, the row stays as it is; the
blob stays as it is, and is what every mail about the row carries, exactly if no invoice of other
bytes is stored under the same name. Who stores one there works on that very row, and its claim is
lost. -/
theorem issued_invoice_stays_unless_replaced {w : World} (hempty : w.store = {})
    (hkeyed : w.registry.Keyed) {moves after : List Move} {m : Move}
    (halong : Along Spares { world := w } ((moves ++ [m]) ++ after)) {id : NoticeId} {row : Notice}
    (hbefore : ∀ old, (Traffic.run { world := w } moves).world.store.rows.find? id = some old →
      old.status ≠ .success)
    (hrow : (Traffic.run { world := w } (moves ++ [m])).world.store.rows.find? id = some row)
    (hsuccess : row.status = .success) (hdocument : row.document ≠ "") :
    let issued := Traffic.run { world := w } (moves ++ [m])
    ∃ bytes, Intact row bytes issued ∧
      (∀ later, (issued.run later).world.store.rows.find? id = some row) ∧
      ((∀ part, part <+: after → Intact row bytes (issued.run part)) ↔
        ∀ part next bytes', part ++ [next] <+: after →
          (issued.run part).upload? next = some (row.document, bytes') → bytes' = bytes) ∧
      ∀ part next bytes', part ++ [next] <+: after →
        (issued.run part).upload? next = some (row.document, bytes') →
        ∃ i k since, next = .advance i ∧ (issued.run part).workerOf? i = some k ∧
          k.lease? = some (id, since) ∧
          (issued.run part).world.store.claimHolds id since = false := by
  intro issued
  obtain ⟨hlanding, hafter⟩ := Along.append.mp halong
  have hsound : issued.Sound := sound_run hempty (moves ++ [m])
  have hid : row.id = id := hsound.keyed id row hrow
  subst hid
  have hfinal : row.status.isFinal = true := by
    rw [hsuccess]
    rfl
  have hspares {part : List Move} (hpart : part <+: after) : Along Spares issued part := by
    obtain ⟨rest, rfl⟩ := hpart
    exact (Along.append.mp hafter).1
  have hkeeps {part : List Move} (hpart : part <+: after) :
      Along Keeps { world := w } ((moves ++ [m]) ++ part) :=
    (Along.append.mpr ⟨hlanding, hspares hpart⟩).mono fun _ _ => Spares.keeps
  have hstays (part : List Move) : (issued.run part).world.store.rows.find? row.id = some row :=
    (((Mailing.begin hempty row.id).run (moves ++ [m])).1.run part).2.1.final hrow hfinal
  obtain ⟨bytes, hissued⟩ := Issued.of_landing hempty hkeyed
    (hlanding.mono fun _ _ => Spares.keeps) hbefore hrow hsuccess hdocument
  refine ⟨bytes, hissued.toIntact, hstays, ⟨fun hintact part next bytes' hpart hupload => ?_,
    fun hbytes part hpart => ?_⟩, fun part next bytes' hpart hupload => ?_⟩
  · have hblob := (hintact (part ++ [next]) hpart).blob
    rw [run_concat, get_of_upload (Along.concat.mp (hspares hpart)).2 hupload] at hblob
    cases hblob
    rfl
  · refine (hissued.run hsound hfinal (hspares hpart) fun part' next bytes' hpart' => ?_).toIntact
    exact hbytes part' next bytes' (hpart'.trans hpart)
  · have hpart : part <+: after := (List.prefix_append part [next]).trans hpart
    have haccounted := (Accounted.begin hempty hkeyed).run (hkeeps hpart)
    have hstored := hstays part
    rw [← run_append] at hupload hstored ⊢
    exact haccounted.late_upload hempty hkeyed (hkeeps hpart) hstored hdocument hupload

/-! ## An invoice that is replaced -/

/-- The surroundings of the confirmed booking, after its seat has got another number. -/
def reseated : Surroundings where
  registry := { World.oneConfirmed.registry with seats := [(⟨12⟩, ⟨⟨12⟩, "D5"⟩)] }
  renderers := .constant .plain
  clock := ⟨fun i => ⟨i, 0⟩, 60⟩
  ids := .constant ""
  storeFaults := fun _ => []
  refusals := .constant false
  shelf := {}
  mailFaults := .constant false

/-- A worker takes up a new notice and looks everything up. -/
def setOut : List Move :=
  [.start (.create ⟨7⟩ none), .advance 0, .start (.process ⟨1⟩)] ++ List.replicate 5 (.advance 1)

/-- Then the seat gets another number; a second worker takes the row over, stores its own invoice,
and is about to store the outcome. -/
def outrun : List Move :=
  setOut ++ .change reseated :: .start (.resume ⟨1⟩ 0) :: List.replicate 6 (.advance 2)

/-- The second worker stores the outcome and mails its invoice; then the first one goes on. -/
def catchUp : List Move := [.advance 2, .advance 2, .advance 1]

/-- The plain invoice of the confirmed booking, with the number of its seat. -/
def plainInvoice (seat : String) : Bytes :=
  ("invoice 7 Metropolis - Odeon - 1 - Thursday, 01/01/1970 07:00:00 - " ++ seat).toUTF8

/-- The second worker stores the outcome and mails its invoice. Then the first one, whose claim is
lost, replaces the invoice by its own. -/
theorem late_worker_replaces_issued_invoice :
    let issued := Traffic.run { world := World.oneConfirmed } (outrun ++ [.advance 2])
    let mailed := issued.run [.advance 2, .advance 2]
    let replaced := mailed.run [.advance 1]
    (∃ row, issued.world.store.rows.find? ⟨1⟩ = some row ∧ row.status = .success ∧
      row.document = "pdf_invoice_7.pdf") ∧
    issued.world.shelf.get "pdf_invoice_7.pdf" = .ok (plainInvoice "D5") ∧
    mailed.world.outbox.sent.map Mail.Message.attachment =
      [some ⟨"pdf_invoice_7.pdf", Invoice.contentType, plainInvoice "D5"⟩] ∧
    (∃ k since, mailed.workerOf? 1 = some k ∧ k.lease? = some (⟨1⟩, since) ∧
      mailed.world.store.claimHolds ⟨1⟩ since = false) ∧
    replaced.world.shelf.get "pdf_invoice_7.pdf" = .ok (plainInvoice "C4") ∧
    plainInvoice "C4" ≠ plainInvoice "D5" := by
  intro issued mailed replaced
  have hrow : (issued.world.store.rows.find? ⟨1⟩).map (fun n => (n.status, n.document)) =
      some (.success, "pdf_invoice_7.pdf") := by decide +kernel
  have hlease : (mailed.workerOf? 1).bind Worker.lease? = some (⟨1⟩, ⟨2, 0⟩) := by decide +kernel
  obtain ⟨row, hfound, houtcome⟩ := Option.map_eq_some_iff.mp hrow
  obtain ⟨k, hk, hlease⟩ := Option.bind_eq_some_iff.mp hlease
  refine ⟨⟨row, hfound, congrArg Prod.fst houtcome, congrArg Prod.snd houtcome⟩,
    Shelf.get_eq_ok.mpr ?_, ?_, ⟨k, _, hk, hlease, ?_⟩, Shelf.get_eq_ok.mpr ?_, ?_⟩
  · decide +kernel
  · decide +kernel
  · decide +kernel
  · decide +kernel
  · decide +kernel

/-- As the late worker stores other bytes, the invoice does not stay intact. -/
theorem replaced_invoice_is_not_intact :
    let issued := Traffic.run { world := World.oneConfirmed } (outrun ++ [.advance 2])
    World.oneConfirmed.store = {} ∧ World.oneConfirmed.registry.Keyed ∧
    Along Spares { world := World.oneConfirmed } ((outrun ++ [.advance 2]) ++ catchUp) ∧
    (∀ old, (Traffic.run { world := World.oneConfirmed } outrun).world.store.rows.find? ⟨1⟩ =
      some old → old.status ≠ .success) ∧
    ∃ row bytes, issued.world.store.rows.find? ⟨1⟩ = some row ∧ row.status = .success ∧
      row.document ≠ "" ∧ Intact row bytes issued ∧
      ¬ ∀ part, part <+: catchUp → Intact row bytes (issued.run part) := by
  intro issued
  have hempty : World.oneConfirmed.store = {} := rfl
  have hkeyed : World.oneConfirmed.registry.Keyed :=
    Registry.Keyed.empty.putBooking ⟨⟨7⟩, .confirmed, ⟨3⟩, ⟨11⟩, ⟨12⟩, 9000, "USD"⟩
  have halong : Along Spares { world := World.oneConfirmed }
      ((outrun ++ [.advance 2]) ++ catchUp) := by
    rw [outrun, List.append_assoc, List.append_assoc, Along.append]
    refine ⟨by simp [setOut, Along, Spares], ⟨hkeyed, ?_⟩, by simp [catchUp, Along, Spares]⟩
    decide +kernel
  have hbefore : ∀ old, (Traffic.run { world := World.oneConfirmed } outrun).world.store.rows.find?
      ⟨1⟩ = some old → old.status ≠ .success := by
    intro old hold hsuccess
    have hstatus : ((Traffic.run { world := World.oneConfirmed } outrun).world.store.rows.find?
      ⟨1⟩).map Notice.status = some .processing := by decide +kernel
    rw [hold, Option.map_some, hsuccess] at hstatus
    cases hstatus
  have hrow : (issued.world.store.rows.find? ⟨1⟩).map (fun n => (n.status, n.document)) =
      some (.success, "pdf_invoice_7.pdf") := by decide +kernel
  have hblob : issued.world.shelf.get "pdf_invoice_7.pdf" = .ok (plainInvoice "D5") :=
    Shelf.get_eq_ok.mpr (by decide +kernel)
  have hupload : (issued.run [.advance 2, .advance 2]).upload? (.advance 1) =
      some ("pdf_invoice_7.pdf", plainInvoice "C4") := by decide +kernel
  obtain ⟨row, hfound, houtcome⟩ := Option.map_eq_some_iff.mp hrow
  have hsuccess : row.status = .success := congrArg Prod.fst houtcome
  have hname : row.document = "pdf_invoice_7.pdf" := congrArg Prod.snd houtcome
  have hdocument : row.document ≠ "" := by
    rw [hname]
    decide
  obtain ⟨bytes, hintact, -, hstays, -⟩ :=
    issued_invoice_stays_unless_replaced hempty hkeyed halong hbefore hfound hsuccess hdocument
  refine ⟨hempty, hkeyed, halong, hbefore, row, bytes, hfound, hsuccess, hdocument, hintact,
    fun hall => ?_⟩
  have hbytes := hintact.blob
  rw [hname, hblob, Except.ok.injEq] at hbytes
  have hsame := hstays.mp hall [.advance 2, .advance 2] (.advance 1) (plainInvoice "C4")
    (List.prefix_refl _) (hname ▸ hupload)
  rw [← hbytes] at hsame
  exact absurd hsame (by decide +kernel)

end Traffic

end BookingNotices
