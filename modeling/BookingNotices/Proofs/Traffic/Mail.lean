import BookingNotices.Proofs.Traffic.Dedup
import BookingNotices.Proofs.Traffic.Ledger

/-!
# When the outcome of a notice is mailed

* `Deed.mail?`        : the mail that a deed gets accepted; the mailer keeps these and no others
  (`MailKept`);
* `Deed.Excusable`    : a mail is given up only for an error that may pass;
* `Traffic.Told`      : the outcome of every successful row was stored as one to be mailed;
* `success_is_mailed_or_given_up` : when no call is in flight, the mail about a successful row was
  accepted once, or it was given up; and then nothing that follows sends it.

The outcome is stored before its mail goes out. When the mailer refuses the mail, or the invoice
cannot be read, the row is final already: whoever takes the event up again finds nothing to do, and
sweeps look at rows that are not final.
-/

namespace BookingNotices

namespace Deed

/-- The mail that a deed gets accepted. -/
def mail? : Deed → Option Mail.Message
  | .handed _ mail true => some mail
  | _ => none

/-- A mail is given up only for an error that may pass. -/
def Excusable : Deed → Prop
  | .unsent _ e => e.isRetryable = true
  | _ => True

end Deed

/-! ## One step of a worker -/

namespace Worker

variable {k k' : Worker} {w w' : World} {ds : List Deed}

theorem Acts.sent (h : k.Acts w k' w' ds) :
    w'.outbox.sent = w.outbox.sent ++ ds.filterMap Deed.mail? := by
  have aside (hsent : w'.outbox.sent = w.outbox.sent) :
      w'.outbox.sent = w.outbox.sent ++ [] := by rw [hsent, List.append_nil]
  cases h with
  | claimed _ _ _ _ hw => exact aside hw.sent
  | renewed _ _ _ _ hw => exact aside hw.sent
  | landed hresolves => exact aside hresolves.puts.sent
  | settled hresolves => exact aside hresolves.puts.sent
  | worked _ _ hw => exact aside hw.sent
  | stopped _ _ hw => exact aside hw.sent
  | composed _ hw => exact aside hw.sent
  | spoiled _ _ hw => exact aside hw.sent
  | refused _ _ hw => exact aside hw.sent
  | accepted _ _ _ hsent => exact hsent

theorem Acts.excusable (h : k.Acts w k' w' ds) : ∀ d ∈ ds, d.Excusable := by
  cases h with
  | claimed => exact List.forall_mem_singleton.mpr trivial
  | renewed => exact List.forall_mem_singleton.mpr trivial
  | landed => exact List.forall_mem_singleton.mpr trivial
  | settled =>
    rw [List.forall_mem_cons, List.forall_mem_singleton]
    exact ⟨trivial, trivial⟩
  | worked => exact List.forall_mem_nil _
  | stopped => exact List.forall_mem_nil _
  | composed => exact List.forall_mem_nil _
  | spoiled _ he => exact List.forall_mem_singleton.mpr he
  | refused _ he =>
    rw [List.forall_mem_cons, List.forall_mem_singleton]
    exact ⟨trivial, he⟩
  | accepted =>
    rw [List.forall_mem_cons, List.forall_mem_singleton]
    exact ⟨trivial, trivial⟩

/-- A row that is successful was so before the step, or the step stored its outcome. -/
theorem Acts.told (h : k.Acts w k' w' ds) {id : NoticeId} {row : Notice}
    (hrow : w'.store.rows.find? id = some row) (hsuccess : row.status = .success) :
    w.store.rows.find? id = some row ∨ 0 < ds.countP (Deed.due id) := by
  have put {n : Notice} (hw : w.Puts n w') (hother : n.status ≠ .success) :
      w.store.rows.find? id = some row := by
    rw [hw.store, Store.find?_put] at hrow
    split at hrow
    · cases hrow
      exact absurd hsuccess hother
    · exact hrow
  have same (hstore : w'.store = w.store) : w.store.rows.find? id = some row := by
    rwa [hstore] at hrow
  cases h with
  | claimed _ _ _ hn hw =>
    refine Or.inl (put hw ?_)
    rw [hn]
    exact fun h => nomatch h
  | renewed _ _ hstale hn hw =>
    refine Or.inl (put hw ?_)
    rw [hn]
    show _ ≠ _
    rw [Notice.processing_of_isStale hstale]
    exact fun h => nomatch h
  | settled hresolves hn =>
    refine Or.inl (put hresolves.puts ?_)
    rw [hn]
    exact fun h => nomatch h
  | @landed n _ _ _ hresolves hn =>
    rw [hresolves.puts.store, Store.find?_put] at hrow
    split at hrow
    · rename_i hid
      refine Or.inr ?_
      simp [hid, hn]
    · exact Or.inl hrow
  | worked _ _ hw => exact Or.inl (same hw.store)
  | stopped _ _ hw => exact Or.inl (same hw.store)
  | composed _ hw => exact Or.inl (same hw.store)
  | spoiled _ _ hw => exact Or.inl (same hw.store)
  | refused _ _ hw => exact Or.inl (same hw.store)
  | accepted _ _ hstore => exact Or.inl (same hstore)

end Worker

/-! ## What happens -/

/-- A call that is over has no worker with a claim or with mail to send. -/
theorem Call.Idle.of_isDone {c : Call} (h : c.isDone = true) : c.Idle := by
  cases c with
  | creation => cases h
  | created => exact .of_none rfl
  | worker k =>
    refine .of_some rfl (.ended fun hgoing => ?_)
    unfold isDone at h
    dsimp only at h
    rw [hgoing] at h
    cases h
  | sweep s =>
    unfold isDone at h
    dsimp only at h
    split at h
    · rename_i result hphase
      refine .of_none ?_
      unfold worker?
      dsimp only
      rw [hphase]
    · cases h
  | dispatch d =>
    unfold isDone at h
    dsimp only at h
    split at h
    · rename_i hphase
      refine .of_none ?_
      unfold worker?
      dsimp only
      rw [hphase]
    · cases h

namespace Traffic

/-- When no call is in flight, nobody owes mail. -/
theorem owing_of_isQuiet {t : Traffic} (h : t.isQuiet = true) (id : NoticeId) : t.owing id = 0 := by
  unfold owing
  rw [List.countP_eq_zero]
  intro c hc
  have hdone := List.all_eq_true.mp h c hc
  rw [(Call.Idle.of_isDone hdone).owes id]
  exact Bool.false_ne_true

/-- The outcome of the row was stored as one to be mailed, if the row is successful. -/
def Told (id : NoticeId) (t : Traffic) : Prop :=
  ∀ row, t.world.store.rows.find? id = some row → row.status = .success →
    0 < t.tally (Deed.due id)

/-- The mailer has kept the mails of the log, behind those that it had at first. -/
def MailKept (first : List Mail.Message) (t : Traffic) : Prop :=
  t.world.outbox.sent = first ++ t.log.filterMap fun e => e.deed.mail?

theorem Told.happens {id : NoticeId} {t t' : Traffic} (h : Told id t) (hhappens : t.Happens t') :
    Told id t' := by
  intro row hrow hsuccess
  cases hhappens with
  | rested hrest =>
    rw [hrest.store] at hrow
    rw [hrest.tally]
    exact h row hrow hsuccess
  | @created i c c' booking cause hi hc =>
    rw [tally_append]
    suffices hold : t.world.store.rows.find? id = some row from
      Nat.lt_of_lt_of_le (h row hold hsuccess) (Nat.le_add_right _ _)
    have hrow : (t.world.create booking cause).2.store.rows.find? id = some row := hrow
    rcases t.world.create_cases booking cause with ⟨e, he, hw⟩ | ⟨n, w', rfl, -, -, hw, -⟩
    · rwa [hw.store] at hrow
    · rw [hw, Store.find?_insert] at hrow
      split at hrow
      · cases hrow
        cases hsuccess
      · exact hrow
  | worked hi hk hk' hacts =>
    rw [tally_append]
    rcases hacts.told hrow hsuccess with hold | hnew
    · exact Nat.lt_of_lt_of_le (h row hold hsuccess) (Nat.le_add_right _ _)
    · exact Nat.lt_of_lt_of_le hnew (Nat.le_add_left _ _)

theorem MailKept.happens {first : List Mail.Message} {t t' : Traffic} (h : MailKept first t)
    (hhappens : t.Happens t') : MailKept first t' := by
  have append (log : List Entry) (i : Nat) (ds : List Deed) :
      ((log ++ entries i ds).filterMap fun e => e.deed.mail?) =
        (log.filterMap fun e => e.deed.mail?) ++ ds.filterMap Deed.mail? := by
    unfold entries
    rw [List.filterMap_append, List.filterMap_map]
    rfl
  unfold MailKept at h ⊢
  cases hhappens with
  | rested hrest => rw [hrest.sent, hrest.log, h]
  | created =>
    dsimp only
    rw [World.sent_create, h, append]
    exact congrArg _ (List.append_nil _).symm
  | worked hi hk hk' hacts =>
    dsimp only
    rw [hacts.sent, h, append, List.append_assoc]

theorem excusable_happens {t t' : Traffic} (h : ∀ e ∈ t.log, e.deed.Excusable)
    (hhappens : t.Happens t') : ∀ e ∈ t'.log, e.deed.Excusable := by
  have append {i : Nat} {ds : List Deed} (hds : ∀ d ∈ ds, d.Excusable) :
      ∀ e ∈ t.log ++ entries i ds, e.deed.Excusable := by
    intro e he
    rcases List.mem_append.mp he with he | he
    · exact h e he
    · obtain ⟨d, hd, rfl⟩ := List.mem_map.mp he
      exact hds d hd
  cases hhappens with
  | rested hrest =>
    rw [hrest.log]
    exact h
  | created =>
    refine append fun d hd => ?_
    rw [List.mem_singleton.mp hd]
    trivial
  | worked hi hk hk' hacts => exact append hacts.excusable

/-- Deeds are never taken back. -/
theorem tally_happens {t t' : Traffic} (kind : Deed → Bool) (hhappens : t.Happens t') :
    t.tally kind ≤ t'.tally kind := by
  cases hhappens with
  | rested hrest => exact Nat.le_of_eq (hrest.tally kind).symm
  | created =>
    rw [tally_append]
    exact Nat.le_add_right _ _
  | worked =>
    rw [tally_append]
    exact Nat.le_add_right _ _

/-! ## Every run -/

/-- What is known of the mail about a row. -/
structure Mailing (first : List Mail.Message) (id : NoticeId) (t : Traffic) : Prop
    extends Sound t where
  ledger : Ledger id t
  told : Told id t
  kept : MailKept first t
  excusable : ∀ e ∈ t.log, e.deed.Excusable

theorem Mailing.happens {first : List Mail.Message} {id : NoticeId} {t t' : Traffic}
    (h : Mailing first id t) (hhappens : t.Happens t') : Mailing first id t' :=
  ⟨h.toSound.happens hhappens, h.ledger.happens h.toSane h.toSound.roomy hhappens,
    h.told.happens hhappens, h.kept.happens hhappens, excusable_happens h.excusable hhappens⟩

theorem Mailing.begin {w : World} (hempty : w.store = {}) (id : NoticeId) :
    Mailing w.outbox.sent id { world := w } := by
  refine ⟨Sound.begin hempty, Ledger.begin id w, fun row hrow => ?_, ?_, fun _ he => nomatch he⟩
  · have hrow : w.store.rows.find? id = some row := hrow
    rw [hempty] at hrow
    cases hrow
  · exact (List.append_nil _).symm

/-- What a run leaves of a row, and of the deeds about it. -/
theorem Mailing.run {first : List Mail.Message} {id : NoticeId} {t : Traffic}
    (h : Mailing first id t) (moves : List Move) :
    Mailing first id (t.run moves) ∧ t.world.store.Evolves (t.run moves).world.store ∧
      ∀ kind, t.tally kind ≤ (t.run moves).tally kind :=
  run_induction (Q := fun _ => True)
    (P := fun t' => Mailing first id t' ∧ t.world.store.Evolves t'.world.store ∧
      ∀ kind, t.tally kind ≤ t'.tally kind)
    (fun t' m ht' _ => by
      obtain ⟨hmailing, hevolves, htally⟩ := ht'
      have hhappens := happens_step hmailing.toSane m
      exact ⟨hmailing.happens hhappens,
        hevolves.trans (hhappens.evolves hmailing.toSane hmailing.toSound.roomy),
        fun kind => Nat.le_trans (htally kind) (tally_happens kind hhappens)⟩)
    moves t ⟨h, Store.Evolves.refl _, fun _ => Nat.le_refl _⟩ fun _ _ => trivial

/-- In traffic that begins with an empty store, when no call is in flight: the mail about a
successful row was accepted exactly once if it was not given up, and not at all if it was, which is
always for an error that may pass. Whatever happens then, the row stays as it is and no mail about
it is accepted any more. -/
theorem success_is_mailed_or_given_up {w : World} (hempty : w.store = {}) (moves : List Move)
    (hquiet : (Traffic.run { world := w } moves).isQuiet = true) {id : NoticeId} {row : Notice}
    (hrow : (Traffic.run { world := w } moves).world.store.rows.find? id = some row)
    (hsuccess : row.status = .success) :
    let t := Traffic.run { world := w } moves
    (t.tally (Deed.spoils id) = 0 → t.tally (Deed.mails id) = 1) ∧
    (t.tally (Deed.spoils id) ≠ 0 → t.tally (Deed.mails id) = 0) ∧
    (∀ e ∈ t.log, e.deed.Excusable) ∧
    t.world.outbox.sent = w.outbox.sent ++ (t.log.filterMap fun e => e.deed.mail?) ∧
    ∀ later, (t.run later).world.store.rows.find? id = some row ∧
      (t.run later).tally (Deed.mails id) = t.tally (Deed.mails id) := by
  intro t
  have ht : Mailing w.outbox.sent id t := ((Mailing.begin hempty id).run moves).1
  have howing : t.owing id = 0 := owing_of_isQuiet hquiet id
  have hm := ht.ledger.mailed
  have hd := ht.ledger.due
  have ho := ht.ledger.once
  have hdue : 0 < t.tally (Deed.due id) := ht.told row hrow hsuccess
  refine ⟨fun hspoils => ?_, fun hspoils => ?_, ht.excusable, ht.kept, fun later => ⟨?_, ?_⟩⟩
  · omega
  · omega
  · have hfinal : row.status.isFinal = true := by
      rw [hsuccess]
      rfl
    exact (ht.run later).2.1.final hrow hfinal
  · obtain ⟨hlater, -, htally⟩ := ht.run later
    have hm' := hlater.ledger.mailed
    have hd' := hlater.ledger.due
    have ho' := hlater.ledger.once
    have hmails := htally (Deed.mails id)
    have hspoils := htally (Deed.spoils id)
    omega

/-- A world in which the mailer refuses the first mail. -/
def refusing : World :=
  { World.oneBooking.register with outbox := { faults := .firstTimes 1 } }

/-- A notice is created, and its event is delivered until nothing waits; a sweep follows that takes
up whatever is not final. -/
def refusedMail : List Move :=
  [.start (.create ⟨7⟩ none), .advance 0, .start .dispatch] ++ List.replicate 30 (.advance 1) ++
    [.start (.sweep 0)] ++ List.replicate 6 (.advance 2)

/-- The mailer refuses the mail, the event is delivered again and a sweep comes by; no call is in
flight then, the row is successful, and no mail about it was ever accepted. -/
theorem success_without_mail :
    let t := Traffic.run { world := refusing } refusedMail
    t.isQuiet = true ∧ (∃ row, t.world.store.rows.find? ⟨1⟩ = some row ∧ row.status = .success) ∧
      t.tally (Deed.mails ⟨1⟩) = 0 ∧ t.world.outbox.sent = [] := by
  intro t
  have hstatus : (t.world.store.rows.find? ⟨1⟩).map Notice.status = some .success := by
    decide +kernel
  obtain ⟨row, hrow, hsuccess⟩ := Option.map_eq_some_iff.mp hstatus
  exact ⟨by decide +kernel, ⟨row, hrow, hsuccess⟩, by decide +kernel, by decide +kernel⟩

/-- Nothing that follows ever sends the mail that was refused. -/
theorem refused_mail_stays_unsent :
    let t := Traffic.run { world := refusing } refusedMail
    t.isQuiet = true ∧ t.tally (Deed.spoils ⟨1⟩) ≠ 0 ∧
      ∀ later, (t.run later).tally (Deed.mails ⟨1⟩) = 0 := by
  have hempty : refusing.store = {} := rfl
  have hquiet : (Traffic.run { world := refusing } refusedMail).isQuiet = true := by decide +kernel
  have hspoils : (Traffic.run { world := refusing } refusedMail).tally (Deed.spoils ⟨1⟩) ≠ 0 := by
    decide +kernel
  have hstatus : ((Traffic.run { world := refusing } refusedMail).world.store.rows.find? ⟨1⟩).map
      Notice.status = some .success := by decide +kernel
  obtain ⟨row, hrow, hsuccess⟩ := Option.map_eq_some_iff.mp hstatus
  obtain ⟨-, hnone, -, -, hlater⟩ :=
    success_is_mailed_or_given_up hempty refusedMail hquiet hrow hsuccess
  refine ⟨hquiet, hspoils, fun later => ?_⟩
  rw [(hlater later).2]
  exact hnone hspoils

end Traffic

end BookingNotices
