import BookingNotices.Proofs.Inquiry
import BookingNotices.Proofs.Traffic.Dedup

/-!
# What becomes of a claimed row

* `Shelf.Reads`          : the invoice of a mail can be read, so that it is attached;
* `Worker.Concludes`     : how a call ends whose outcome is decided (`concludes_resolving`);
* `Worker.Decides.compose` : the mail that is composed is the one that is to tell the outcome;
* `Worker.Taken`         : a row was taken, and nothing else was done (`taken_of_step`);
* `Store.Blank`          : a row whose work goes on has no document; so it is in all traffic
  (`Traffic.blank_run`);
* `resolution_of_taken`  : what becomes of a row that was just taken, by what is in the way.
-/

namespace BookingNotices

/-! ## Reading an invoice -/

namespace Shelf

/-- The invoice of a mail can be read, if it has one. -/
def Reads (s : Shelf) (mail : Mail.Message) : Prop :=
  mail.attachment.isSome = true → s.readFaults.next.1 = none

/-- A mail, as far as its invoice can be read. -/
def attach (s : Shelf) (mail : Mail.Message) : Except Notice.Error Mail.Message × Shelf :=
  match mail.attachment, s.readFaults.next with
  | none, _ => (.ok mail, s)
  | some _, (none, faults) => (.ok mail, { s with readFaults := faults })
  | some _, (some reason, faults) =>
    (.error (.ofFailure (Blob.Error.medium reason).toFailure), { s with readFaults := faults })

theorem attach_cases (s : Shelf) (mail : Mail.Message) :
    (∃ reason, mail.attachment.isSome = true ∧ s.readFaults.next.1 = some reason ∧
      s.attach mail = (.error (.ofFailure (Blob.Error.medium reason).toFailure),
        { s with readFaults := s.readFaults.next.2 })) ∨
    (s.Reads mail ∧ ∃ s', s.attach mail = (.ok mail, s') ∧ s'.blobs = s.blobs ∧ s'.puts = s.puts ∧
      (mail.attachment = none → s' = s)) := by
  unfold attach Reads
  cases hattached : mail.attachment with
  | none => exact .inr ⟨fun h => (nomatch h), s, rfl, rfl, rfl, fun _ => rfl⟩
  | some attachment =>
    rcases hnext : s.readFaults.next with ⟨_ | reason, faults⟩
    · exact .inr ⟨fun _ => rfl, _, rfl, rfl, rfl, fun h => nomatch h⟩
    · exact .inl ⟨reason, rfl, rfl, rfl⟩

end Shelf

namespace Worker

open World

variable {w : World} {n : Notice} {b : Booking} {u : User}

/-! ## The outcome -/

/-- How a call ends that has decided that its row is to become `m`, and that `mail?` is to tell it.
The world was `w` when the row was taken. -/
structure Concludes (w : World) (m : Notice) (mail? : Option Mail.Message)
    (ending : Except Notice.Error Outcome × World) : Prop where
  /-- a store that fails leaves the row as it was taken, and nobody is told -/
  lost : (w.storeFails .resolve).1 = true →
    ending.1 = .error (.ofFailure StoreCall.resolve.failure) ∧ ending.2.store = w.store ∧
      ending.2.outbox = w.outbox
  stored : (w.storeFails .resolve).1 = false → ending.2.store = w.store.put m
  told : (w.storeFails .resolve).1 = false →
    (∀ mail, mail? = some mail → w.shelf.Reads mail ∧ (w.outbox.send mail).1 = .ok ()) →
      ending.1 = .ok (.completed m) ∧ ending.2.outbox.sent = w.outbox.sent ++ mail?.toList
  /-- an invoice that cannot be read leaves the outcome stored, and nobody is told -/
  unread : (w.storeFails .resolve).1 = false →
    ∀ mail reason, mail? = some mail → mail.attachment.isSome = true →
      w.shelf.readFaults.next.1 = some reason →
      ending.1 = .error (.ofFailure (Blob.Error.medium reason).toFailure) ∧
        ending.2.outbox = w.outbox
  /-- a mail that is refused leaves the outcome stored -/
  unsent : (w.storeFails .resolve).1 = false →
    ∀ mail f, mail? = some mail → w.shelf.Reads mail → (w.outbox.send mail).1 = .error f →
      ending.1 = .error (.ofFailure f) ∧ ending.2.outbox.sent = w.outbox.sent

theorem Concludes.unstored {w w' : World} {m : Notice} {mail? : Option Mail.Message}
    {ending : Except Notice.Error Outcome × World} (h : Concludes w' m mail? ending)
    (hw : w.Unstored w') : Concludes w m mail? ending := by
  have hfails : (w'.storeFails .resolve).1 = (w.storeFails .resolve).1 := by
    unfold World.storeFails
    rw [hw.faults]
    rcases w.storeFaults .resolve with _ | ⟨_ | _, _⟩ <;> rfl
  rcases h with ⟨lost, stored, told, unread, unsent⟩
  unfold Shelf.Reads at told unsent
  rw [hw.store, hw.outbox, hfails] at lost
  rw [hw.store, hfails] at stored
  rw [hw.reads, hw.outbox, hfails] at told unread unsent
  exact ⟨lost, stored, told, unread, unsent⟩

theorem run_resolving_of_fault {m : Notice} {since : Timestamp} {w₁ : World}
    (hfails : w.storeFails .resolve = (true, w₁)) :
    (Worker.resolving since m b u).run w =
      (.error (.ofFailure StoreCall.resolve.failure), w₁) := by
  have hstep : (Worker.resolving since m b u).step w =
      (failing (.ofFailure StoreCall.resolve.failure), w₁) := by
    dsimp only [step]
    rw [hfails]
  rw [run_of_step rfl hstep, run_failing]

theorem run_resolving_of_claimHolds {m : Notice} {since : Timestamp} {w₁ : World}
    (hcall : w.storeFails .resolve = (false, w₁)) (hset : m.id.isUnset = false)
    (hclaim : w.store.claimHolds m.id since = true) :
    (Worker.resolving since m b u).run w =
      (afterResolving m b u).run { w₁ with store := w.store.put m } := by
  have hstore : w₁.store = w.store := (World.Calls.of_storeFails hcall).aside.store
  have hstep : (Worker.resolving since m b u).step w =
      (afterResolving m b u, { w₁ with store := w.store.put m }) := by
    dsimp only [step]
    rw [hcall]
    dsimp only
    rw [hstore, Store.resolve_of_claimHolds hset hclaim]
  exact run_of_step rfl hstep

/-- Nobody is told an outcome that is not to be told. -/
theorem run_afterResolving_of_silent {m : Notice} (h : Notice.Email.forBooking b = none) (u : User)
    (w : World) : (afterResolving m b u).run w = (.ok (.completed m), w) := by
  unfold afterResolving
  rw [h]
  exact run_of_result rfl w

/-- Nobody is told an outcome whose invoice cannot be read. -/
theorem run_afterResolving_of_unread {m : Notice} {email : Notice.Email} {shelf : Shelf}
    {e : Notice.Error} (hemail : Notice.Email.forBooking b = some email)
    (hcompose : m.compose u email w.shelf = (.error e, shelf)) :
    (afterResolving m b u).run w = (.error e, { w with shelf := shelf }) := by
  have hafter : afterResolving m b u = .composing m u email := by
    unfold afterResolving
    rw [hemail]
  have hstep : (Worker.composing m u email).step w = (failing e, { w with shelf := shelf }) := by
    dsimp only [step]
    rw [hcompose]
  rw [hafter, run_of_step rfl hstep, run_failing]

/-- The mail that tells an outcome is handed over once. -/
theorem run_afterResolving_of_mail {m : Notice} {email : Notice.Email} {mail : Mail.Message}
    {shelf : Shelf} (hemail : Notice.Email.forBooking b = some email)
    (hcompose : m.compose u email w.shelf = (.ok mail, shelf)) :
    (afterResolving m b u).run w =
      (match (w.outbox.send mail).1 with
        | .error f => .error (.ofFailure f)
        | .ok () => .ok (.completed m),
        { w with shelf := shelf, outbox := (w.outbox.send mail).2 }) := by
  have hafter : afterResolving m b u = .composing m u email := by
    unfold afterResolving
    rw [hemail]
  have hstep : (Worker.composing m u email).step w =
      (.sending m mail, { w with shelf := shelf }) := by
    dsimp only [step]
    rw [hcompose]
  rw [hafter, run_of_step rfl hstep, run_of_going rfl]
  dsimp only [step]
  rcases w.outbox.send mail with ⟨f | _, outbox⟩
  · exact run_failing _ _
  · exact run_of_result rfl _

theorem sent_of_send_eq_ok {o : Outbox} {mail : Mail.Message} (h : (o.send mail).1 = .ok ()) :
    (o.send mail).2.sent = o.sent ++ [mail] := by
  unfold Outbox.send at h ⊢
  dsimp only at h ⊢
  split at h
  · cases h
  · rename_i hfault
    rw [if_neg hfault]

theorem sent_of_send_eq_error {o : Outbox} {mail : Mail.Message} {f : Failure}
    (h : (o.send mail).1 = .error f) : (o.send mail).2.sent = o.sent := by
  unfold Outbox.send at h ⊢
  dsimp only at h ⊢
  split at h
  · rename_i hfault
    rw [if_pos hfault]
  · cases h

/-- An outcome that is stored is told, if its invoice can be read and the mailer takes the mail. The
world was `w` when the call on the store was made. -/
theorem concludes_telling {m : Notice} {mail : Mail.Message} {email : Notice.Email} {w₁ : World}
    (hcall : w.storeFails .resolve = (false, w₁))
    (hemail : Notice.Email.forBooking b = some email)
    (hcompose : m.compose u email w.shelf = w.shelf.attach mail) :
    Concludes w m (some mail)
        ((afterResolving m b u).run { w₁ with store := w.store.put m }) ∧
      w.Told (some mail) ((afterResolving m b u).run { w₁ with store := w.store.put m }).2 := by
  obtain ⟨faults, rfl, -⟩ := World.Calls.of_storeFails hcall
  have hnot : ¬ (w.storeFails .resolve).1 = true := by
    rw [hcall]
    exact nofun
  let stored : World := { w with store := w.store.put m, storeFaults := faults }
  rcases w.shelf.attach_cases mail with ⟨reason, hattached, hreason, hattach⟩ | ⟨hreads, hattach⟩
  · rw [run_afterResolving_of_unread (w := stored) hemail (hcompose.trans hattach)]
    refine ⟨⟨fun h => absurd h hnot, fun _ => rfl, fun _ htold => ?_, ?_, ?_⟩,
      rfl, rfl, rfl, rfl, fun hplain => ?_⟩
    · have hnone := (htold mail rfl).1 hattached
      rw [hreason] at hnone
      cases hnone
    · rintro - mail' reason' heq - hreason'
      cases heq
      rw [hreason] at hreason'
      cases hreason'
      exact ⟨rfl, rfl⟩
    · rintro - mail' f heq hreads -
      cases heq
      rw [hreads hattached] at hreason
      cases hreason
    · rw [hplain mail rfl] at hattached
      cases hattached
  · obtain ⟨shelf, hattach, hblobs, hputs, hplain⟩ := hattach
    rw [run_afterResolving_of_mail (w := stored) hemail (hcompose.trans hattach)]
    refine ⟨⟨fun h => absurd h hnot, fun _ => rfl, fun _ htold => ?_, ?_, ?_⟩,
      rfl, rfl, hblobs, hputs, fun hnone => hplain (hnone mail rfl)⟩
    · have hok := (htold mail rfl).2
      dsimp only
      rw [hok]
      exact ⟨rfl, sent_of_send_eq_ok hok⟩
    · rintro - mail' reason heq hattached hreason
      cases heq
      rw [hreads hattached] at hreason
      cases hreason
    · rintro - mail' f heq - herror
      cases heq
      dsimp only
      rw [herror]
      exact ⟨rfl, sent_of_send_eq_error herror⟩

/-- An outcome that is decided is stored and told, as long as the claim holds. -/
theorem concludes_resolving {m : Notice} {since : Timestamp} {mail? : Option Mail.Message}
    (hset : m.id.isUnset = false) (hclaim : w.store.claimHolds m.id since = true)
    (hmail : (Notice.Email.forBooking b).map (fun email => m.compose u email w.shelf) =
      mail?.map w.shelf.attach) :
    Concludes w m mail? ((Worker.resolving since m b u).run w) ∧
      w.Told mail? ((Worker.resolving since m b u).run w).2 := by
  rcases hcall : w.storeFails .resolve with ⟨_ | _, w₁⟩
  · rw [run_resolving_of_claimHolds hcall hset hclaim]
    cases hemail : Notice.Email.forBooking b with
    | none =>
      rw [hemail] at hmail
      obtain rfl : mail? = none := by
        cases mail? with
        | none => rfl
        | some mail => cases hmail
      rw [run_afterResolving_of_silent hemail]
      obtain ⟨faults, rfl, -⟩ := World.Calls.of_storeFails hcall
      refine ⟨⟨fun h => ?_, fun _ => rfl, fun _ _ => ⟨rfl, (List.append_nil _).symm⟩, ?_, ?_⟩,
        rfl, rfl, rfl, rfl, fun _ => rfl⟩
      · rw [hcall] at h
        cases h
      · rintro - mail reason h
        cases h
      · rintro - mail f h
        cases h
    | some email =>
      rw [hemail] at hmail
      cases mail? with
      | none => cases hmail
      | some mail => exact concludes_telling hcall hemail (Option.some.inj hmail)
  · rw [run_resolving_of_fault hcall]
    obtain ⟨faults, rfl, -⟩ := World.Calls.of_storeFails hcall
    have hnot : ¬ (w.storeFails .resolve).1 = false := by
      rw [hcall]
      exact nofun
    exact ⟨⟨fun _ => ⟨rfl, rfl, rfl⟩, fun h => absurd h hnot, fun h => absurd h hnot,
      fun h => absurd h hnot, fun h => absurd h hnot⟩, rfl, rfl, rfl, rfl, fun _ => rfl⟩

/-! ## The mail about an outcome -/

theorem compose_of_printed {shelf : Shelf} {bytes : Bytes} (hconfirmed : b.status = .confirmed)
    (hget : shelf.get (Notice.documentName b.id) = .ok bytes) (n : Notice) (u : User)
    (now : Timestamp) :
    (Notice.Email.forBooking b).map (fun email => (n.decided b now).compose u email shelf) =
      some (shelf.attach ⟨u.email, Notice.Email.subjectLine, Notice.Email.confirmedBody,
        some ⟨Notice.documentName b.id, Invoice.contentType, bytes⟩⟩) := by
  have hdocument : (n.decided b now).hasDocument = true := by
    rw [Notice.decided_of_confirmed hconfirmed]
    exact Notice.hasDocument_documentName b.id rfl
  unfold Notice.Email.forBooking Notice.compose
  rw [hconfirmed]
  simp only [Option.map_some, hdocument]
  rw [Notice.decided_of_confirmed hconfirmed]
  unfold Shelf.read Shelf.attach
  dsimp only
  rw [hget]
  rcases shelf.readFaults.next with ⟨_ | reason, faults⟩ <;> rfl

/-- The mail that a worker composes is the one that is to tell its outcome: the invoice is read from
where it was just put. -/
theorem Decides.compose {mail? : Option Mail.Message} {w' : World} (h : Decides w n b u mail? w')
    (now : Timestamp) :
    (Notice.Email.forBooking b).map (fun email => (n.decided b now).compose u email w'.shelf) =
      mail?.map w'.shelf.attach := by
  cases h with
  | printed hdescribes _ hprinted =>
    refine compose_of_printed hdescribes.confirmed ?_ n u now
    apply Shelf.get_eq_ok.mpr
    rw [hprinted.blobs, Table.find?_insert, if_pos rfl]
  | cancelled hstatus =>
    unfold Notice.Email.forBooking
    rw [hstatus]
    rfl
  | opened hstatus =>
    unfold Notice.Email.forBooking
    rcases hstatus with hstatus | hstatus <;> rw [hstatus] <;> rfl

/-! ## Taking a row -/

/-- What has happened when a row was taken: it is stored as it was copied, and nothing else was
done. -/
structure Taken (w : World) (n : Notice) (w' : World) : Prop where
  row : ∃ id row now, w.store.rows.find? id = some row ∧
    (row.status = .pending ∨ row.status = .processing) ∧
    n = { row with status := .processing, updated := now }
  set : n.id.isUnset = false
  store : w'.store = w.store.put n
  apart : w.Apart w'

theorem taken_of_claiming {id : NoticeId} {w' : World}
    (h : (Worker.claiming id).step w = (.findingBooking n, w')) : Taken w n w' := by
  have hapart : w.Apart w' := by
    have := Transaction.Respects.run apart_frame (fun _ _ => ⟨⟨rfl, rfl, rfl⟩, rfl⟩)
      (.claim apart_frame apart_publishes id) Option.isSome w
    have hw : ((Worker.claiming id).step w).2 = w' := by rw [h]
    rwa [← hw]
  dsimp only [step] at h
  rcases Transaction.run_cases (Transaction.aside_claim id) Option.isSome w with
    ⟨e, w₁, hrun, -⟩ | ⟨w₀, taken, staged, w₂, w₁, -, hwork, -, -, hrun⟩
  · rw [hrun] at h
    cases h
  · rw [hrun] at h
    cases taken with
    | none => cases h
    | some m =>
      obtain ⟨row, hrow, hpending, hm, hset, rfl, -⟩ := Transaction.claim_eq_ok hwork
      cases h
      exact ⟨⟨id, row, _, hrow, Or.inl hpending, hm⟩, hset, rfl, hapart⟩

theorem taken_of_renewing {id : NoticeId} {threshold : Nat} {w' : World}
    (h : (Worker.renewing id threshold).step w = (.findingBooking n, w')) : Taken w n w' := by
  have hapart : w.Apart w' := by
    have := Transaction.Respects.run apart_frame (fun _ _ => ⟨⟨rfl, rfl, rfl⟩, rfl⟩)
      (.renew apart_frame id threshold) Option.isSome w
    have hw : ((Worker.renewing id threshold).step w).2 = w' := by rw [h]
    rwa [← hw]
  dsimp only [step] at h
  rcases Transaction.run_cases (Transaction.aside_renew id threshold) Option.isSome w with
    ⟨e, w₁, hrun, -⟩ | ⟨w₀, taken, staged, w₂, w₁, -, hwork, -, -, hrun⟩
  · rw [hrun] at h
    cases h
  · rw [hrun] at h
    cases taken with
    | none => cases h
    | some m =>
      obtain ⟨row, hrow, hstale, hm, hset, rfl, -⟩ := Transaction.renew_eq_ok hwork
      have hprocessing := Notice.processing_of_isStale hstale
      cases h
      exact ⟨⟨id, row, _, hrow, Or.inr hprocessing, by rw [hm, hprocessing]⟩, hset, rfl, hapart⟩

/-- Only a claim or a renewal takes a row. -/
theorem taken_of_step {k : Worker} {w' : World} (h : k.step w = (.findingBooking n, w')) :
    k.result? = none ∧ Taken w n w' := by
  have hgoing : k.result? = none := by
    cases k with
    | ended => cases h
    | _ => rfl
  have hsteps := stepsLeft_step_lt hgoing w
  rw [h] at hsteps
  cases k with
  | claiming id => exact ⟨rfl, taken_of_claiming h⟩
  | renewing id threshold => exact ⟨rfl, taken_of_renewing h⟩
  | _ => simp [stepsLeft] at hsteps

namespace Taken

variable {w' : World}

theorem processing (h : Taken w n w') : n.status = .processing := by
  obtain ⟨id, row, now, -, -, rfl⟩ := h.row
  rfl

theorem find? (h : Taken w n w') : w'.store.rows.find? n.id = some n := by
  rw [h.store]
  exact Store.find?_put_self _ n

theorem claimHolds (h : Taken w n w') : w'.store.claimHolds n.id n.updated = true :=
  Store.claimHolds_iff.mpr ⟨n, h.find?, h.processing, rfl⟩

/-- With nobody else at work the claim holds until the outcome is stored. -/
theorem concludes {mail? : Option Mail.Message} {w₂ : World} (h : Taken w n w')
    (hdecides : Decides w' n b u mail? w₂) (hw : w'.Unstored w₂) (now : Timestamp) :
    Concludes w' (n.decided b now) mail?
        ((Worker.resolving n.updated (n.decided b now) b u).run w₂) ∧
      w₂.Told mail? ((Worker.resolving n.updated (n.decided b now) b u).run w₂).2 := by
  have hset : (n.decided b now).id.isUnset = false := h.set
  have hclaim : w₂.store.claimHolds (n.decided b now).id n.updated = true := by
    rw [hw.store]
    exact h.claimHolds
  exact (concludes_resolving hset hclaim (hdecides.compose now)).imp_left
    fun hends => hends.unstored hw

/-- A worker that has taken a row is hindered, or it decides the outcome. -/
theorem ends (h : Taken w n w') :
    (∃ f, w'.Hinders n f ∧ ((Worker.findingBooking n).run w').1 = .error (.ofFailure f)) ∨
      ∃ m mail?, Concludes w' m mail? ((Worker.findingBooking n).run w') := by
  by_cases hhindered : ∃ f, w'.Hinders n f
  · obtain ⟨f, hf⟩ := hhindered
    obtain ⟨w₂, hrun, -⟩ := run_of_hinders hf
    rw [hrun]
    exact Or.inl ⟨f, hf, rfl⟩
  · have hfree : ∀ f, ¬ w'.Hinders n f := fun f hf => hhindered ⟨f, hf⟩
    obtain ⟨b, u, mail?, w₂, -, hdecides, hw, hrun⟩ := run_of_not_hindered h.processing hfree
    rw [hrun]
    exact Or.inr ⟨_, _, (h.concludes hdecides hw w'.next).1⟩

end Taken

end Worker

/-- A row whose work goes on has no document. -/
def Store.Blank (s : Store) : Prop :=
  ∀ id row, s.rows.find? id = some row → row.status.isFinal = false → row.document = ""

theorem Store.Blank.put {s : Store} (h : s.Blank) {n : Notice}
    (hn : n.status.isFinal = false → n.document = "") : (s.put n).Blank := by
  intro id row hrow hopen
  rcases Store.find?_put_cases hrow with ⟨-, rfl⟩ | ⟨-, hrow⟩
  · exact hn hopen
  · exact h id row hrow hopen

theorem Worker.Taken.document {w w' : World} {n : Notice} (h : Taken w n w')
    (hblank : w.store.Blank) : n.document = "" := by
  obtain ⟨id, row, now, hrow, hopen, rfl⟩ := h.row
  refine hblank id row hrow ?_
  rcases hopen with hstatus | hstatus <;> rw [hstatus] <;> rfl

theorem Worker.Acts.blank {k k' : Worker} {w w' : World} {ds : List Deed} (h : k.Acts w k' w' ds)
    (hfits : k.Fits w.store) (hblank : w.store.Blank) : w'.store.Blank := by
  cases h.stores hfits with
  | nothing _ hstore => rwa [hstore]
  | @claimed row _ _ _ _ hrow hpending hn hstore =>
    rw [hstore]
    refine hblank.put fun _ => ?_
    rw [hn]
    show row.document = ""
    exact hblank _ row hrow (by rw [hpending]; rfl)
  | @renewed row _ _ _ _ _ hrow hprocessing hn hstore =>
    rw [hstore]
    refine hblank.put fun _ => ?_
    rw [hn]
    show row.document = ""
    exact hblank _ row hrow (by rw [hprocessing]; rfl)
  | resolved _ _ _ _ hfinal hstore =>
    rw [hstore]
    refine hblank.put fun hopen => ?_
    rw [hfinal] at hopen
    cases hopen

theorem World.blank_create {w : World} (hblank : w.store.Blank) (booking : BookingId)
    (cause : Option String) : (w.create booking cause).2.store.Blank := by
  rcases w.create_cases booking cause with ⟨e, -, hw⟩ | ⟨n, w', rfl, -, -, hw, -⟩
  · rw [hw.store]
    exact hblank
  · rw [hw]
    intro id row hrow hopen
    rcases Store.find?_insert_cases hrow with ⟨-, rfl⟩ | hrow
    · rfl
    · exact hblank id row hrow hopen

/-- Only an outcome brings a document, however calls are mixed and fail. -/
theorem Traffic.blank_run {w : World} (hempty : w.store = {}) (moves : List Move) :
    (Traffic.run { world := w } moves).world.store.Blank := by
  have hstep (t : Traffic) (m : Move) (h : t.Sound ∧ t.world.store.Blank) :
      (t.step m).Sound ∧ (t.step m).world.store.Blank := by
    obtain ⟨hsound, hblank⟩ := h
    have hhappens := happens_step hsound.toSane m
    refine ⟨hsound.happens hhappens, ?_⟩
    generalize t.step m = t' at hhappens
    cases hhappens with
    | rested hrest =>
      rw [hrest.store]
      exact hblank
    | created => exact World.blank_create hblank _ _
    | worked hi hk _ hacts =>
      exact hacts.blank (hsound.fits _ _ ((workerOf?_of_call hi).trans hk)) hblank
  have hbegin : w.store.Blank := by
    rw [hempty]
    intro id row hrow
    cases hrow
  exact (run_induction (P := fun t => t.Sound ∧ t.world.store.Blank) (Q := fun _ => True)
    (fun t m h _ => hstep t m h) moves { world := w } ⟨Sound.begin hempty, hbegin⟩
    fun _ _ => trivial).2

/-! ## The resolution -/

/-- What becomes of a row that was just taken at the instant `n.updated`, with nobody else at work.
If something is in the way, then the call returns that failure, the row stays as it was taken, no
blob is stored and nothing is mailed. Otherwise the booking decides: a confirmed one has its invoice
rendered and put once; a cancelled or an open one has no more looked up, and nothing rendered or
put. The outcome is stored, if the store does not fail, and then told, to the booking's user, with
the invoice if there is one, unless the invoice cannot be read or the mailer refuses the mail.

That a row whose work goes on has no document is so in all traffic (`Traffic.blank_run`). -/
theorem resolution_of_taken {k : Worker} {w w₁ : World} {n : Notice} (hblank : w.store.Blank)
    (htaken : k.step w = (.findingBooking n, w₁)) :
    (w₁.store.rows.find? n.id = some n ∧ n.status = .processing ∧ n.document = "" ∧ w.Apart w₁) ∧
    (∀ f, w₁.Hinders n f → ∃ w', k.run w = (.error (.ofFailure f), w') ∧ w₁.Spared w') ∧
    ((∀ f, ¬ w₁.Hinders n f) → ∃ b u, w₁.Finds n b u ∧
      match b.status with
      | .confirmed => ∃ p bytes, w₁.Describes n b u p ∧ (w₁.render p).1 = .ok bytes ∧
          w₁.Printed (Notice.documentName b.id) bytes (k.run w).2 ∧
          Worker.Concludes w₁
            { n with status := .success, document := Notice.documentName b.id, updated := w₁.next }
            (some ⟨u.email, Notice.Email.subjectLine, Notice.Email.confirmedBody,
              some ⟨Notice.documentName b.id, Invoice.contentType, bytes⟩⟩) (k.run w)
      | .cancelled => w₁.Unprinted (k.run w).2 ∧
          Worker.Concludes w₁ { n with status := .success, document := "", updated := w₁.next }
            (some ⟨u.email, Notice.Email.subjectLine, Notice.Email.cancelledBody, none⟩) (k.run w)
      | .initializing | .pending => w₁.Unprinted (k.run w).2 ∧
          Worker.Concludes w₁ { n with status := .failed, document := "", updated := w₁.next } none
            (k.run w)) := by
  obtain ⟨hgoing, htake⟩ := Worker.taken_of_step htaken
  have hdocument := htake.document hblank
  have hprocessing := htake.processing
  have hrun : k.run w = (Worker.findingBooking n).run w₁ := Worker.run_of_step hgoing htaken
  rw [hrun]
  refine ⟨⟨htake.find?, hprocessing, hdocument, htake.apart⟩, fun f => Worker.run_of_hinders, ?_⟩
  intro hfree
  obtain ⟨b, u, mail?, w₂, hfinds, hdecides, hw₂, hrun₂⟩ :=
    Worker.run_of_not_hindered hprocessing hfree
  obtain ⟨hends, htold⟩ := htake.concludes hdecides hw₂ w₁.next
  refine ⟨b, u, hfinds, ?_⟩
  rw [hrun₂]
  -- a row without a document stays without one, unless the outcome brings it
  have hplain (status : Notice.Status) :
      ({ n with status := status, updated := w₁.next } : Notice) =
        { n with status := status, document := "", updated := w₁.next } := by
    rw [← hdocument]
  cases hdecides with
  | @printed p bytes _ hdescribes hrender hprinted =>
    have hstatus := hdescribes.confirmed
    rw [Notice.decided_of_confirmed hstatus] at hends htold ⊢
    rw [hstatus]
    exact ⟨p, bytes, hdescribes, hrender, hprinted.told htold, hends⟩
  | cancelled hstatus hunprinted =>
    rw [Notice.decided_of_cancelled hstatus, hplain] at hends htold ⊢
    rw [hstatus]
    exact ⟨hunprinted.told htold (fun _ h => by cases h; rfl), hends⟩
  | opened hopen hunprinted =>
    rw [Notice.decided_of_open hopen, hplain] at hends htold ⊢
    rcases hopen with hstatus | hstatus <;> rw [hstatus] <;>
      exact ⟨hunprinted.told htold (fun _ h => nomatch h), hends⟩

namespace World

/-- A world with a confirmed booking, about which a notice waits. -/
def oneToConfirm : World where
  clock := ⟨fun i => ⟨i, 0⟩, 0⟩
  ids := .constant ""
  registry :=
    { users := [(⟨3⟩, ⟨⟨3⟩, "ada@example.org", "Ada"⟩)]
      bookings := [(⟨7⟩, ⟨⟨7⟩, .confirmed, ⟨3⟩, ⟨11⟩, ⟨12⟩, 9000, "USD"⟩)]
      showtimes := [(⟨11⟩, ⟨"Metropolis", "Odeon", "Berlin", "1", 0, 9180000⟩)]
      seats := [(⟨12⟩, ⟨⟨12⟩, "C4"⟩)] }
  store := ⟨[(⟨1⟩, ⟨⟨1⟩, ⟨7⟩, .pending, "", ⟨0, 0⟩, ⟨0, 0⟩⟩)], 1⟩

/-- The same world, but the service of the seats does not answer. -/
def seatsOut : World :=
  { oneToConfirm with
    registry := { oneToConfirm.registry with outages := ⟨fun i => i = 3, 0⟩ } }

/-- The same world, but no blob can be read. -/
def unreadable : World :=
  { oneToConfirm with shelf := { readFaults := .constant (some "disk gone") } }

/-- The row was created in an empty store. -/
theorem blank_oneToConfirm : oneToConfirm.store.Blank :=
  Traffic.blank_run (w := { oneToConfirm with store := {} }) rfl
    [.start (.create ⟨7⟩ none), .advance 0]

/-- The row about it, once a worker has taken it. -/
def takenRow : Notice := ⟨⟨1⟩, ⟨7⟩, .processing, "", ⟨0, 0⟩, ⟨0, 0⟩⟩

/-- Nothing is in the way of an outcome, whatever is the matter with reading blobs. -/
theorem not_hinders_oneToConfirm (faults : Supply (Option String)) (f : Failure) :
    ¬ ((Worker.claiming ⟨1⟩).step
      { oneToConfirm with shelf := { readFaults := faults } }).2.Hinders takenRow f := by
  intro h
  cases h with
  | booking h => cases h
  | user hbooking h =>
    cases hbooking
    cases h
  | showtime hfinds hconfirmed h =>
    obtain ⟨hbooking, huser⟩ := hfinds
    cases hbooking
    cases h
  | seat hfinds hconfirmed hshowtime h =>
    obtain ⟨hbooking, huser⟩ := hfinds
    cases hbooking
    cases h
  | rendering hdescribes h => cases h
  | put hdescribes hrender h =>
    unfold Shelf.put Blob.checkName at h
    rw [Notice.isName_documentName] at h
    cases h

/-- Nothing is in the way of the one row, which is told with its invoice. In a world without seats
the call fails, and the row stays as it was taken. In one whose blobs cannot be read the call fails
as well, but the outcome is stored, and nobody is told. -/
theorem waiting_row_is_resolved :
    oneToConfirm.store.Blank ∧
    (∃ w₁, (Worker.claiming ⟨1⟩).step oneToConfirm = (.findingBooking takenRow, w₁)) ∧
    (∃ bytes, (oneToConfirm.process ⟨1⟩).1 =
        .ok (.completed ⟨⟨1⟩, ⟨7⟩, .success, "pdf_invoice_7.pdf", ⟨0, 0⟩, ⟨2, 0⟩⟩) ∧
      (oneToConfirm.process ⟨1⟩).2.outbox.sent =
        [⟨"ada@example.org", Notice.Email.subjectLine, Notice.Email.confirmedBody,
          some ⟨"pdf_invoice_7.pdf", "application/pdf", bytes⟩⟩]) ∧
    seatsOut.store.Blank ∧
    (∃ w₁, (Worker.claiming ⟨1⟩).step seatsOut = (.findingBooking takenRow, w₁)) ∧
    (seatsOut.process ⟨1⟩).1 = .error (.unavailable "seat service unavailable") ∧
    (seatsOut.process ⟨1⟩).2.store.rows.find? ⟨1⟩ = some takenRow ∧
    unreadable.store.Blank ∧
    (∃ w₁, (Worker.claiming ⟨1⟩).step unreadable = (.findingBooking takenRow, w₁)) ∧
    (unreadable.process ⟨1⟩).1 =
      .error (.ofFailure (Blob.Error.medium "disk gone").toFailure) ∧
    (unreadable.process ⟨1⟩).2.store.rows.find? ⟨1⟩ =
      some ⟨⟨1⟩, ⟨7⟩, .success, "pdf_invoice_7.pdf", ⟨0, 0⟩, ⟨2, 0⟩⟩ ∧
    (unreadable.process ⟨1⟩).2.outbox.sent = [] := by
  refine ⟨blank_oneToConfirm, ⟨_, rfl⟩, ?_, blank_oneToConfirm, ⟨_, rfl⟩, ?_⟩
  · obtain ⟨-, -, hresolved⟩ := resolution_of_taken blank_oneToConfirm
      (show (Worker.claiming ⟨1⟩).step oneToConfirm = (.findingBooking takenRow, _) from rfl)
    obtain ⟨b, u, ⟨hbooking, huser⟩, hcase⟩ := hresolved (not_hinders_oneToConfirm _)
    cases hbooking
    cases huser
    obtain ⟨p, bytes, -, -, -, hends⟩ := hcase
    obtain ⟨hok, hsent⟩ := hends.told rfl fun mail hmail => by
      cases hmail
      exact ⟨fun _ => rfl, rfl⟩
    exact ⟨bytes, hok, hsent⟩
  have hseats : (seatsOut.process ⟨1⟩).1 = .error (.unavailable "seat service unavailable") ∧
      (seatsOut.process ⟨1⟩).2.store.rows.find? ⟨1⟩ = some takenRow := by
    obtain ⟨⟨hrow, -⟩, hhindered, -⟩ := resolution_of_taken (w := seatsOut) blank_oneToConfirm
      (show (Worker.claiming ⟨1⟩).step seatsOut = (.findingBooking takenRow, _) from rfl)
    obtain ⟨w', hrun, hspared⟩ := hhindered _ (.seat ⟨rfl, rfl⟩ rfl rfl rfl)
    have hprocess : seatsOut.process ⟨1⟩ = _ := hrun
    rw [hprocess, hspared.store]
    exact ⟨rfl, hrow⟩
  refine ⟨hseats.1, hseats.2, blank_oneToConfirm, ⟨_, rfl⟩, ?_⟩
  obtain ⟨-, -, hresolved⟩ := resolution_of_taken (w := unreadable) blank_oneToConfirm
    (show (Worker.claiming ⟨1⟩).step unreadable = (.findingBooking takenRow, _) from rfl)
  obtain ⟨b, u, ⟨hbooking, huser⟩, hcase⟩ := hresolved (not_hinders_oneToConfirm _)
  cases hbooking
  cases huser
  obtain ⟨p, bytes, -, -, -, hends⟩ := hcase
  obtain ⟨herror, houtbox⟩ := hends.unread rfl _ "disk gone" rfl rfl rfl
  have hstored := congrArg (fun s => s.rows.find? ⟨1⟩) (hends.stored rfl)
  exact ⟨herror, hstored, congrArg Outbox.sent houtbox⟩

end World

end BookingNotices
