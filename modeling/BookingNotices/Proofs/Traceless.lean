import BookingNotices.Proofs.Announcement
import BookingNotices.Proofs.Resolution

/-!
# Calls that leave no trace

* `World.Traceless`     : nothing is stored, published, queued, put or mailed, and nothing is looked
  up;
* `Transaction.Ends`    : the ends of a transaction (`Announces.ends`): it leaves no trace, it is
  kept, or its commit fails;
* `Worker.begins`       : so a worker leaves no trace, or has taken its row;
* `Concludes.ne_alreadyHandled`, `Hinders.code_ne` : what a worker that has its row answers;
* `refusals_leave_no_trace` : what is refused leaves no trace.

By the time that it fails a transaction may have staged a row, a status or an instant. All of that
is in its own copy of the store, and an event is published last.
-/

namespace BookingNotices

namespace World

/-- Nothing was stored, published, queued, given up, put or mailed, and nothing was looked up. -/
structure Traceless (w w' : World) : Prop extends Apart w w' where
  store : w'.store = w.store
  published : w'.bus.published = w.bus.published
  queue : w'.bus.queue = w.bus.queue
  deadLetters : w'.bus.deadLetters = w.bus.deadLetters

/-- An event that was refused leaves nothing on the bus. -/
theorem Traceless.of_announced {w w' : World} (hapart : w.Apart w') (hstore : w'.store = w.store)
    (hbus : w.Announced none w') : w.Traceless w' := by
  rcases hbus with hbus | hbus
  · exact ⟨hapart, hstore, by rw [hbus], by rw [hbus], by rw [hbus]⟩
  · exact ⟨hapart, hstore, by rw [hbus]; rfl, by rw [hbus]; rfl, by rw [hbus]; rfl⟩

/-- A renderer that fails says no more than that. -/
def Candid (w : World) : Prop :=
  ∀ i p f, w.renderers.answer i p = .error f → f.code = .renderError

end World

/-! ## The ends of a transaction -/

namespace Transaction

variable {α : Type}

/-- The ends of a transaction that is run. -/
inductive Ends (t : Transaction α) (keep : α → Bool) (w : World) :
    Except Notice.Error α → World → Prop where
  | failed {e w'} (hw : w.Traceless w') : Ends t keep w (.error e) w'
  /-- there was nothing to keep -/
  | idle {a staged w₀ w₁ w'} (hbegun : w.Calls w₀) (hwork : t w.store w₀ = (.ok (a, staged), w₁))
      (hkeep : keep a = false) (hw : w.Traceless w') : Ends t keep w (.ok a) w'
  /-- the work was done, but the commit failed -/
  | lapsed {a staged w₀ w₁ w'} (hbegun : w.Calls w₀)
      (hwork : t w.store w₀ = (.ok (a, staged), w₁)) (hkeep : keep a = true)
      (hfault : w.storeFaults .commit ≠ []) :
      Ends t keep w (.error (.ofFailure StoreCall.commit.failure)) w'
  | kept {a staged w₀ w₁ w'} (hbegun : w.Calls w₀)
      (hwork : t w.store w₀ = (.ok (a, staged), w₁)) (hkeep : keep a = true)
      (hended : w₁.Calls w') : Ends t keep w (.ok a) { w' with store := staged }

/-- A transaction that announces no more than its result names ends in one of these ways. -/
theorem Announces.ends {names : α → Option NoticeId} {t : Transaction α} (ht : Announces names t)
    (haside : Respects World.Aside t) (hapart : Respects World.Apart t) (keep : α → Bool)
    (hkeep : ∀ a, keep a = false → names a = none) (w : World) :
    Ends t keep w (t.run keep w).1 (t.run keep w).2 := by
  have aside {w w' : World} {c : StoreCall} {b : Bool} (h : w.storeFails c = (b, w')) :
      w.Apart w' ∧ w'.store = w.store ∧ w'.bus = w.bus :=
    ⟨World.apart_frame.of_storeFails h, (World.Aside.of_storeFails h).store,
      World.calm_habit.toFrame.of_storeFails h⟩
  unfold run
  rcases hbegin : w.storeFails .begin with ⟨_ | _, w₀⟩
  · have hbegun := World.Calls.of_storeFails hbegin
    obtain ⟨hapart₀, hstore₀, hbus₀⟩ := aside hbegin
    dsimp only
    rw [hstore₀]
    have hann := ht w.store w₀
    have hw := haside w.store w₀
    have hw' := World.apart_frame.trans hapart₀ (hapart w.store w₀)
    rcases hwork : t w.store w₀ with ⟨e | ⟨a, staged⟩, w₁⟩
    · rw [hwork] at hann hw hw'
      obtain ⟨hrollback, hstore, hbus⟩ :=
        aside (show w₁.storeFails .rollback = (_, _) from rfl)
      exact .failed (.of_announced (World.apart_frame.trans hw' hrollback)
        ((hstore.trans hw.store).trans hstore₀) ((hann.bus_eq hbus).of_eq hbus₀))
    · rw [hwork] at hann hw hw'
      dsimp only
      cases hkept : keep a with
      | false =>
        simp only [Bool.false_eq_true, if_false]
        have hnone : w₀.Announced none w₁ := by
          have h : w₀.Announced (names a) w₁ := hann
          rwa [hkeep a hkept] at h
        rcases hend : w₁.storeFails .rollback with ⟨_ | _, w₂⟩
        all_goals
          obtain ⟨hrollback, hstore, hbus⟩ := aside hend
          have htrace : w.Traceless w₂ := .of_announced (World.apart_frame.trans hw' hrollback)
            ((hstore.trans hw.store).trans hstore₀) ((hnone.bus_eq hbus).of_eq hbus₀)
        · exact .idle hbegun hwork hkept htrace
        · exact .failed htrace
      | true =>
        simp only [if_true]
        rcases hend : w₁.storeFails .commit with ⟨_ | _, w₂⟩
        · exact .kept hbegun hwork hkept (World.Calls.of_storeFails hend)
        · have hless := Nat.lt_of_lt_of_le (World.storeFails_eq_true hend)
            ((World.Aside.of_storeFails hbegin).trans hw |>.faults .commit)
          refine .lapsed hbegun hwork hkept fun hnil => ?_
          rw [hnil] at hless
          cases hless
  · obtain ⟨hw, hstore, hbus⟩ := aside hbegin
    exact .failed (.of_announced hw hstore (Or.inl hbus))

/-- A renewal announces nothing. -/
theorem Announces.renew (id : NoticeId) (threshold : Nat) :
    Announces (fun _ : Option Notice => none) (Transaction.renew id threshold) := by
  intro s w
  have hbus := Respects.renew World.calm_habit.toFrame id threshold s w
  split <;> rename_i hwork <;> rw [hwork] at hbus <;> exact Or.inl hbus

/-- An announcement that was made was not refused. -/
theorem not_refuses_of_announce {id : NoticeId} {cause : Option String} {s s' : Store}
    {w w' : World} {r : Unit} (h : announce id cause s w = (.ok (r, s'), w')) :
    w.bus.refuses = false := by
  rcases announce_cases id cause s w with ⟨-, e, w₁, hann, -⟩ | ⟨hrefuses, -⟩
  · rw [hann] at h
    cases h
  · exact hrefuses

/-- A claim that finds nothing to do found a row that does not wait. -/
theorem claim_eq_none {id : NoticeId} {s s' : Store} {w w' : World}
    (h : claim id s w = (.ok (none, s'), w')) :
    ∃ row, s.rows.find? id = some row ∧ row.status ≠ .pending := by
  unfold claim at h
  obtain ⟨row, s₁, w₁, hlock, k₁⟩ := bind_eq_ok h
  obtain ⟨hrow, rfl, -⟩ := lock_eq_ok hlock
  by_cases hpending : row.status ≠ .pending
  · exact ⟨row, hrow, hpending⟩
  · rw [if_neg hpending] at k₁
    obtain ⟨now, s₂, w₂, -, k₂⟩ := bind_eq_ok k₁
    cases hclaim : row.claim now with
    | error e =>
      rw [hclaim] at k₂
      cases k₂
    | ok n =>
      rw [hclaim] at k₂
      obtain ⟨m, s₃, w₃, -, k₃⟩ := bind_eq_ok k₂
      obtain ⟨_, s₄, w₄, -, k₄⟩ := bind_eq_ok k₃
      cases k₄

/-- A renewal that finds nothing to do found a row that is not overdue, or not claimed. -/
theorem renew_eq_none {id : NoticeId} {threshold : Nat} {s s' : Store} {w w' : World}
    (h : renew id threshold s w = (.ok (none, s'), w')) :
    ∃ row, s.rows.find? id = some row ∧ row.isStale w.next threshold = false := by
  unfold renew at h
  obtain ⟨row, s₁, w₁, hlock, k₁⟩ := bind_eq_ok h
  obtain ⟨hrow, rfl, hlocked⟩ := lock_eq_ok hlock
  obtain ⟨now, s₂, w₂, hnow, k₂⟩ := bind_eq_ok k₁
  obtain ⟨rfl, rfl, rfl⟩ := now_eq_ok hnow
  cases hstale : row.isStale w₁.next threshold with
  | false => exact ⟨row, hrow, by rwa [World.next, ← hlocked.clock]⟩
  | true =>
    have hgo : (!row.isStale (w₁.clock.answer w₁.clock.used) threshold) = false := by
      show (!row.isStale w₁.next threshold) = false
      rw [hstale]
      rfl
    rw [hgo] at k₂
    obtain ⟨later, s₃, w₃, -, k₃⟩ := bind_eq_ok k₂
    cases htouch : row.touch later with
    | error e =>
      rw [htouch] at k₃
      cases k₃
    | ok n =>
      rw [htouch] at k₃
      obtain ⟨m, s₄, w₄, -, k₄⟩ := bind_eq_ok k₃
      cases k₄

end Transaction

/-! ## Workers -/

namespace Worker

open World

variable {w : World} {can why : Prop} {ending : Except Notice.Error Outcome × World}

/-- How a call of a worker begins, and from there how it ends. It does nothing only if `why`, and it
gets to work only if it `can`. -/
inductive Begins (w : World) (can why : Prop) : Except Notice.Error Outcome × World → Prop where
  | refused {e w'} (hw : w.Traceless w') : Begins w can why (.error e, w')
  | idle {w'} (hwhy : why) (hw : w.Traceless w') : Begins w can why (.ok .alreadyHandled, w')
  | lapsed {w'} (hcan : can) : Begins w can why (.error (.ofFailure StoreCall.commit.failure), w')
  | taken {n w₁} (hcan : can) (h : Taken w n w₁) :
      Begins w can why ((Worker.findingBooking n).run w₁)

theorem Begins.of_ends {t : Transaction (Option Notice)} {k : Worker}
    (hends : t.Ends Option.isSome w (t.run Option.isSome w).1 (t.run Option.isSome w).2)
    (hgoing : k.result? = none)
    (hstep : k.step w =
      (afterTaking (t.run Option.isSome w).1, (t.run Option.isSome w).2))
    (hnone : ∀ {s w₀ w₁}, w.Calls w₀ → t w.store w₀ = (.ok (none, s), w₁) → why)
    (hsome : ∀ {n s w₀ w₁}, w.Calls w₀ → t w.store w₀ = (.ok (some n, s), w₁) → can) :
    Begins w can why (k.run w) := by
  rw [run_of_step hgoing hstep]
  generalize (t.run Option.isSome w).1 = r at hends hstep ⊢
  generalize (t.run Option.isSome w).2 = w' at hends hstep ⊢
  cases hends with
  | failed hw =>
    rw [afterTaking, run_failing]
    exact .refused hw
  | @idle taken _ _ _ _ hbegun hwork hkeep hw =>
    cases taken with
    | none =>
      rw [afterTaking, run_of_result rfl]
      exact .idle (hnone hbegun hwork) hw
    | some n => cases hkeep
  | @lapsed taken _ _ _ _ hbegun hwork hkeep hfault =>
    cases taken with
    | none => cases hkeep
    | some n =>
      rw [afterTaking, run_failing]
      exact .lapsed (hsome hbegun hwork)
  | @kept taken _ _ _ _ hbegun hwork hkeep _ =>
    cases taken with
    | none => cases hkeep
    | some n => exact .taken (hsome hbegun hwork) (taken_of_step hstep).2

/-- A claim that does its work announces it, so it cannot get to work if it may not. -/
theorem begins_process (w : World) (id : NoticeId) :
    Begins w (w.bus.refuses = false)
      (∃ row, w.store.rows.find? id = some row ∧ row.status ≠ .pending) (w.process id) := by
  have hends := (Transaction.Announces.claim id).ends (Transaction.aside_claim id)
    (.claim apart_frame apart_publishes id) Option.isSome
    (fun taken h => by cases taken <;> trivial) w
  have heard {n : Notice} {s : Store} {w₀ w₁ : World} (hbegun : w.Calls w₀)
      (hwork : Transaction.claim id w.store w₀ = (.ok (some n, s), w₁)) :
      w.bus.refuses = false := by
    obtain ⟨-, -, -, -, -, -, w₂, hcalls, hann⟩ := Transaction.claim_eq_ok hwork
    have hheard := Transaction.not_refuses_of_announce hann
    rwa [(hbegun.now.trans hcalls).bus] at hheard
  have handled {s : Store} {w₀ w₁ : World} (_ : w.Calls w₀)
      (hwork : Transaction.claim id w.store w₀ = (.ok (none, s), w₁)) :=
    Transaction.claim_eq_none hwork
  have hstep : (Worker.claiming id).step w =
      (afterTaking ((Transaction.claim id).run Option.isSome w).1,
        ((Transaction.claim id).run Option.isSome w).2) := rfl
  exact Begins.of_ends hends rfl hstep handled heard

theorem begins_resume (w : World) (id : NoticeId) (threshold : Nat) :
    Begins w True (∃ row, w.store.rows.find? id = some row ∧ row.isStale w.next threshold = false)
      (w.resume id threshold) := by
  have hends := (Transaction.Announces.renew id threshold).ends
    (Transaction.aside_renew id threshold) (.renew apart_frame id threshold) Option.isSome
    (fun _ _ => rfl) w
  have hstep : (Worker.renewing id threshold).step w =
      (afterTaking ((Transaction.renew id threshold).run Option.isSome w).1,
        ((Transaction.renew id threshold).run Option.isSome w).2) := rfl
  have fresh {s : Store} {w₀ w₁ : World} (hbegun : w.Calls w₀)
      (hwork : Transaction.renew id threshold w.store w₀ = (.ok (none, s), w₁)) :
      ∃ row, w.store.rows.find? id = some row ∧ row.isStale w.next threshold = false := by
    obtain ⟨row, hrow, hstale⟩ := Transaction.renew_eq_none hwork
    rw [next, hbegun.clock] at hstale
    exact ⟨row, hrow, hstale⟩
  exact Begins.of_ends hends rfl hstep fresh fun _ _ => trivial

/-! ## What a worker answers that has its row -/

/-- What hinders a worker is not the lack of its row. -/
theorem code_of_hinders {n : Notice} {f : Failure}
    (hcandid : w.Candid)
    (h : w.Hinders n f) : f.code ≠ .noticeNotFound := by
  have lookUp (hcode : f.code = .recordsUnavailable ∨ f.code = .recordNotFound) :
      f.code ≠ .noticeNotFound := by
    rcases hcode with hcode | hcode <;> rw [hcode] <;> decide
  cases h with
  | booking h => exact lookUp (Registry.code_of_booking h)
  | user _ h => exact lookUp (Registry.code_of_user h)
  | showtime _ _ h => exact lookUp (Registry.code_of_showtime h)
  | seat _ _ _ h => exact lookUp (Registry.code_of_seat h)
  | rendering _ h =>
    rw [hcandid _ _ _ h]
    decide
  | @put _ _ _ _ e _ _ _ => cases e <;> exact Failure.Code.noConfusion

theorem code_of_send {o : Outbox} {mail : Mail.Message} {f : Failure}
    (h : (o.send mail).1 = .error f) : f.code = .deliveryError := by
  unfold Outbox.send at h
  dsimp only at h
  split at h
  · cases h
    rfl
  · cases h

/-- An outcome that is decided is completed, or fails for another reason than the lack of a row. -/
theorem Concludes.answer {m : Notice} {mail? : Option Mail.Message}
    (h : Concludes w m mail? ending) : ending.1 = .ok (.completed m) ∨
      ∃ f : Failure, ending.1 = .error (.ofFailure f) ∧ f.code ≠ .noticeNotFound := by
  cases hcall : (w.storeFails .resolve).1 with
  | true => exact Or.inr ⟨_, (h.lost hcall).1, by decide⟩
  | false =>
    cases mail? with
    | none => exact Or.inl (h.told hcall fun mail hmail => nomatch hmail).1
    | some mail =>
      by_cases hreads : w.shelf.Reads mail
      · cases hsend : (w.outbox.send mail).1 with
        | ok =>
          refine Or.inl (h.told hcall fun mail' hmail => ?_).1
          cases hmail
          exact ⟨hreads, hsend⟩
        | error f =>
          refine Or.inr ⟨f, (h.unsent hcall mail f rfl hreads hsend).1, ?_⟩
          rw [code_of_send hsend]
          decide
      · obtain ⟨hattached, hfault⟩ := Classical.not_imp.mp hreads
        obtain ⟨reason, hreason⟩ := Option.ne_none_iff_exists'.mp hfault
        refine Or.inr ⟨_, (h.unread hcall mail reason rfl hattached hreason).1, ?_⟩
        exact Failure.Code.noConfusion

/-- A worker that has its row completes it, or fails for another reason than the lack of a row. -/
theorem Taken.answer {n : Notice} {w₁ : World} (h : Taken w n w₁)
    (hcandid : w.Candid) :
    (∃ m, ((Worker.findingBooking n).run w₁).1 = .ok (.completed m)) ∨
      ∃ f : Failure, ((Worker.findingBooking n).run w₁).1 = .error (.ofFailure f) ∧
        f.code ≠ .noticeNotFound := by
  rcases h.ends with ⟨f, hf, hrun⟩ | ⟨m, mail?, hends⟩
  · have hcandid' : w₁.Candid := by
      unfold World.Candid
      rw [h.apart.renderers]
      exact hcandid
    exact Or.inr ⟨f, hrun, code_of_hinders hcandid' hf⟩
  · exact hends.answer.imp_left fun hok => ⟨m, hok⟩

theorem ofFailure_ne_notFound {f : Failure} (h : f.code ≠ .noticeNotFound) (id : NoticeId) :
    Notice.Error.ofFailure f ≠ .notFound id := by
  unfold Notice.Error.ofFailure
  cases hcode : f.code with
  | noticeNotFound => exact absurd hcode h
  | noticeExists =>
    dsimp only
    split <;> exact Notice.Error.noConfusion
  | _ => exact Notice.Error.noConfusion

namespace Begins

theorem traceless_of_notFound (h : Begins w can why ending) (hcandid : w.Candid) {id : NoticeId}
    (hnotFound : ending.1 = .error (.notFound id)) : w.Traceless ending.2 := by
  have ne {f : Failure} (hcode : f.code ≠ .noticeNotFound)
      (hf : (.error (.ofFailure f) : Except Notice.Error Outcome) = .error (.notFound id)) :
      False :=
    ofFailure_ne_notFound hcode id (Except.error.inj hf)
  cases h with
  | refused hw => exact hw
  | idle hwhy hw => exact hw
  | lapsed => exact (ne (by decide) hnotFound).elim
  | taken _ htaken =>
    rcases htaken.answer hcandid with ⟨m, hok⟩ | ⟨f, herror, hcode⟩
    · rw [hok] at hnotFound
      cases hnotFound
    · rw [herror] at hnotFound
      exact (ne hcode hnotFound).elim

/-- A worker that has its row never finds that there is nothing to do, with nobody else at work. -/
theorem traceless_of_alreadyHandled (h : Begins w can why ending) (hcandid : w.Candid)
    (hhandled : ending.1 = .ok .alreadyHandled) : w.Traceless ending.2 ∧ why := by
  cases h with
  | refused => cases hhandled
  | idle hwhy hw => exact ⟨hw, hwhy⟩
  | lapsed => cases hhandled
  | taken _ htaken =>
    rcases htaken.answer hcandid with ⟨m, hok⟩ | ⟨f, herror, -⟩
    · rw [hok] at hhandled
      cases hhandled
    · rw [herror] at hhandled
      cases hhandled

theorem traceless_of_not (h : Begins w can why ending) (hcannot : ¬ can) :
    w.Traceless ending.2 := by
  cases h with
  | refused hw => exact hw
  | idle _ hw => exact hw
  | lapsed hcan => exact absurd hcan hcannot
  | taken hcan => exact absurd hcan hcannot

end Begins

end Worker

/-! ## Creations -/

namespace World

/-- A creation that fails leaves no trace, unless its commit failed when all was done. -/
theorem traceless_create {w : World} {booking : BookingId} {cause : Option String}
    {e : Notice.Error} (herror : (w.create booking cause).1 = .error e) :
    w.Traceless (w.create booking cause).2 ∨
      (e = .ofFailure StoreCall.commit.failure ∧ w.bus.refuses = false ∧
        w.storeFaults .commit ≠ []) := by
  have hends := (Transaction.Announces.create booking cause).ends
    (Transaction.aside_create booking cause) (.create apart_frame apart_publishes booking cause)
    (fun _ => true) (fun _ h => nomatch h) w
  unfold create at herror ⊢
  generalize ((Transaction.create booking cause).run (fun _ => true) w).1 = r at hends herror
  generalize ((Transaction.create booking cause).run (fun _ => true) w).2 = w' at hends ⊢
  cases hends with
  | failed hw => exact Or.inl hw
  | idle _ _ hkeep => cases hkeep
  | lapsed hbegun hwork _ hfault =>
    cases herror
    obtain ⟨-, -, w₂, hcalls, hann⟩ := Transaction.create_eq_ok hwork
    have hheard := Transaction.not_refuses_of_announce hann
    rw [(hbegun.now.trans hcalls).bus] at hheard
    exact Or.inr ⟨rfl, hheard, hfault⟩
  | kept => cases herror

/-- What is refused leaves no trace: a creation that fails, because the booking has its notice, the
announcement is refused, or for any other reason but a commit that is made to fail; and a call for a
row that is not there, whose claim cannot be announced, or that has nothing to do because the row
does not wait, or is not claimed for long enough. -/
theorem refusals_leave_no_trace {w : World} (hcandid : w.Candid) :
    (∀ booking cause e, (w.create booking cause).1 = .error e →
      (e ≠ .ofFailure StoreCall.commit.failure ∨ w.bus.refuses = true ∨
        w.storeFaults .commit = []) →
      w.Traceless (w.create booking cause).2) ∧
    (∀ id other, (w.process id).1 = .error (.notFound other) → w.Traceless (w.process id).2) ∧
    (∀ id, w.bus.refuses = true → w.Traceless (w.process id).2) ∧
    (∀ id, (w.process id).1 = .ok .alreadyHandled → w.Traceless (w.process id).2 ∧
      ∃ row, w.store.rows.find? id = some row ∧ row.status ≠ .pending) ∧
    (∀ id threshold other, (w.resume id threshold).1 = .error (.notFound other) →
      w.Traceless (w.resume id threshold).2) ∧
    (∀ id threshold, (w.resume id threshold).1 = .ok .alreadyHandled →
      w.Traceless (w.resume id threshold).2 ∧
      ∃ row, w.store.rows.find? id = some row ∧ row.isStale w.next threshold = false) := by
  refine ⟨?_, ?_, ?_, ?_, ?_, ?_⟩
  · intro booking cause e herror hreason
    rcases traceless_create herror with htrace | ⟨rfl, hheard, hfault⟩
    · exact htrace
    · rcases hreason with hother | hrefuses | hcommit
      · exact absurd rfl hother
      · rw [hheard] at hrefuses
        cases hrefuses
      · exact absurd hcommit hfault
  · intro id other hnotFound
    exact (Worker.begins_process w id).traceless_of_notFound hcandid hnotFound
  · intro id hrefuses
    apply (Worker.begins_process w id).traceless_of_not
    rw [hrefuses]
    decide
  · intro id hhandled
    exact (Worker.begins_process w id).traceless_of_alreadyHandled hcandid hhandled
  · intro id threshold other hnotFound
    exact (Worker.begins_resume w id threshold).traceless_of_notFound hcandid hnotFound
  · intro id threshold hhandled
    exact (Worker.begins_resume w id threshold).traceless_of_alreadyHandled hcandid hhandled

/-- The world of the confirmed booking, but no event is accepted. -/
def deaf : World := { oneToConfirm with bus := { refusals := .constant true } }

theorem candid_oneToConfirm : oneToConfirm.Candid := fun _ _ _ h => nomatch h

/-- A second notice about the booking, a call for a row that is not there, the renewal of a row that
nobody has claimed, and a claim that cannot be announced. -/
theorem four_refusals_leave_no_trace :
    oneToConfirm.Candid ∧ deaf.Candid ∧
    (oneToConfirm.create ⟨7⟩ none).1 = .error (.alreadyExists ⟨7⟩) ∧
    oneToConfirm.Traceless (oneToConfirm.create ⟨7⟩ none).2 ∧
    (oneToConfirm.process ⟨2⟩).1 = .error (.notFound ⟨2⟩) ∧
    oneToConfirm.Traceless (oneToConfirm.process ⟨2⟩).2 ∧
    (oneToConfirm.resume ⟨1⟩ 1).1 = .ok .alreadyHandled ∧
    oneToConfirm.Traceless (oneToConfirm.resume ⟨1⟩ 1).2 ∧
    (deaf.process ⟨1⟩).1 = .error
      (.unavailable "Publish to notification_service_notification_created rejected") ∧
    deaf.Traceless (deaf.process ⟨1⟩).2 := by
  have hdeaf : deaf.Candid := candid_oneToConfirm
  obtain ⟨hcreate, hmissing, -, -, -, hidle⟩ := refusals_leave_no_trace candid_oneToConfirm
  obtain ⟨-, -, hrefused, -, -, -⟩ := refusals_leave_no_trace hdeaf
  have hexists : (oneToConfirm.create ⟨7⟩ none).1 = .error (.alreadyExists ⟨7⟩) := rfl
  have hmissed : (oneToConfirm.process ⟨2⟩).1 = .error (.notFound ⟨2⟩) :=
    congrArg Prod.fst (Worker.run_of_ended rfl rfl)
  have hhandled : (oneToConfirm.resume ⟨1⟩ 1).1 = .ok .alreadyHandled :=
    congrArg Prod.fst (Worker.run_of_ended rfl rfl)
  have hunheard : (deaf.process ⟨1⟩).1 = .error
      (.unavailable "Publish to notification_service_notification_created rejected") :=
    congrArg Prod.fst (Worker.run_of_ended rfl rfl)
  exact ⟨candid_oneToConfirm, hdeaf, hexists, hcreate _ _ _ hexists (Or.inl nofun), hmissed,
    hmissing _ _ hmissed, hhandled, (hidle _ _ hhandled).1, hunheard, hrefused _ rfl⟩

end World

end BookingNotices
