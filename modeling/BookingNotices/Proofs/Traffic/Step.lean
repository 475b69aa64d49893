import BookingNotices.Proofs.Traffic.Basic

/-!
# What happens in traffic

* `Worker.Idle`, `Call.Idle` : a worker that has no claim and owes no mail, a call without a worker
  that does;
* `Call.Acts`          : the kinds of step that a call takes (`acts_step`);
* `Traffic.Sane`       : rows are filed under their own identity, and every worker fits the store;
* `Traffic.Happens`    : what can happen in sane traffic (`happens_step`);
* `Sane.step`, `Happens.evolves` : traffic stays sane and its rows only move on, if new rows find
  room.
-/

namespace BookingNotices

/-! ## Idle workers -/

namespace Worker

/-- A worker that has no claim and owes no mail. -/
def Idle (k : Worker) : Prop := k.lease? = none ∧ k.owed? = none

theorem Idle.fits {k : Worker} (h : k.Idle) (s : Store) : k.Fits s := by
  cases k with
  | claiming => trivial
  | renewing => trivial
  | ended => trivial
  | composing => cases h.2
  | sending => cases h.2
  | _ => cases h.1

theorem Idle.ended {k : Worker} (h : k.result? ≠ none) : k.Idle := by
  cases k with
  | ended => exact ⟨rfl, rfl⟩
  | _ => exact absurd rfl h

theorem owed?_of_lease? {k : Worker} {lease : NoticeId × Timestamp} (h : k.lease? = some lease) :
    k.owed? = none := by
  cases k with
  | composing => cases h
  | sending => cases h
  | _ => rfl

theorem deeds_ended {k : Worker} (h : k.result? ≠ none) (w : World) :
    k.deeds (k.step w).1 = [] := by
  cases k with
  | ended => rfl
  | _ => exact absurd rfl h

end Worker

/-! ## The kinds of step of a call -/

namespace Call

/-- A call without a worker that has a claim or owes mail. -/
def Idle (c : Call) : Prop := ∀ k, c.worker? = some k → k.Idle

theorem Idle.of_none {c : Call} (h : c.worker? = none) : c.Idle := by
  intro k hk
  rw [h] at hk
  cases hk

theorem Idle.of_some {c : Call} {k : Worker} (h : c.worker? = some k) (hk : k.Idle) : c.Idle := by
  intro k' hk'
  rw [h] at hk'
  cases hk'
  exact hk

theorem deeds_of_creation {c : Call} {booking : BookingId} {cause : Option String} {w : World}
    (h : c.creation? = some (booking, cause)) : c.deeds w = [creationDeed w booking cause] := by
  unfold deeds
  rw [h]

theorem deeds_of_none {c : Call} {w : World} (hc : c.creation? = none) (hk : c.worker? = none) :
    c.deeds w = [] := by
  unfold deeds
  rw [hc, hk]

/-- The kinds of step that a call takes, with what others can see of each. -/
inductive Acts (c : Call) (w : World) : Call → World → List Deed → Prop where
  | created {booking cause c'} (hc : c.creation? = some (booking, cause)) (hidle : c.Idle)
      (hc' : c'.Idle) : Acts c w c' (w.create booking cause).2 [creationDeed w booking cause]
  | worked {k c'} (hk : c.worker? = some k) (hgoing : k.result? = none)
      (hk' : c'.worker? = some (k.step w).1) :
      Acts c w c' (k.step w).2 (k.deeds (k.step w).1)
  /-- nothing is published or put on the shelf, either -/
  | aside {c' w'} (hidle : c.Idle) (hc' : c'.Idle) (hw : w.Aside w')
      (hpublished : w'.bus.published = w.bus.published) (hshelf : w'.shelf = w.shelf) :
      Acts c w c' w' []

end Call

theorem World.steady_create (w : World) (booking : BookingId) (cause : Option String) :
    w.Steady (w.create booking cause).2 := by
  rcases w.create_cases booking cause with ⟨e, he, hw⟩ | ⟨n, w', -, -, -, hw, haside⟩
  · exact hw.toSteady
  · rw [hw]
    exact ⟨haside.clock, haside.faults⟩

theorem World.Aside.bus (w : World) (b : Bus Consumer) : w.Aside { w with bus := b } :=
  ⟨⟨rfl, fun _ => Nat.le_refl _⟩, rfl, rfl⟩

/-- A call on the store that fails, or does not, leaves the bus and the shelf alone. -/
theorem World.rest_of_storeFails {w w' : World} {c : StoreCall} {fails : Bool}
    (h : w.storeFails c = (fails, w')) : w'.bus = w.bus ∧ w'.shelf = w.shelf := by
  unfold World.storeFails at h
  split at h <;> cases h <;> exact ⟨rfl, rfl⟩

theorem Bus.published_settle {η : Type} (d : Bus.Delivery η) (outcome : Except Failure Unit)
    (b : Bus η) : (Bus.settle d outcome b).2.published = b.published := by
  unfold Bus.settle
  split
  · rfl
  · split <;> rfl

namespace Sweep

theorem aside_list (pass : Pass) (w : World) :
    w.Aside (list pass w).2 ∧ (list pass w).2.bus = w.bus ∧ (list pass w).2.shelf = w.shelf := by
  unfold list
  split <;> rename_i hfails <;>
    exact ⟨World.Aside.of_storeFails hfails, World.rest_of_storeFails hfails⟩

theorem acts_step (s : Sweep) (w : World) :
    (Call.sweep s).Acts w (.sweep (s.step w).1) (s.step w).2 ((Call.sweep s).deeds w) := by
  rcases s with ⟨began, threshold, report, phase⟩
  cases phase with
  | listing pass =>
    have hw := aside_list pass w
    dsimp only [step]
    split <;> rename_i hlist <;> rw [hlist] at hw <;>
      exact .aside (.of_none rfl) (.of_none rfl) hw.1 (congrArg Bus.published hw.2.1) hw.2.2
  | choosing pass rows =>
    cases rows with
    | nil => cases pass <;> exact .aside (.of_none rfl) (.of_none rfl) (World.Aside.refl w) rfl rfl
    | cons n rows =>
      dsimp only [step]
      split
      · refine .aside (.of_none rfl) (.of_some rfl ?_) (World.Aside.refl w) rfl rfl
        cases pass <;> exact ⟨rfl, rfl⟩
      · cases pass <;> exact .aside (.of_none rfl) (.of_none rfl) (World.Aside.refl w) rfl rfl
  | working pass k rows =>
    dsimp only [step]
    split
    · rename_i result hresult
      have hended : k.result? ≠ none := by rw [hresult]; exact Option.some_ne_none _
      have hdeeds : (Call.sweep ⟨began, threshold, report, .working pass k rows⟩).deeds w = [] :=
        Worker.deeds_ended hended w
      rw [hdeeds]
      exact .aside (.of_some rfl (.ended hended)) (.of_none rfl) (World.Aside.refl w) rfl rfl
    · rename_i hgoing
      exact .worked rfl hgoing rfl
  | ended => exact .aside (.of_none rfl) (.of_none rfl) (World.Aside.refl w) rfl rfl

end Sweep

namespace Dispatch

theorem acts_step (d : Dispatch) (w : World) :
    (Call.dispatch d).Acts w (.dispatch (d.step w).1) (d.step w).2
      ((Call.dispatch d).deeds w) := by
  rcases d with ⟨report, phase⟩
  cases phase with
  | taking =>
    dsimp only [step]
    split
    · exact .aside (.of_none rfl) (.of_none rfl) (World.Aside.refl w) rfl rfl
    · exact .aside (.of_none rfl) (.of_none rfl) (World.Aside.bus w _) rfl rfl
  | handing e =>
    rcases e with ⟨event, handler, attempts⟩
    cases handler with
    | noticeCreated =>
      dsimp only [step]
      split
      · exact .aside (.of_none rfl) (.of_none rfl) (World.Aside.refl w) rfl rfl
      · exact .aside (.of_none rfl) (.of_some rfl ⟨rfl, rfl⟩) (World.Aside.refl w) rfl rfl
    | paymentCompleted =>
      have hcreation :
          (Call.dispatch ⟨report, .handing ⟨event, .paymentCompleted, attempts⟩⟩).creation? =
            (Event.PaymentCompleted.ofEvent (event.delivered attempts)).toOption.map fun payment =>
              (payment.booking, some event.id) := rfl
      dsimp only [step]
      cases hread : Event.PaymentCompleted.ofEvent (event.delivered attempts) with
      | error f =>
        rw [hread] at hcreation
        rw [Call.deeds_of_none hcreation rfl]
        exact .aside (.of_none rfl) (.of_none rfl) (World.Aside.refl w) rfl rfl
      | ok payment =>
        rw [hread] at hcreation
        rw [Call.deeds_of_creation hcreation]
        exact .created hcreation (.of_none rfl) (.of_none rfl)
  | working e k =>
    dsimp only [step]
    split
    · rename_i result hresult
      have hended : k.result? ≠ none := by rw [hresult]; exact Option.some_ne_none _
      have hdeeds : (Call.dispatch ⟨report, .working e k⟩).deeds w = [] :=
        Worker.deeds_ended hended w
      rw [hdeeds]
      exact .aside (.of_some rfl (.ended hended)) (.of_none rfl) (World.Aside.refl w) rfl rfl
    · rename_i hgoing
      exact .worked rfl hgoing rfl
  | settling e outcome =>
    exact .aside (.of_none rfl) (.of_none rfl) (World.Aside.bus w _)
      (Bus.published_settle e outcome w.bus) rfl
  | ended => exact .aside (.of_none rfl) (.of_none rfl) (World.Aside.refl w) rfl rfl

end Dispatch

/-- Every step of a call is of one of the kinds. -/
theorem Call.acts_step (c : Call) (w : World) : c.Acts w (c.step w).1 (c.step w).2 (c.deeds w) := by
  cases c with
  | creation booking cause => exact .created rfl (.of_none rfl) (.of_none rfl)
  | created => exact .aside (.of_none rfl) (.of_none rfl) (World.Aside.refl w) rfl rfl
  | worker k =>
    by_cases hgoing : k.result? = none
    · exact .worked rfl hgoing rfl
    · have hdeeds : (Call.worker k).deeds w = [] := Worker.deeds_ended hgoing w
      rw [hdeeds]
      cases k with
      | ended =>
        exact .aside (.of_some rfl ⟨rfl, rfl⟩) (.of_some rfl ⟨rfl, rfl⟩) (World.Aside.refl w) rfl
          rfl
      | _ => exact absurd rfl hgoing
  | sweep s => exact s.acts_step w
  | dispatch d => exact d.acts_step w

theorem Call.steady_step (c : Call) {w : World} (hkeyed : w.store.Keyed)
    (hfits : ∀ k, c.worker? = some k → k.Fits w.store) : w.Steady (c.step w).2 := by
  have hacts := c.acts_step w
  generalize (c.step w).1 = c', (c.step w).2 = w', c.deeds w = ds at hacts ⊢
  cases hacts with
  | created => exact World.steady_create w _ _
  | aside _ _ hw => exact hw.toSteady
  | worked hk hgoing => exact (Worker.goes_step hkeyed (hfits _ hk) hgoing).acts.steady

/-! ## What happens -/

namespace Traffic

/-- The worker that works for a call. -/
def workerOf? (t : Traffic) (call : Nat) : Option Worker := t.calls[call]?.bind Call.worker?

/-- Rows are filed under their own identity, and every worker fits the store. -/
structure Sane (t : Traffic) : Prop where
  keyed : t.world.store.Keyed
  fits : ∀ i k, t.workerOf? i = some k → k.Fits t.world.store

/-- Nobody sees anything: no worker that has a claim or owes mail moves, comes or goes. -/
structure Rests (t t' : Traffic) : Prop where
  store : t'.world.store = t.world.store
  sent : t'.world.outbox.sent = t.world.outbox.sent
  log : t'.log = t.log
  worker : ∀ i k, t'.workerOf? i = some k → k.Idle ∨ t.workerOf? i = some k
  count : ∀ p : Call → Bool, (∀ c : Call, c.Idle → p c = false) →
    t'.calls.countP p = t.calls.countP p

/-- What can happen in sane traffic. -/
inductive Happens (t : Traffic) : Traffic → Prop where
  | rested {t'} (h : t.Rests t') : Happens t t'
  | created {i c c' booking cause} (hi : t.calls[i]? = some c)
      (hc : c.creation? = some (booking, cause)) (hidle : c.Idle) (hc' : c'.Idle) :
      Happens t ⟨(t.world.create booking cause).2, t.calls.set i c',
        t.log ++ entries i [Call.creationDeed t.world booking cause]⟩
  | worked {i c c' k k' w' ds} (hi : t.calls[i]? = some c) (hk : c.worker? = some k)
      (hk' : c'.worker? = some k') (hacts : k.Acts t.world k' w' ds)
      (hfits : k'.Fits w'.store) (hstep : k.step t.world = (k', w')) :
      Happens t ⟨w', t.calls.set i c', t.log ++ entries i ds⟩

theorem workerOf?_of_call {t : Traffic} {i : Nat} {c : Call} (h : t.calls[i]? = some c) :
    t.workerOf? i = c.worker? := by
  unfold workerOf?
  rw [h]
  rfl

/-- The workers after a step of one call. -/
theorem workerOf?_set {t : Traffic} {i : Nat} {c : Call} (hi : t.calls[i]? = some c) (c' : Call)
    (w : World) (log : List Entry) (j : Nat) :
    (Traffic.mk w (t.calls.set i c') log).workerOf? j =
      if i = j then c'.worker? else t.workerOf? j := by
  unfold workerOf?
  have hlt : i < t.calls.length := (List.getElem?_eq_some_iff.mp hi).1
  dsimp only
  rw [List.getElem?_set, if_pos hlt]
  split <;> rfl

/-- Counting calls after a step of one of them. -/
theorem countP_set_call {calls : List Call} {i : Nat} {c : Call} (h : calls[i]? = some c)
    (c' : Call) (p : Call → Bool) :
    (calls.set i c').countP p + (p c).toNat = calls.countP p + (p c').toNat := by
  have one (d : Call) : (if p d = true then 1 else 0) = (p d).toNat := by cases p d <;> rfl
  induction calls generalizing i with
  | nil => cases h
  | cons a calls ih =>
    cases i with
    | zero =>
      cases h
      rw [List.set_cons_zero, List.countP_cons, List.countP_cons, one, one]
      omega
    | succ i =>
      have := ih h
      rw [List.set_cons_succ, List.countP_cons, List.countP_cons, one]
      omega

theorem tally_append (kind : Deed → Bool) (w : World) (calls : List Call) (log : List Entry)
    (i : Nat) (ds : List Deed) :
    tally kind ⟨w, calls, log ++ entries i ds⟩ =
      log.countP (fun e => kind e.deed) + ds.countP kind := by
  unfold tally entries
  rw [List.countP_append, List.countP_map]
  rfl

theorem Rests.tally {t t' : Traffic} (h : t.Rests t') (kind : Deed → Bool) :
    t'.tally kind = t.tally kind := by
  unfold Traffic.tally
  rw [h.log]

theorem Rests.refl (t : Traffic) : t.Rests t :=
  ⟨rfl, rfl, rfl, fun _ _ h => Or.inr h, fun _ _ => rfl⟩

/-- Somebody else works in the world. -/
theorem Rests.of_aside {t : Traffic} {w : World} (hstore : w.store = t.world.store)
    (hsent : w.outbox.sent = t.world.outbox.sent) : t.Rests { t with world := w } :=
  ⟨hstore, hsent, rfl, fun _ _ h => Or.inr h, fun _ _ => rfl⟩

/-- A call begins. -/
theorem Rests.of_start {t : Traffic} {w : World} {c : Call} (hc : c.Idle) (hw : t.world.Aside w) :
    t.Rests { t with world := w, calls := t.calls ++ [c] } := by
  refine ⟨hw.store, hw.sent, rfl, fun i k hk => ?_, fun p hp => ?_⟩
  · unfold workerOf? at hk ⊢
    dsimp only at hk
    rw [List.getElem?_append] at hk
    split at hk
    · exact Or.inr hk
    · cases hlast : [c][i - t.calls.length]? with
      | none => rw [hlast] at hk; cases hk
      | some d =>
        rw [hlast] at hk
        rw [List.getElem?_singleton] at hlast
        split at hlast
        · cases hlast
          exact Or.inl (hc k hk)
        · cases hlast
  · show (t.calls ++ [c]).countP p = _
    rw [List.countP_append, List.countP_singleton, hp c hc]
    rfl

/-- A call takes a step that nobody sees. -/
theorem Rests.of_set {t : Traffic} {w : World} {i : Nat} {c c' : Call}
    (hi : t.calls[i]? = some c) (hc : c.Idle) (hc' : c'.Idle) (hw : t.world.Aside w) :
    t.Rests ⟨w, t.calls.set i c', t.log⟩ := by
  refine ⟨hw.store, hw.sent, rfl, fun j k hk => ?_, fun p hp => ?_⟩
  · rw [workerOf?_set hi] at hk
    split at hk
    · exact Or.inl (hc' k hk)
    · exact Or.inr hk
  · have := countP_set_call hi c' p
    rw [hp c hc, hp c' hc'] at this
    exact this

theorem idle_start (r : Request) (w : World) : (r.start w).1.Idle := by
  cases r with
  | create => exact .of_none rfl
  | process => exact .of_some rfl ⟨rfl, rfl⟩
  | resume => exact .of_some rfl ⟨rfl, rfl⟩
  | sweep => exact .of_none rfl
  | dispatch => exact .of_none rfl

theorem aside_start (r : Request) (w : World) : w.Aside (r.start w).2 := by
  cases r with
  | sweep => exact World.Aside.now w
  | _ => exact World.Aside.refl w

/-- Nothing else happens in sane traffic. -/
theorem happens_step {t : Traffic} (h : t.Sane) (m : Move) : t.Happens (t.step m) := by
  cases m with
  | start r => exact .rested (.of_start (idle_start r t.world) (aside_start r t.world))
  | publish e => exact .rested (.of_aside rfl rfl)
  | change s => exact .rested (.of_aside rfl rfl)
  | advance i =>
    unfold step
    dsimp only
    cases hi : t.calls[i]? with
    | none => exact .rested (.refl t)
    | some c =>
      dsimp only
      have hacts := c.acts_step t.world
      generalize hc' : (c.step t.world).1 = c' at hacts ⊢
      generalize hw' : (c.step t.world).2 = w' at hacts ⊢
      generalize hds : c.deeds t.world = ds at hacts ⊢
      cases hacts with
      | created hcreation hidle hidle' => exact .created hi hcreation hidle hidle'
      | aside hidle hidle' hw =>
        have hlog : t.log ++ entries i [] = t.log := List.append_nil _
        rw [hlog]
        exact .rested (.of_set hi hidle hidle' hw)
      | worked hk hgoing hk' =>
        have hfits := h.fits i _ ((workerOf?_of_call hi).trans hk)
        have hgoes := Worker.goes_step h.keyed hfits hgoing
        exact .worked hi hk hk' hgoes.acts hgoes.fits rfl

/-! ## Traffic stays sane -/

/-- A row that is to be created finds room. -/
def Roomy (t : Traffic) : Prop :=
  ∀ c ∈ t.calls, c.creation? ≠ none → t.world.store.Roomy

theorem evolves_create {w : World} (hroom : w.store.Roomy) (booking : BookingId)
    (cause : Option String) : w.store.Evolves (w.create booking cause).2.store := by
  rcases w.create_cases booking cause with ⟨e, he, hw⟩ | ⟨n, w', -, -, -, hw, -⟩
  · exact Store.Evolves.of_eq hw.store
  · rw [hw]
    exact Store.Evolves.insert hroom _

theorem keyed_create {w : World} (hkeyed : w.store.Keyed) (booking : BookingId)
    (cause : Option String) : (w.create booking cause).2.store.Keyed := by
  rcases w.create_cases booking cause with ⟨e, he, hw⟩ | ⟨n, w', -, -, -, hw, -⟩
  · rw [hw.store]
    exact hkeyed
  · rw [hw]
    exact hkeyed.insert _

theorem Happens.evolves {t t' : Traffic} (h : t.Happens t') (hsane : t.Sane) (hroom : t.Roomy) :
    t.world.store.Evolves t'.world.store := by
  cases h with
  | rested hrest => exact Store.Evolves.of_eq hrest.store
  | created hi hc =>
    refine evolves_create (hroom _ (List.mem_of_getElem? hi) ?_) _ _
    rw [hc]
    exact Option.some_ne_none _
  | worked hi hk hk' hacts => exact hacts.evolves (hsane.fits _ _ ((workerOf?_of_call hi).trans hk))

theorem Sane.happens {t t' : Traffic} (hsane : t.Sane) (hroom : t.Roomy) (h : t.Happens t') :
    t'.Sane := by
  have hevolves := h.evolves hsane hroom
  cases h with
  | rested hrest =>
    refine ⟨by rw [hrest.store]; exact hsane.keyed, fun i k hk => ?_⟩
    rw [hrest.store]
    rcases hrest.worker i k hk with hidle | hk
    · exact hidle.fits _
    · exact hsane.fits i k hk
  | created hi hc hidle hidle' =>
    refine ⟨keyed_create hsane.keyed _ _, fun j k hk => ?_⟩
    rw [workerOf?_set hi] at hk
    split at hk
    · exact (hidle' k hk).fits _
    · exact (hsane.fits j k hk).mono hevolves
  | worked hi hk hk' hacts hfits =>
    have hfits₀ := hsane.fits _ _ ((workerOf?_of_call hi).trans hk)
    refine ⟨hacts.keyed hfits₀ hsane.keyed, fun j k hj => ?_⟩
    rw [workerOf?_set hi] at hj
    split at hj
    · rw [hk'] at hj
      cases hj
      exact hfits
    · exact (hsane.fits j k hj).mono hevolves

/-- Traffic in which nobody calls yet. -/
theorem Sane.of_keyed {w : World} (h : w.store.Keyed) : Sane { world := w } :=
  ⟨h, fun _ _ hk => nomatch hk⟩

/-- Only its surroundings change what no step of the service changes. -/
theorem steady_step {t : Traffic} (hsane : t.Sane) (m : Move) :
    (∃ s, m = .change s) ∨ t.world.Steady (t.step m).world := by
  cases m with
  | start r => exact Or.inr (aside_start r t.world).toSteady
  | publish e => exact Or.inr (World.Aside.publish t.world e).toSteady
  | change s => exact Or.inl ⟨s, rfl⟩
  | advance i =>
    refine Or.inr ?_
    unfold step
    dsimp only
    split
    · exact World.Steady.refl _
    · rename_i c hi
      exact c.steady_step hsane.keyed fun k hk => hsane.fits i k ((workerOf?_of_call hi).trans hk)

/-! ## Traffic without creations -/

end Traffic

/-- Calls that may create a row. -/
def Call.mayCreate : Call → Bool
  | .creation _ _ => true
  | .dispatch _ => true
  | _ => false

/-- A new call that may create a row. -/
def Move.mayCreate : Move → Bool
  | .start (.create _ _) => true
  | .start .dispatch => true
  | _ => false

theorem Call.mayCreate_step {c : Call} (h : c.mayCreate = false) (w : World) :
    (c.step w).1.mayCreate = false := by
  cases c with
  | creation => cases h
  | dispatch => cases h
  | _ => rfl

theorem Call.creation?_of_mayCreate {c : Call} (h : c.mayCreate = false) : c.creation? = none := by
  cases c with
  | creation => cases h
  | dispatch => cases h
  | _ => rfl

namespace Traffic

/-- What holds of every call at its start, and is kept by its steps, holds of all calls. -/
theorem forall_calls_step {P : Call → Prop} (hstep : ∀ c w, P c → P (c.step w).1) {t : Traffic}
    {m : Move} (hm : ∀ r, m = .start r → P (r.start t.world).1) (h : ∀ c ∈ t.calls, P c) :
    ∀ c ∈ (t.step m).calls, P c := by
  cases m with
  | start r =>
    intro c hc
    rcases List.mem_append.mp hc with hc | hc
    · exact h c hc
    · rw [List.mem_singleton.mp hc]
      exact hm r rfl
  | publish e => exact h
  | change s => exact h
  | advance i =>
    unfold step
    dsimp only
    split
    · exact h
    · rename_i c hi
      intro d hd
      rcases List.mem_or_eq_of_mem_set hd with hd | rfl
      · exact h d hd
      · exact hstep c t.world (h c (List.mem_of_getElem? hi))

theorem mayCreate_step {t : Traffic} {m : Move} (hm : m.mayCreate = false)
    (h : ∀ c ∈ t.calls, c.mayCreate = false) : ∀ c ∈ (t.step m).calls, c.mayCreate = false := by
  refine forall_calls_step (fun c w hc => Call.mayCreate_step hc w) (fun r hr => ?_) h
  subst hr
  cases r with
  | create => cases hm
  | dispatch => cases hm
  | _ => rfl

theorem Roomy.of_mayCreate {t : Traffic} (h : ∀ c ∈ t.calls, c.mayCreate = false) : t.Roomy :=
  fun c hc hcreation => absurd (Call.creation?_of_mayCreate (h c hc)) hcreation

/-- What one step of sane traffic keeps, a run keeps in which nothing is created. -/
theorem run_sane {P : Traffic → Prop} {Q : Move → Prop} (hcreate : ∀ m, Q m → m.mayCreate = false)
    (hstep : ∀ t m, t.Sane → (∀ c ∈ t.calls, c.mayCreate = false) → Q m → P t → P (t.step m))
    {w : World} (hkeyed : w.store.Keyed) (hw : P { world := w }) {moves : List Move}
    (hmoves : ∀ m ∈ moves, Q m) :
    (Traffic.run { world := w } moves).Sane ∧ P (Traffic.run { world := w } moves) := by
  have hrun := run_induction (P := fun t => (∀ c ∈ t.calls, c.mayCreate = false) ∧ t.Sane ∧ P t)
    (fun t m ht hm => by
      obtain ⟨hcalls, hsane, hP⟩ := ht
      exact ⟨mayCreate_step (hcreate m hm) hcalls,
        hsane.happens (.of_mayCreate hcalls) (happens_step hsane m), hstep t m hsane hcalls hm hP⟩)
    moves { world := w } ⟨(fun _ hc => nomatch hc), Sane.of_keyed hkeyed, hw⟩ hmoves
  exact hrun.2

end Traffic

end BookingNotices
