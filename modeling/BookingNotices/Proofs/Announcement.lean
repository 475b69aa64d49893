import BookingNotices.Proofs.Payload
import BookingNotices.Proofs.Transaction

/-!
# What is published

* `Event.announces`     : whether an event announces a row;
* `Bus.accept`, `Bus.skip` : what an event leaves that is accepted, or refused;
* `World.Announced`     : what was published from one world to another, an announcement or nothing;
* `announce_cases`      : an announcement is refused, or it is one more published event;
* `Transaction.Announces` : a transaction announces the row that its result names, and nothing if it
  fails (`Announces.claim`, `Announces.create`);
* `Announces.run_cases` : so it does when it is run, unless the commit fails (`World.Lapsed`);
* `World.announced_create`, `Worker.announced_step` : so do creations and workers, as long as the
  store does not fail.

An event is published before the transaction that it belongs to is committed. It is the last thing
in that transaction that may be refused, so what is published is also stored.
-/

namespace BookingNotices

/-! ## Announcements as events -/

namespace Event

/-- The event that announces a row. -/
def Created.announcement (id : NoticeId) (cause : Option String) (eventId : String)
    (now : Timestamp) : Event :=
  match cause with
  | some cause => ((Created.mk id).envelope eventId now).causedBy cause
  | none => (Created.mk id).envelope eventId now

/-- Whether an event announces a row. -/
def announces (id : NoticeId) (e : Event) : Bool :=
  e.topic = Created.topic &&
    match Created.ofEvent e with
    | .ok c => c.id = id
    | .error _ => false

/-- The event announces the row, and no other. -/
def AnnouncesOnly (id : NoticeId) (e : Event) : Prop :=
  e.topic = Created.topic ∧ Created.ofEvent e = .ok ⟨id⟩

theorem AnnouncesOnly.announces_iff {id : NoticeId} {e : Event} (h : e.AnnouncesOnly id)
    (other : NoticeId) : e.announces other = decide (id = other) := by
  unfold announces
  rw [h.1, h.2]
  simp

theorem AnnouncesOnly.announcement (id : NoticeId) (cause : Option String) (eventId : String)
    (now : Timestamp) : AnnouncesOnly id (Created.announcement id cause eventId now) := by
  cases cause <;> exact ⟨rfl, Created.ofEvent_envelope ⟨id⟩ eventId now⟩

theorem announces_of_topic {e : Event} (h : e.topic ≠ Created.topic) (id : NoticeId) :
    e.announces id = false := by
  unfold announces
  simp [h]

end Event

/-! ## What was published -/

namespace Bus

variable {η : Type}

/-- Whether the next event is refused. -/
def refuses (b : Bus η) : Bool := b.refusals.next.1

/-- What a refused event leaves. -/
def skip (b : Bus η) : Bus η := { b with refusals := b.refusals.next.2 }

/-- What an accepted event leaves. -/
def accept (b : Bus η) (e : Event) : Bus η :=
  { b.skip with
    published := b.published ++ [e]
    queue := b.queue ++ (b.handlersOf e.topic).map fun h => ⟨e, h, 0⟩ }

theorem publish_of_refuses {b : Bus η} (h : b.refuses = true) (e : Event) :
    ∃ f, b.publish e = (.error f, b.skip) ∧ f.code = .channelError := by
  unfold refuses at h
  unfold publish
  dsimp only
  rw [h]
  exact ⟨_, rfl, rfl⟩

theorem publish_of_not_refuses {b : Bus η} (h : b.refuses = false) (e : Event) :
    b.publish e = (.ok (), b.accept e) := by
  unfold refuses at h
  unfold publish
  dsimp only
  rw [h]
  rfl

end Bus

namespace World

/-- What was published from one world to another: the announcement of a row, or nothing. -/
def Announced (w : World) : Option NoticeId → World → Prop
  | none, w' => w'.bus = w.bus ∨ w'.bus = w.bus.skip
  | some id, w' => ∃ e : Event, e.AnnouncesOnly id ∧ w'.bus = w.bus.accept e

theorem Announced.of_eq {w w₁ w' : World} {id? : Option NoticeId} (h : w₁.Announced id? w')
    (hw : w₁.bus = w.bus) : w.Announced id? w' := by
  unfold Announced at h ⊢
  rwa [hw] at h

theorem Announced.published_none {w w' : World} (h : w.Announced none w') :
    w'.bus.published = w.bus.published := by
  rcases h with h | h <;> rw [h]
  rfl

theorem Announced.published_some {w w' : World} {id : NoticeId} (h : w.Announced (some id) w') :
    ∃ e : Event, w'.bus.published = w.bus.published ++ [e] ∧ e.AnnouncesOnly id := by
  obtain ⟨e, honly, h⟩ := h
  exact ⟨e, by rw [h]; rfl, honly⟩

theorem Announced.bus_eq {w w₁ w' : World} {id? : Option NoticeId} (h : w.Announced id? w₁)
    (hw : w'.bus = w₁.bus) : w.Announced id? w' := by
  cases id? with
  | none => exact h.imp hw.trans hw.trans
  | some id => exact h.imp fun e he => ⟨he.1, hw.trans he.2⟩

/-- A row was announced, but the commit failed that was to store it. -/
def Lapsed (w w' : World) : Prop :=
  ∃ id, w.Announced (some id) w' ∧
    (w'.storeFaults .commit).length < (w.storeFaults .commit).length

theorem Lapsed.not_reliable {w w' : World} (h : w.Lapsed w') : ¬ w.Reliable := by
  intro hreliable
  obtain ⟨-, -, hless⟩ := h
  rw [hreliable .commit] at hless
  exact Nat.not_lt_zero _ hless

/-- The bus stays as it is. -/
def Calm (w w' : World) : Prop := w'.bus = w.bus

theorem calm_habit : Habit Calm where
  refl _ := rfl
  trans h₁ h₂ := Eq.trans h₂ h₁
  storeFails w c := by
    unfold World.storeFails Calm
    split <;> rfl
  now _ := rfl
  freshId _ := rfl
  store _ _ := rfl
  lookUp _ _ _ := rfl
  render _ _ := rfl
  read _ _ := rfl
  put _ _ _ := rfl
  send _ _ := rfl

end World

namespace Transaction

variable {α β : Type}

/-- An announcement publishes one event, with a fresh identity and the instant. -/
theorem announce_eq (id : NoticeId) (cause : Option String) (s : Store) (w : World) :
    announce id cause s w =
      publish (Event.Created.announcement id cause w.freshId.1 w.freshId.2.now.1) s
        w.freshId.2.now.2 := by
  cases cause <;> rfl

/-- An announcement is refused, or it is one more published event. -/
theorem announce_cases (id : NoticeId) (cause : Option String) (s : Store) (w : World) :
    (w.bus.refuses = true ∧ ∃ e w', announce id cause s w = (.error e, w') ∧
      e.isRetryable = true ∧ w'.bus = w.bus.skip) ∨
    (w.bus.refuses = false ∧ ∃ event w', announce id cause s w = (.ok ((), s), w') ∧
      event.AnnouncesOnly id ∧ w'.bus = w.bus.accept event) := by
  rw [announce_eq]
  unfold publish World.publish
  cases hrefuses : w.bus.refuses with
  | true =>
    obtain ⟨f, hpublish, hcode⟩ := Bus.publish_of_refuses hrefuses
      (Event.Created.announcement id cause w.freshId.1 w.freshId.2.now.1)
    refine Or.inl ⟨rfl, ?_⟩
    rw [show w.freshId.2.now.2.bus = w.bus from rfl, hpublish]
    refine ⟨_, _, rfl, ?_, rfl⟩
    unfold Notice.Error.ofFailure
    rw [hcode]
    rfl
  | false =>
    have hpublish := Bus.publish_of_not_refuses hrefuses
      (Event.Created.announcement id cause w.freshId.1 w.freshId.2.now.1)
    refine Or.inr ⟨rfl, ?_⟩
    rw [show w.freshId.2.now.2.bus = w.bus from rfl, hpublish]
    exact ⟨_, _, rfl, .announcement id cause _ _, rfl⟩

/-- A transaction announces the row that its result names, and nothing if it fails. -/
def Announces (names : α → Option NoticeId) (t : Transaction α) : Prop :=
  ∀ s w, match t s w with
    | (.ok (a, _), w') => w.Announced (names a) w'
    | (.error _, w') => w.Announced none w'

theorem Announces.bind {names : β → Option NoticeId} {x : Transaction α} {f : α → Transaction β}
    (hx : Respects World.Calm x) (hf : ∀ a, Announces names (f a)) : Announces names (x >>= f) := by
  intro s w
  rw [bind_apply]
  have hw : World.Calm w (x s w).2 := hx s w
  rcases hwork : x s w with ⟨_ | ⟨a, s'⟩, w'⟩
  · rw [hwork] at hw
    exact Or.inl hw
  · rw [hwork] at hw
    have hrest := hf a s' w'
    dsimp only
    split
    · rename_i hend
      rw [hend] at hrest
      exact World.Announced.of_eq hrest hw
    · rename_i hend
      rw [hend] at hrest
      exact World.Announced.of_eq hrest hw

theorem Announces.pure {names : α → Option NoticeId} {a : α} (h : names a = none) :
    Announces names (Pure.pure a) := by
  intro s w
  show w.Announced (names a) w
  rw [h]
  exact Or.inl rfl

theorem Announces.throw (names : α → Option NoticeId) (e : Notice.Error) :
    Announces names (MonadExcept.throw e : Transaction α) := fun _ _ => Or.inl rfl

/-- An announcement comes last. -/
theorem Announces.announce {names : α → Option NoticeId} {a : α} {id : NoticeId}
    (h : names a = some id) (cause : Option String) :
    Announces names (Transaction.announce id cause >>= fun _ => Pure.pure a) := by
  intro s w
  rw [bind_apply]
  rcases announce_cases id cause s w with
    ⟨-, e, w', hann, -, hbus⟩ | ⟨-, event, w', hann, honly, hbus⟩
  · rw [hann]
    exact Or.inr hbus
  · rw [hann]
    show w.Announced (names a) w'
    rw [h]
    exact ⟨event, honly, hbus⟩

/-- A claim announces the row that it takes. -/
theorem Announces.claim (id : NoticeId) :
    Announces (fun taken : Option Notice => taken.map fun _ => id) (Transaction.claim id) := by
  have hframe := World.calm_habit.toFrame
  unfold Transaction.claim
  refine .bind (.lock hframe id) fun n => ?_
  split
  · exact .pure rfl
  · refine .bind (.now hframe) fun t => ?_
    split
    · exact .throw _ _
    · exact .bind (.overwrite hframe _) fun _ => .announce (by rfl) none

/-- A creation announces the row that it stores. -/
theorem Announces.create (booking : BookingId) (cause : Option String) :
    Announces (fun n : Notice => some n.id) (Transaction.create booking cause) := by
  have hframe := World.calm_habit.toFrame
  unfold Transaction.create
  refine .bind (.count hframe booking) fun c => ?_
  split
  · exact .bind (.throw hframe _) fun _ =>
      .bind (.now hframe) fun _ => .bind (.insert hframe _) fun _ => .announce (by rfl) cause
  · exact .bind (.now hframe) fun _ => .bind (.insert hframe _) fun _ => .announce (by rfl) cause

/-- What a transaction announces stays announced. It is stored, unless the commit fails. -/
theorem Announces.run_cases {names : α → Option NoticeId} {t : Transaction α}
    (ht : Announces names t) (haside : Respects World.Aside t) (keep : α → Bool)
    (hkeep : ∀ a, keep a = false → names a = none) (w : World) :
    w.Announced ((t.run keep w).1.toOption.bind names) (t.run keep w).2 ∨
      ((t.run keep w).1.toOption = none ∧ w.Lapsed (t.run keep w).2) := by
  have calm {w w' : World} {c : StoreCall} {b : Bool} (h : w.storeFails c = (b, w')) :
      w'.bus = w.bus := World.calm_habit.toFrame.of_storeFails h
  unfold run
  split
  · rename_i w₁ hbegin
    exact Or.inl (Or.inl (calm hbegin))
  · rename_i w₁ hbegin
    have hbus := calm hbegin
    have hwork := ht w₁.store w₁
    have hw := (World.Aside.of_storeFails hbegin).trans (haside w₁.store w₁)
    split
    · rename_i e w₂ hend
      rw [hend] at hwork
      exact Or.inl ((hwork.bus_eq (World.calm_habit.storeFails w₂ .rollback)).of_eq hbus)
    · rename_i a staged w₂ hend
      rw [hend] at hwork hw
      dsimp only at hwork hw ⊢
      cases hkept : keep a with
      | false =>
        rw [hkeep a hkept] at hwork
        simp only [Bool.false_eq_true, if_false]
        split
        · rename_i w₃ hfails
          exact Or.inl ((hwork.bus_eq (calm hfails)).of_eq hbus)
        · rename_i w₃ hfails
          show w.Announced (names a) w₃ ∨ _
          rw [hkeep a hkept]
          exact Or.inl ((hwork.bus_eq (calm hfails)).of_eq hbus)
      | true =>
        simp only [if_true]
        split
        · rename_i w₃ hfails
          have hless := Nat.lt_of_lt_of_le (World.storeFails_eq_true hfails) (hw.faults .commit)
          cases hnames : names a with
          | none =>
            rw [hnames] at hwork
            exact Or.inl ((hwork.bus_eq (calm hfails)).of_eq hbus)
          | some id =>
            rw [hnames] at hwork
            exact Or.inr ⟨rfl, id, (hwork.bus_eq (calm hfails)).of_eq hbus, hless⟩
        · rename_i w₃ hfails
          have hann : w.Announced (names a) w₃ := (hwork.bus_eq (calm hfails)).of_eq hbus
          exact Or.inl (hann.bus_eq rfl)

end Transaction

/-! ## Creations and workers -/

/-- A creation that succeeds announces its row; one that fails announces nothing, unless it was the
commit that failed. -/
theorem World.create_announced (w : World) (booking : BookingId) (cause : Option String) :
    w.Announced ((w.create booking cause).1.toOption.map Notice.id) (w.create booking cause).2 ∨
      ((w.create booking cause).1.toOption = none ∧ w.Lapsed (w.create booking cause).2) := by
  have hrun := (Transaction.Announces.create booking cause).run_cases
    (Transaction.aside_create booking cause) (fun _ => true) (fun _ h => nomatch h) w
  rwa [Option.map_eq_bind]

theorem World.announced_create {w : World} (hreliable : w.Reliable) (booking : BookingId)
    (cause : Option String) :
    w.Announced ((w.create booking cause).1.toOption.map Notice.id) (w.create booking cause).2 :=
  (w.create_announced booking cause).resolve_right fun h => h.2.not_reliable hreliable

namespace Worker

/-- The row that a step announces: a claim does so if it is successful. -/
def announced? : Worker → Worker → Option NoticeId
  | .claiming id, .findingBooking _ => some id
  | _, _ => none

theorem announced?_eq_none {k k' : Worker}
    (h : ∀ id n, k = .claiming id → k' ≠ .findingBooking n) : announced? k k' = none := by
  unfold announced?
  split
  · rename_i id n
    exact absurd rfl (h id n rfl)
  · rfl

/-- A step announces nothing but the row that it claims, unless it was the commit that failed. -/
theorem step_announced (k : Worker) (w : World) :
    w.Announced (announced? k (k.step w).1) (k.step w).2 ∨
      (announced? k (k.step w).1 = none ∧ w.Lapsed (k.step w).2) := by
  by_cases hclaiming : ∃ id, k = .claiming id
  · obtain ⟨id, rfl⟩ := hclaiming
    have hrun := (Transaction.Announces.claim id).run_cases (Transaction.aside_claim id)
      Option.isSome (fun taken h => by cases taken <;> trivial) w
    dsimp only [step]
    rcases hclaim : (Transaction.claim id).run Option.isSome w with ⟨_ | _ | n, w'⟩ <;>
      rw [hclaim] at hrun
    · exact hrun.imp_right fun h => ⟨rfl, h.2⟩
    · exact hrun.imp_right fun h => ⟨rfl, h.2⟩
    · exact hrun.imp_right fun h => nomatch h.1
  · have hsilent : w.Announced none (k.step w).2 :=
      Or.inl (habit_step World.calm_habit k w fun id hk => absurd ⟨id, hk⟩ hclaiming)
    cases k with
    | claiming id => exact absurd ⟨id, rfl⟩ hclaiming
    | _ => exact Or.inl hsilent

theorem announced_step {w : World} (hreliable : w.Reliable) (k : Worker) :
    w.Announced (announced? k (k.step w).1) (k.step w).2 :=
  (step_announced k w).resolve_right fun h => h.2.not_reliable hreliable

end Worker

end BookingNotices
