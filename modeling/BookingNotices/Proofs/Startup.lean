import BookingNotices.Settings.Startup

/-!
# Settings that fit, and what they lead to

* `Loop.every_ticks_iff`        : a loop ticks exactly if there is something to wait for;
* `Settings.validate_eq_ok_iff` : settings fit exactly if each of their sections does;
* `Settings.Steady`             : what the service relies on whenever its settings fit;
* `Settings.Runs`               : all that it relies on once it has been started;
* `validated_settings_run_iff`  : nothing but the span after which entries are taken up from others,
  or the bounds of the pool, can keep the service from running.

No section refuses a span of nothing for taking up entries, or a pool that may hold no connection.
-/

namespace BookingNotices

/-! ## Clocks -/

theorem Loop.every_of_pos {period : Nat} (h : 0 < period) :
    Loop.every period = .ticking ⟨period, h⟩ := by
  simp [Loop.every, Ticker.every?, h]

theorem Loop.every_zero : Loop.every 0 = .broken := by
  simp [Loop.every, Ticker.every?]

/-- A loop ticks exactly if there is something to wait for between two ticks. -/
theorem Loop.every_ticks_iff {period : Nat} :
    (∃ clock, Loop.every period = .ticking clock) ↔ period ≠ 0 := by
  constructor
  · rintro ⟨clock, h⟩ rfl
    rw [Loop.every_zero] at h
    cases h
  · intro h
    exact ⟨_, Loop.every_of_pos (Nat.pos_of_ne_zero h)⟩

/-- A sweeper whose clock ticks does what it is told to. -/
theorem Sweeper.start_of_pos {s : Sweeper.Settings} (h : 0 < s.interval) (prompts : List Prompt)
    (w : World) : Sweeper.start s prompts w = some (Sweeper.run s.threshold prompts w) := by
  unfold Sweeper.start Sweeper.Settings.loop
  rw [Loop.every_of_pos h]

/-- The loop of a consumer that has topics is one that needs a clock. -/
theorem Stream.Member.loop_eq_every {η : Type} {m : Stream.Member η} (h : m.topics ≠ []) :
    m.loop = .every (m.settings.reclaimMillis * 1000000) := by
  unfold Stream.Member.loop
  rw [if_neg (by simpa using h)]

namespace Settings

/-! ## What a section that fits says -/

theorem Channel.bounds_of_check {c : Channel} (h : c.check = .ok ()) :
    1 ≤ c.batch ∧ 1 ≤ c.blockMillis ∧ 1 ≤ c.deliveryLimit := by
  simp only [Channel.check, check_eq_ok_iff, List.forall_mem_cons, Bool.or_eq_false_iff,
    decide_eq_false_iff_not] at h
  obtain ⟨-, -, -, -, hbatch, hblock, hlimit, -⟩ := h
  omega

theorem Sweeping.bounds_of_check {s : Sweeping} (h : s.check = .ok ()) :
    0 < s.intervalSeconds ∧ s.intervalSeconds < s.thresholdSeconds := by
  simp only [Sweeping.check, check_eq_ok_iff, List.forall_mem_cons, decide_eq_false_iff_not] at h
  obtain ⟨hinterval, hthreshold, -⟩ := h
  omega

theorem andThen_eq_ok_iff {x y : Except Problem Unit} :
    (x >>= fun _ => y) = .ok () ↔ x = .ok () ∧ y = .ok () := by
  cases x <;> simp [bind, Except.bind]

/-- Settings fit exactly if each of their sections does. -/
theorem validate_eq_ok_iff {s : Settings} :
    s.validate = .ok () ↔ s.service.check = .ok () ∧ s.database.check = .ok () ∧
      s.channel.check = .ok () ∧ s.mailing.check = .ok () ∧ s.storage.check = .ok () ∧
      s.records.check = .ok () ∧ s.sweeping.check = .ok () := by
  unfold validate
  simp only [andThen_eq_ok_iff]

/-! ## The parts of a service that is started -/

/-- The consumer of a process has topics whatever its settings are. -/
theorem topics_member_ne_nil (s : Settings) (process : Nat) : (s.member process).topics ≠ [] := by
  have htopics : (s.member process).topics =
      (Table.ofList [(Event.PaymentCompleted.topic, ()), (Event.Created.topic, ())]).keys := rfl
  rw [htopics]
  decide

theorem loops_eq (s : Settings) (process : Nat) :
    s.loops process = [.every (s.channel.reclaimSeconds * 1000 * 1000000),
      .every (s.sweeping.intervalSeconds * Timestamp.nanosPerSecond)] := by
  unfold loops
  rw [Stream.Member.loop_eq_every (topics_member_ne_nil s process)]
  rfl

/-- What the service relies on whenever its settings fit: it sweeps as it is told to, and more often
than a notice is left to its worker; and streams are read in earnest. -/
structure Steady (s : Settings) (process : Nat) : Prop where
  sweeps : ∀ prompts w, Sweeper.start s.sweeping.toSweeper prompts w =
    some (Sweeper.run s.sweeping.toSweeper.threshold prompts w)
  interval : 0 < s.sweeping.toSweeper.interval
  patience : s.sweeping.toSweeper.interval < s.sweeping.toSweeper.threshold
  batch : 1 ≤ (s.channel.toStream process).batch
  wait : 1 ≤ (s.channel.toStream process).blockMillis
  limit : 1 ≤ (s.channel.toStream process).deliveryLimit

/-- All that the service relies on once it has been started: there is a clock for each of its loops,
too, and a connection to the database. -/
structure Runs (s : Settings) (process : Nat) : Prop extends Steady s process where
  clocks : ∀ l ∈ s.loops process, ∃ clock, l = .ticking clock
  connects : 1 ≤ s.database.toPool.most

theorem steady_of_check {s : Settings} (process : Nat) (hchannel : s.channel.check = .ok ())
    (hsweeping : s.sweeping.check = .ok ()) : s.Steady process := by
  obtain ⟨hbatch, hwait, hlimit⟩ := Channel.bounds_of_check hchannel
  obtain ⟨hinterval, hpatience⟩ := Sweeping.bounds_of_check hsweeping
  have hpositive : 0 < s.sweeping.toSweeper.interval :=
    Nat.mul_pos hinterval (by decide)
  exact {
    sweeps := Sweeper.start_of_pos hpositive
    interval := hpositive
    patience := Nat.mul_lt_mul_of_pos_right hpatience (by decide)
    batch := hbatch
    wait := hwait
    limit := hlimit }

/-- Settings that fit are good for all that the service relies on, but for two things: the service
runs exactly if entries are left to others for some time, and if the pool may hold a connection. -/
theorem validated_settings_run_iff {s : Settings} (process : Nat) (h : s.validate = .ok ()) :
    s.Steady process ∧
      (s.Runs process ↔ s.channel.reclaimSeconds ≠ 0 ∧ s.database.mostConnections ≠ 0) := by
  obtain ⟨-, -, hchannel, -, -, -, hsweeping⟩ := validate_eq_ok_iff.mp h
  have hsteady := steady_of_check process hchannel hsweeping
  refine ⟨hsteady, fun hruns => ?_, fun ⟨hreclaim, hmost⟩ => ?_⟩
  · have hclock := hruns.clocks (.every (s.channel.reclaimSeconds * 1000 * 1000000))
      (by rw [loops_eq]; exact List.mem_cons_self)
    have hconnects : 1 ≤ s.database.mostConnections := hruns.connects
    have hspan := Loop.every_ticks_iff.mp hclock
    omega
  · refine ⟨hsteady, fun l hl => ?_, Nat.one_le_iff_ne_zero.mpr hmost⟩
    rw [loops_eq, List.mem_cons, List.mem_singleton] at hl
    rcases hl with rfl | rfl
    · exact Loop.every_ticks_iff.mpr (by omega)
    · exact Loop.every_ticks_iff.mpr (Nat.ne_of_gt hsteady.interval)

/-- Settings that say no more than they have to. -/
def plain : Settings where
  database := { url := "postgres://db/notices" }
  channel := { url := "redis://streams" }
  mailing := { host := "relay" }
  records := { users := "http://users", bookings := "http://bookings", showtimes := "http://films" }

/-- The values that apply where nothing is said are good for everything. -/
theorem plain_runs : plain.validate = .ok () ∧ plain.channel.reclaimSeconds = 60 ∧
    plain.database.mostConnections = 10 ∧ plain.Runs 1 := by
  have hfit : plain.validate = .ok () := rfl
  exact ⟨hfit, rfl, rfl, (validated_settings_run_iff 1 hfit).2.mpr ⟨by decide, by decide⟩⟩

/-- Settings under which entries are not left to anybody. -/
def hasty : Settings := { plain with channel := { plain.channel with reclaimSeconds := 0 } }

/-- Settings under which the pool holds no connection. -/
def shut : Settings :=
  { plain with database := { plain.database with leastConnections := 0, mostConnections := 0 } }

/-- Settings fit under which the consumer of streams breaks down at once, and so do settings under
which there is no connection to the database. -/
theorem fitting_settings_break_down :
    hasty.validate = .ok () ∧ (hasty.member 1).loop = .broken ∧ ¬ hasty.Runs 1 ∧
      shut.validate = .ok () ∧ shut.database.toPool.most = 0 ∧ ¬ shut.Runs 1 := by
  have hbroken : (hasty.member 1).loop = .broken := by decide
  refine ⟨rfl, hbroken, fun hruns => ?_, rfl, rfl, fun hruns => ?_⟩
  · obtain ⟨clock, hclock⟩ := hruns.clocks _ List.mem_cons_self
    rw [hbroken] at hclock
    cases hclock
  · exact absurd hruns.connects (by decide)

end Settings

end BookingNotices
