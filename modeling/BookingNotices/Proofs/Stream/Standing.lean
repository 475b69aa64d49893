import BookingNotices.Proofs.Stream.Server

/-!
# What a consumer is in the middle of

* `Delivered`, `Buried`, `Justified` : what is done by anybody else leaves them as they are;
* `Job.Fresh`     : a job that depends on nothing that was done before it, and is about an entry of
  a topic that the consumer has handlers for;
* `Standing`      : such jobs, or the rest of a delivery or of a burial first;
* `Standing.perform`   : so it is after the first job;
* `Standing.justified` : if the first job acknowledges an entry, it may;
* `Member.carries_perform` : nothing but an acknowledgement makes a server forget an entry.

A delivery is only followed by calls of handlers, so that all of them have succeeded when it comes
to its acknowledgement. A failure of a command ends the task, and with it the delivery.
-/

namespace BookingNotices.Stream

variable {σ η : Type}

/-! ## Why entries may be acknowledged -/

section Justified

variable {history deeds : List (Deed η)} {s s' : Server} {i : Nat} {topic : String}

theorem Delivered.begin (entry : Nat) (handlers : List η) :
    Delivered (history ++ [.began i topic entry handlers]) i topic entry handlers [] :=
  ⟨history, [], rfl, rfl⟩

/-- One more handler has succeeded. -/
theorem Delivered.call {entry : Nat} {handlers called : List η}
    (h : Delivered history i topic entry handlers called) (next : η) :
    Delivered (history ++ [.called i topic entry next (.ok ())]) i topic entry handlers
      (called ++ [next]) := by
  obtain ⟨before, since, rfl, hsince⟩ := h
  refine ⟨before, since ++ [.called i topic entry next (.ok ())], ?_, ?_⟩
  · rw [List.append_assoc, List.cons_append]
  · rw [List.filter_append, hsince, List.map_append]
    simp [Deed.member]

/-- What others do is no part of a delivery. -/
theorem Delivered.append {entry : Nat} {handlers called : List η}
    (h : Delivered history i topic entry handlers called) (hothers : ∀ d ∈ deeds, d.member ≠ i) :
    Delivered (history ++ deeds) i topic entry handlers called := by
  obtain ⟨before, since, rfl, hsince⟩ := h
  refine ⟨before, since ++ deeds, ?_, ?_⟩
  · rw [List.append_assoc, List.cons_append]
  · have hnone : deeds.filter (fun d => d.member = i) = [] :=
      List.filter_eq_nil_iff.mpr fun d hd => by simpa using hothers d hd
    rw [List.filter_append, hnone, List.append_nil, hsince]

/-- The copy for the dead letters names its entry. -/
theorem text?_deadLetter (e : Entry) (deliveries : Nat) :
    (deadLetter e deliveries).text? "source_entry_id" = some (idOf e.number) := by
  unfold Fields.text? deadLetter Fields.ofTexts
  rw [List.map_append, List.findRev?_eq_find?_reverse, List.reverse_append]
  -- a text is read back from the bytes that spell it
  exact dif_pos (idOf e.number).isValidUTF8

theorem Buried.append {e : Entry} (h : Buried history s topic e) (hkeeps : s.Keeps s') :
    Buried (history ++ deeds) s' topic e := by
  obtain ⟨j, number, deliveries, hcopied, hmem, hnames⟩ := h
  exact ⟨j, number, deliveries, List.mem_append_left _ hcopied, hkeeps _ hmem, hnames⟩

/-- A justification stands until its consumer does the next thing. -/
theorem Justified.append {handlers : List η} {e : Entry}
    (h : Justified history s i topic handlers e) (hothers : ∀ d ∈ deeds, d.member ≠ i)
    (hkeeps : s.Keeps s') : Justified (history ++ deeds) s' i topic handlers e :=
  h.imp (fun ⟨hsome, hall⟩ => ⟨hsome, hall.append hothers⟩) fun hburied => hburied.append hkeeps

end Justified

/-! ## Jobs -/

/-- A job that depends on nothing that was done before it. -/
def Job.Fresh (s : Server) (handlers : String → List η) : Job η → Prop
  | .createGroup _ | .readNew | .count => True
  | .listPending topic => handlers topic ≠ []
  | .reclaim topic p => handlers topic ≠ [] ∧ ∃ e ∈ (s.log topic).entries, e.number = p.entry
  | .deliver topic e _ => handlers topic ≠ [] ∧ e ∈ (s.log topic).entries
  | .bury topic entry _ => ∃ e ∈ (s.log topic).entries, e.number = entry
  | .handle _ _ _ _ _ | .acknowledge _ _ | .copy _ _ _ | .acknowledgeBuried _ _ => False

/-- What is left of a task is in order, given what its consumer has done so far. -/
inductive Standing (history : List (Deed η)) (s : Server) (handlers : String → List η) (i : Nat) :
    List (Job η) → Prop where
  | fresh {jobs} (h : ∀ j ∈ jobs, j.Fresh s handlers) : Standing history s handlers i jobs
  | handling {topic e event called left jobs} (hmem : e ∈ (s.log topic).entries)
      (hsome : handlers topic ≠ []) (hsplit : handlers topic = called ++ left)
      (h : Delivered history i topic e.number (handlers topic) called)
      (hjobs : ∀ j ∈ jobs, j.Fresh s handlers) :
      Standing history s handlers i (.handle topic e.number event left true :: jobs)
  /-- the entry stays pending -/
  | failing {topic entry event left jobs} (hjobs : ∀ j ∈ jobs, j.Fresh s handlers) :
      Standing history s handlers i (.handle topic entry event left false :: jobs)
  | handled {topic e jobs} (hmem : e ∈ (s.log topic).entries)
      (h : Justified history s i topic (handlers topic) e)
      (hjobs : ∀ j ∈ jobs, j.Fresh s handlers) :
      Standing history s handlers i (.acknowledge topic e.number :: jobs)
  | copying {topic e count jobs} (hmem : e ∈ (s.log topic).entries)
      (hjobs : ∀ j ∈ jobs, j.Fresh s handlers) :
      Standing history s handlers i
        (.copy topic e count :: .acknowledgeBuried topic e.number :: jobs)
  | buried {topic e jobs} (hmem : e ∈ (s.log topic).entries)
      (h : Justified history s i topic (handlers topic) e)
      (hjobs : ∀ j ∈ jobs, j.Fresh s handlers) :
      Standing history s handlers i (.acknowledgeBuried topic e.number :: jobs)

section Standing

variable {s s' : Server} {handlers : String → List η} {i : Nat}

theorem Job.Fresh.mono {j : Job η} (h : j.Fresh s handlers) (hkeeps : s.Keeps s') :
    j.Fresh s' handlers := by
  cases j with
  | reclaim topic p =>
    obtain ⟨hsome, e, he, hnumber⟩ := h
    exact ⟨hsome, e, hkeeps topic he, hnumber⟩
  | deliver topic e count => exact ⟨h.1, hkeeps topic h.2⟩
  | bury topic entry count =>
    obtain ⟨e, he, hnumber⟩ := h
    exact ⟨e, hkeeps topic he, hnumber⟩
  | _ => exact h

theorem Job.fresh_mono {jobs : List (Job η)} (hkeeps : s.Keeps s')
    (h : ∀ j ∈ jobs, j.Fresh s handlers) : ∀ j ∈ jobs, j.Fresh s' handlers :=
  fun j hj => (h j hj).mono hkeeps

/-- What others do leaves a task in order. -/
theorem Standing.append {history deeds : List (Deed η)} {jobs : List (Job η)}
    (h : Standing history s handlers i jobs) (hothers : ∀ d ∈ deeds, d.member ≠ i)
    (hkeeps : s.Keeps s') : Standing (history ++ deeds) s' handlers i jobs := by
  cases h with
  | fresh h => exact .fresh (Job.fresh_mono hkeeps h)
  | handling hmem hsome hsplit h hjobs =>
    exact .handling (hkeeps _ hmem) hsome hsplit (h.append hothers) (Job.fresh_mono hkeeps hjobs)
  | failing hjobs => exact .failing (Job.fresh_mono hkeeps hjobs)
  | handled hmem h hjobs =>
    exact .handled (hkeeps _ hmem) (h.append hothers hkeeps) (Job.fresh_mono hkeeps hjobs)
  | copying hmem hjobs => exact .copying (hkeeps _ hmem) (Job.fresh_mono hkeeps hjobs)
  | buried hmem h hjobs =>
    exact .buried (hkeeps _ hmem) (h.append hothers hkeeps) (Job.fresh_mono hkeeps hjobs)

end Standing

/-! ## Doing the first job -/

/-- A command that succeeds was done, and its reply is what is read. -/
theorem Site.of_exchange {α β : Type} {s s' : Site σ} {purpose : String} {c : Command}
    {act : Server → Except Refusal α × Server} {f : α → β} {b : β}
    (h : ((s.exchange purpose c act).1.map f, (s.exchange purpose c act).2) = (.ok b, s')) :
    s.server.heeds c = true ∧ ∃ a, f a = b ∧
      ∃ s₁ : Server, s₁.logs = s.server.logs ∧ act s₁ = (.ok a, s'.server) := by
  unfold Site.exchange at h
  cases hreply : s.server.exchange c act with
  | mk reply server =>
    rw [hreply] at h
    cases reply with
    | error r => cases h
    | ok a =>
      cases h
      obtain ⟨hheeds, s₁, hlogs, hact⟩ := Server.exchange_eq_ok hreply
      exact ⟨hheeds, a, rfl, s₁, hlogs, hact⟩

namespace Member

variable {m : Member η} {handle : Handle σ η} {i : Nat}

/-- Nothing but an acknowledgement makes the server forget an entry. -/
theorem carries_perform (hhandle : handle.OnlyAdds) (s : Site σ) (j : Job η) :
    s.server.Carries m.settings.group
      (fun topic entry => j.deed? i m handle s = some (.acknowledged i topic entry))
      (m.perform handle s j).2.server := by
  cases j with
  | createGroup topic =>
    have hserver : (m.perform handle s (.createGroup topic)).2.server =
        (s.server.exchange .createGroup (Server.createGroup topic m.settings.group)).2 := by
      unfold perform
      dsimp only
      split <;> rfl
    rw [hserver]
    exact Server.carries_exchange fun _ => Server.carries_createGroup topic
  | readNew => exact Server.carries_exchange fun _ => Server.carries_readNew _ _ _
  | listPending topic => exact Server.carries_exchange fun _ => Server.carries_listPending topic _
  | reclaim topic p =>
    simp only [perform]
    split
    · exact .refl _
    · split
      · exact .refl _
      · exact Server.carries_exchange fun _ => Server.carries_claim topic _ _ _
  | deliver topic e count =>
    have hserver : (m.perform handle s (.deliver topic e count)).2.server = s.server := by
      unfold perform
      dsimp only
      split <;> rfl
    rw [hserver]
    exact .refl _
  | handle topic entry event left handled =>
    cases left with
    | nil => exact .refl _
    | cons h left => exact (hhandle h event s).carries
  | acknowledge topic entry =>
    exact Server.carries_exchange_acknowledge fun hheeds => if_pos hheeds
  | bury topic entry count => exact Server.carries_exchange fun _ s₁ => .refl s₁
  | copy topic e count => exact Server.carries_exchange fun _ => Server.carries_add _ _
  | acknowledgeBuried topic entry =>
    exact Server.carries_exchange_acknowledge fun hheeds => if_pos hheeds
  | count => exact .refl _

/-- A consumer has handlers for its topics. -/
theorem handlersOf_ne_nil {topic : String} (h : topic ∈ m.topics) : m.handlersOf topic ≠ [] := by
  obtain ⟨entry, hentry, rfl⟩ := List.mem_map.mp h
  obtain ⟨subscription, hmem, rfl⟩ := List.mem_map.mp (Table.mem_of_mem_ofList hentry)
  refine List.ne_nil_of_mem (List.mem_map.mpr ⟨subscription, ?_, rfl⟩)
  exact List.mem_filter.mpr ⟨hmem, decide_eq_true rfl⟩

/-- A job that depends on nothing leads to a task in order, and to new ones that depend on nothing.
-/
theorem perform_fresh {history : List (Deed η)} {s s' : Site σ} {j : Job η} {next : Job.Next η}
    {jobs : List (Job η)} (hs : s.server.InOrder m.settings.group)
    (hj : j.Fresh s.server m.handlersOf) (hjobs : ∀ j ∈ jobs, j.Fresh s'.server m.handlersOf)
    (h : m.perform handle s j = (.ok next, s')) :
    Standing (history ++ (j.deed? i m handle s).toList) s'.server m.handlersOf i
        (next.jobs ++ jobs) ∧
      ∀ t ∈ next.tasks, ∀ j ∈ t.jobs, j.Fresh s'.server m.handlersOf := by
  have fresh {first : List (Job η)} (hfirst : ∀ j ∈ first, j.Fresh s'.server m.handlersOf) :
      Standing (history ++ (j.deed? i m handle s).toList) s'.server m.handlersOf i
        (first ++ jobs) :=
    .fresh fun j hmem => (List.mem_append.mp hmem).elim (hfirst j) (hjobs j)
  cases j with
  | createGroup topic =>
    simp only [perform] at h
    split at h
    · cases h
      exact ⟨.fresh hjobs, fun _ ht => nomatch ht⟩
    · cases h
      exact ⟨.fresh hjobs, fun _ ht => nomatch ht⟩
    · cases h
  | readNew =>
    obtain ⟨-, read, rfl, s₁, -, hread⟩ := Site.of_exchange h
    refine ⟨.fresh hjobs, fun t ht j hj => ?_⟩
    obtain ⟨⟨topic, entries⟩, hmem, ht⟩ := List.mem_flatMap.mp ht
    obtain ⟨e, he, rfl⟩ := List.mem_map.mp ht
    obtain ⟨htopic, hentries⟩ := Server.mem_of_readNew hread hmem
    cases List.mem_singleton.mp hj
    exact ⟨handlersOf_ne_nil htopic, hentries e he⟩
  | listPending topic =>
    obtain ⟨-, reports, rfl, s₁, hlogs, hlist⟩ := Site.of_exchange h
    refine ⟨fresh fun j hmem => ?_, fun _ ht => nomatch ht⟩
    obtain ⟨p, hp, rfl⟩ := List.mem_map.mp hmem
    have horder : (s₁.log topic).InOrder m.settings.group :=
      (Server.log_congr hlogs topic).symm ▸ hs topic
    exact ⟨hj, Server.mem_of_listPending hlist horder hp⟩
  | reclaim topic p =>
    simp only [perform] at h
    split at h
    · cases h
      exact ⟨.fresh hjobs, fun _ ht => nomatch ht⟩
    · split at h
      · cases h
        refine ⟨fresh fun j hmem => ?_, fun _ ht => nomatch ht⟩
        simp only [List.mem_cons, List.not_mem_nil, or_false] at hmem
        rcases hmem with rfl | rfl
        · exact hj.2
        · trivial
      · obtain ⟨-, claimed, rfl, s₁, -, hclaim⟩ := Site.of_exchange h
        cases claimed with
        | none => exact ⟨.fresh hjobs, fun _ ht => nomatch ht⟩
        | some e =>
          refine ⟨fresh fun j hmem => ?_, fun _ ht => nomatch ht⟩
          simp only [List.mem_cons, List.not_mem_nil, or_false] at hmem
          rcases hmem with rfl | rfl
          · exact ⟨hj.1, Server.mem_of_claim hclaim⟩
          · trivial
  | deliver topic e count =>
    obtain ⟨hsome, he⟩ := hj
    cases hevent : Event.ofFields topic (idOf e.number) e.fields s.now.1 with
    | error f =>
      simp only [perform, hevent] at h
      cases h
      refine ⟨fresh fun j hmem => ?_, fun _ ht => nomatch ht⟩
      cases List.mem_singleton.mp hmem
      exact ⟨e, he, rfl⟩
    | ok event =>
      simp only [perform, hevent] at h
      cases h
      rw [Job.deed?, hevent]
      exact ⟨.handling he hsome rfl (.begin e.number _) hjobs, fun _ ht => nomatch ht⟩
  | bury topic entry count =>
    obtain ⟨e, he, hnumber⟩ := hj
    obtain ⟨-, found, rfl, s₁, hlogs, hrange⟩ := Site.of_exchange h
    cases found with
    | none =>
      exact absurd hnumber (Server.range_eq_none hrange e (Server.log_congr hlogs topic ▸ he))
    | some e' =>
      obtain ⟨he', rfl⟩ := Server.range_eq_some hrange
      exact ⟨.copying he' hjobs, fun _ ht => nomatch ht⟩
  | count =>
    cases h
    exact ⟨.fresh hjobs, fun _ ht => nomatch ht⟩
  | _ => exact hj.elim

end Member

section Perform

variable {m : Member η} {handle : Handle σ η} {i : Nat} {history : List (Deed η)} {s s' : Site σ}
  {job : Job η} {jobs : List (Job η)}

/-- After its first job a task is in order, and so are the new ones. -/
theorem Standing.perform (hhandle : handle.OnlyAdds) (hs : s.server.InOrder m.settings.group)
    (h : Standing history s.server m.handlersOf i (job :: jobs)) {next : Job.Next η}
    (hperform : m.perform handle s job = (.ok next, s')) :
    Standing (history ++ (job.deed? i m handle s).toList) s'.server m.handlersOf i
        (next.jobs ++ jobs) ∧
      ∀ t ∈ next.tasks, ∀ j ∈ t.jobs, j.Fresh s'.server m.handlersOf := by
  have hkeeps : s.server.Keeps s'.server := by
    have hcarries := m.carries_perform (i := i) hhandle s job
    rw [hperform] at hcarries
    exact hcarries.keeps
  cases h with
  | fresh h =>
    obtain ⟨hjob, hjobs⟩ := List.forall_mem_cons.mp h
    exact Member.perform_fresh hs hjob (Job.fresh_mono hkeeps hjobs) hperform
  | @handling topic e event called left _ hmem hsome hsplit h hjobs =>
    have hjobs := Job.fresh_mono hkeeps hjobs
    cases left with
    | nil =>
      cases hperform
      rw [List.append_nil] at hsplit
      rw [← hsplit] at h
      refine ⟨.handled hmem (Or.inl ⟨hsome, ?_⟩) hjobs, fun _ ht => nomatch ht⟩
      exact (List.append_nil history).symm ▸ h
    | cons first left =>
      have hnext := (Except.ok.inj (congrArg Prod.fst hperform)).symm
      subst hnext
      refine ⟨?_, fun _ ht => nomatch ht⟩
      rw [Job.deed?]
      cases houtcome : (handle first event s).1 with
      | error f => exact .failing hjobs
      | ok =>
        refine .handling (hkeeps topic hmem) hsome ?_ (h.call first) hjobs
        rw [hsplit, List.append_assoc, List.singleton_append]
  | @failing topic entry event left _ hjobs =>
    have hjobs := Job.fresh_mono hkeeps hjobs
    cases left with
    | nil =>
      cases hperform
      exact ⟨.fresh hjobs, fun _ ht => nomatch ht⟩
    | cons first left =>
      cases hperform
      exact ⟨.failing hjobs, fun _ ht => nomatch ht⟩
  | handled hmem h hjobs =>
    obtain ⟨-, -, rfl, -⟩ := Site.of_exchange hperform
    exact ⟨.fresh (Job.fresh_mono hkeeps hjobs), fun _ ht => nomatch ht⟩
  | @copying topic e count _ hmem hjobs =>
    obtain ⟨hheeds, number, rfl, s₁, hlogs, hadd⟩ := Site.of_exchange hperform
    obtain ⟨hnumber, hcopy⟩ := Server.mem_of_add hadd
    rw [Server.log_congr hlogs] at hnumber
    rw [Job.deed?, if_pos hheeds, ← hnumber]
    refine ⟨.buried (hkeeps topic hmem) (Or.inr ?_) (Job.fresh_mono hkeeps hjobs),
      fun _ ht => nomatch ht⟩
    exact ⟨i, number, count, List.mem_append_right _ List.mem_cons_self, hcopy,
      text?_deadLetter e count⟩
  | buried hmem h hjobs =>
    obtain ⟨-, -, rfl, -⟩ := Site.of_exchange hperform
    exact ⟨.fresh (Job.fresh_mono hkeeps hjobs), fun _ ht => nomatch ht⟩

/-- A consumer does its own deeds, and only two jobs acknowledge an entry. -/
theorem Job.of_deed? {d : Deed η} (h : job.deed? i m handle s = some d) :
    d.member = i ∧ ∀ j topic entry, d = .acknowledged j topic entry →
      job = .acknowledge topic entry ∨ job = .acknowledgeBuried topic entry := by
  unfold deed? at h
  split at h
  · split at h <;> cases h
    exact ⟨rfl, fun _ _ _ hd => nomatch hd⟩
  · cases h
    exact ⟨rfl, fun _ _ _ hd => nomatch hd⟩
  · split at h <;> cases h
    exact ⟨rfl, fun _ _ _ hd => nomatch hd⟩
  · split at h <;> cases h
    refine ⟨rfl, fun _ _ _ hd => Or.inl ?_⟩
    cases hd
    rfl
  · split at h <;> cases h
    refine ⟨rfl, fun _ _ _ hd => Or.inr ?_⟩
    cases hd
    rfl
  · cases h

/-- What the first job acknowledges may be acknowledged. -/
theorem Standing.justified (h : Standing history s.server m.handlersOf i (job :: jobs)) {j : Nat}
    {topic : String} {entry : Nat}
    (hdeed : job.deed? i m handle s = some (.acknowledged j topic entry)) :
    j = i ∧ ∃ e ∈ (s.server.log topic).entries, e.number = entry ∧
      Justified history s.server i topic (m.handlersOf topic) e := by
  obtain ⟨hmember, hjob⟩ := Job.of_deed? hdeed
  refine ⟨hmember, ?_⟩
  rcases hjob j topic entry rfl with rfl | rfl
  · cases h with
    | fresh h => exact (h _ List.mem_cons_self).elim
    | @handled _ e _ hmem h hjobs => exact ⟨e, hmem, rfl, h⟩
  · cases h with
    | fresh h => exact (h _ List.mem_cons_self).elim
    | @buried _ e _ hmem h hjobs => exact ⟨e, hmem, rfl, h⟩

end Perform

end BookingNotices.Stream
