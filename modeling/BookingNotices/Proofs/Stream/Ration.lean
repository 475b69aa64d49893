import BookingNotices.Proofs.Stream.Deliveries
import BookingNotices.Proofs.Stream.Kept

/-!
# What a job does to an entry

* `Job.hands`, `Job.takes` : a job that hands an entry over, or claims it on an old report;
* `Job.Honest`   : the count that a job has for an entry is not more than the server's;
* `handed`, `due` : how often an entry was handed over or is about to be, and how many claims of it
  are to come on reports below the limit;
* `Ration`       : what is done adds to these no more than the server delivers;
* `Member.perform_ration`, `Member.perform_tidy` : so it is with every job, and no job leads to two
  claims of one entry.

Only a read finds an entry that nothing is known of, and only a listing makes a claim due.
-/

namespace BookingNotices.Stream

variable {σ η : Type}

/-! ## Jobs -/

/-- The delivery of an entry. -/
def Job.hands (topic : String) (entry : Nat) : Job η → Bool
  | .deliver t e _ => t = topic ∧ e.number = entry
  | _ => false

/-- The claim of an entry whose report is below the limit. -/
def Job.takes (limit : Nat) (topic : String) (entry : Nat) : Job η → Bool
  | .reclaim t p => t = topic ∧ p.entry = entry ∧ p.deliveries < limit
  | _ => false

/-- Such a claim, or a listing that may lead to one. -/
def Job.mayTake (limit : Nat) (topic : String) (entry : Nat) : Job η → Bool
  | .listPending t => t = topic
  | j => j.takes limit topic entry

/-- An entry is handed to the handlers of its topic. -/
def Deed.hands (topic : String) (entry : Nat) : Deed η → Bool
  | .began _ t e _ => t = topic ∧ e = entry
  | _ => false

/-- The count that a job has for an entry is not more than the server's; the one for the handlers is
not more than the limit. -/
def Job.Honest (limit : Nat) (s : Server) (group topic : String) (entry : Nat) : Job η → Prop
  | .reclaim t p => t = topic → p.entry = entry → s.Counted group topic entry p.deliveries
  | .deliver t e n => t = topic → e.number = entry →
      n ≤ limit ∧ s.Counted group topic entry n
  | .handle t e event _ _ => t = topic → e = entry → ∃ n,
      event.metadata.deliveries = some (UInt32.ofNat n) ∧ n ≤ limit ∧
        s.Counted group topic entry n
  | _ => True

/-- A job that is no hand-over and no claim of the entry, and has no count for it. -/
structure Job.Plain (limit : Nat) (group topic : String) (entry : Nat) (j : Job η) : Prop where
  hands : j.hands topic entry = false
  takes : j.takes limit topic entry = false
  honest : ∀ s, j.Honest limit s group topic entry

section Jobs

variable {limit : Nat} {group topic : String} {entry : Nat} {s s' : Server} {made : Nat}

theorem Job.Honest.mono {j : Job η} (h : j.Honest limit s group topic entry)
    (haccounts : s.Accounts group topic entry s' made) : j.Honest limit s' group topic entry := by
  have hcounted {count : Nat} (hcount : s.Counted group topic entry count) :
      s'.Counted group topic entry count :=
    (haccounts.counted hcount).mono (Nat.le_add_right count made)
  cases j with
  | reclaim t p => exact fun ht hp => hcounted (h ht hp)
  | deliver t e count => exact fun ht he => ⟨(h ht he).1, hcounted (h ht he).2⟩
  | handle t e event left handled =>
    intro ht he
    obtain ⟨count, hevent, hle, hcount⟩ := h ht he
    exact ⟨count, hevent, hle, hcounted hcount⟩
  | _ => trivial

/-- An entry that is about to be handed over, or claimed, is not unread. -/
theorem Job.Honest.not_unread {j : Job η} (h : j.Honest limit s group topic entry)
    (hj : j.hands topic entry = true ∨ j.takes limit topic entry = true) :
    ¬ Unread s group topic entry := by
  cases j with
  | deliver t e count =>
    rcases hj with hj | hj
    · obtain ⟨ht, he⟩ := of_decide_eq_true hj
      exact (h ht he).2.1
    · cases hj
  | reclaim t p =>
    rcases hj with hj | hj
    · cases hj
    · obtain ⟨ht, hp, -⟩ := of_decide_eq_true hj
      exact (h ht hp).1
  | _ => rcases hj with hj | hj <;> cases hj

end Jobs

/-- How often an entry was handed over, or is about to be. -/
def handed (topic : String) (entry : Nat) (deeds : List (Deed η)) (jobs : List (Job η)) : Nat :=
  deeds.countP (Deed.hands topic entry) + jobs.countP (Job.hands topic entry)

/-- How many claims of an entry are to come on reports below the limit. -/
def due (limit : Nat) (topic : String) (entry : Nat) (jobs : List (Job η)) : Nat :=
  jobs.countP (Job.takes limit topic entry)

/-- What happens to an entry when something is done: before it these jobs were to be done, after it
those. A claim is no longer due when the entry is about to be handed over for it; a first delivery
finds nothing about the entry, and a listing below the limit finds few deliveries. -/
structure Ration (limit : Nat) (group topic : String) (entry : Nat) (s s' : Server)
    (deed? : Option (Deed η)) (jobs jobs' : List (Job η)) : Prop where
  honest : (∀ j ∈ jobs, j.Honest limit s group topic entry) →
    ∀ j ∈ jobs', j.Honest limit s' group topic entry
  accounts : ∃ made, s.Accounts group topic entry s' made ∧
    handed topic entry deed?.toList jobs' ≤ handed topic entry [] jobs + made
  bounded :
    handed topic entry deed?.toList jobs' + due limit topic entry jobs' ≤
      handed topic entry [] jobs + due limit topic entry jobs ∨
    Unread s group topic entry ∧ handed topic entry deed?.toList jobs' ≤
      handed topic entry [] jobs + 1 ∧ due limit topic entry jobs' ≤ due limit topic entry jobs ∨
    handed topic entry deed?.toList jobs' ≤ handed topic entry [] jobs ∧
      ∃ n < limit, s'.deliveries? group topic entry = some n

/-- The jobs that follow from one that was done. -/
def following : Except Failure (Job.Next η) → List (Job η)
  | .ok next => next.jobs ++ next.tasks.flatMap fun t => t.jobs
  | .error _ => []

/-- What follows from a command is what its answer leads to. -/
theorem following_exchange {α : Type} (s : Site σ) (purpose : String) (c : Command)
    (act : Server → Except Refusal α × Server) (f : α → Job.Next η) :
    (∃ a, (s.server.exchange c act).1 = .ok a ∧
      following ((s.exchange purpose c act).1.map f) = following (.ok (f a))) ∨
    following ((s.exchange purpose c act).1.map f) = [] := by
  have hreply : (s.exchange purpose c act).1 = (s.server.exchange c act).1.mapError fun r =>
      ⟨.channelError, purpose ++ ": " ++ r.message, []⟩ := rfl
  rw [hreply]
  cases (s.server.exchange c act).1 with
  | ok a => exact .inl ⟨a, rfl, rfl⟩
  | error r => exact .inr rfl

/-- A hand-over begins with a delivery. -/
theorem Job.hands_of_deed? {m : Member η} {handle : Handle σ η} {s : Site σ} {i : Nat}
    {topic : String} {entry : Nat} {j : Job η} (hj : j.hands topic entry = false) :
    ∀ d ∈ j.deed? i m handle s, d.hands topic entry = false := by
  intro d hd
  cases j with
  | deliver t e n =>
    unfold deed? at hd
    dsimp only at hd
    split at hd
    · cases hd
    · cases hd
      exact hj
  | handle t number event left handled =>
    cases left with
    | nil => cases hd
    | cons h left =>
      cases hd
      rfl
  | copy t e n | acknowledge t number | acknowledgeBuried t number =>
    unfold deed? at hd
    dsimp only at hd
    split at hd
    · cases hd
      rfl
    · cases hd
  | _ => cases hd

/-! ## What follows a job -/

section Ration

variable {limit : Nat} {group topic : String} {entry : Nat} {s s' : Server}
  {deed? : Option (Deed η)} {jobs jobs' : List (Job η)} {made : Nat}

theorem countP_of_none {α : Type} {p : α → Bool} {l : List α} (h : ∀ a ∈ l, p a = false) :
    l.countP p = 0 := by
  rw [List.countP_eq_zero]
  intro a ha
  rw [h a ha]
  exact Bool.false_ne_true

theorem handed_of_plain (hdeed : ∀ d ∈ deed?, d.hands topic entry = false)
    (hjobs : ∀ j ∈ jobs, j.hands topic entry = false) :
    handed topic entry deed?.toList jobs = 0 := by
  unfold handed
  rw [countP_of_none fun d hd => hdeed d (Option.mem_toList.mp hd), countP_of_none hjobs]

theorem due_of_plain (hjobs : ∀ j ∈ jobs, j.takes limit topic entry = false) :
    due limit topic entry jobs = 0 :=
  countP_of_none hjobs

/-- Nothing is delivered, and nothing is about to be. -/
theorem Ration.still (haccounts : s.Accounts group topic entry s' 0)
    (hdeed : ∀ d ∈ deed?, d.hands topic entry = false)
    (hjobs' : (∀ j ∈ jobs, j.Honest limit s group topic entry) →
      ∀ j ∈ jobs', j.Honest limit s' group topic entry)
    (hhands : ∀ j ∈ jobs', j.hands topic entry = false)
    (htakes : ∀ j ∈ jobs', j.takes limit topic entry = false) :
    Ration limit group topic entry s s' deed? jobs jobs' := by
  have hhanded := handed_of_plain hdeed hhands
  have hdue := due_of_plain htakes
  refine ⟨hjobs', ⟨0, haccounts, ?_⟩, .inl ?_⟩
  · omega
  · omega

/-- Plain jobs change nothing. -/
theorem Ration.plain (haccounts : s.Accounts group topic entry s' 0)
    (hdeed : ∀ d ∈ deed?, d.hands topic entry = false)
    (hjobs' : ∀ j ∈ jobs', j.Plain limit group topic entry) :
    Ration limit group topic entry s s' deed? jobs jobs' :=
  .still haccounts hdeed (fun _ j hj => (hjobs' j hj).honest s') (fun j hj => (hjobs' j hj).hands)
    fun j hj => (hjobs' j hj).takes

/-- Nothing follows, whatever was delivered. -/
theorem Ration.stop (haccounts : s.Accounts group topic entry s' made)
    (hdeed : ∀ d ∈ deed?, d.hands topic entry = false) :
    Ration limit group topic entry s s' deed? jobs [] := by
  have hhanded : handed topic entry deed?.toList ([] : List (Job η)) = 0 :=
    handed_of_plain hdeed (List.forall_mem_nil _)
  have hdue : due limit topic entry ([] : List (Job η)) = 0 := rfl
  exact ⟨fun _ => List.forall_mem_nil _, ⟨made, haccounts, by omega⟩, .inl (by omega)⟩

/-- The delivery of an entry that was claimed takes the place of the claim. -/
theorem Ration.claimed {t : String} {p : Pending.Report} {e : Entry}
    (haccounts : s.Accounts group topic entry s' made)
    (hdeed : ∀ d ∈ deed?, d.hands topic entry = false) (hlt : p.deliveries < limit)
    (hnumber : e.number = p.entry) (hmade : t = topic → p.entry = entry → made = 1) :
    Ration limit group topic entry s s' deed? [.reclaim t p]
      [.deliver t e (p.deliveries + 1), .count] := by
  have hdue : due limit topic entry [Job.deliver (η := η) t e (p.deliveries + 1), .count] = 0 := rfl
  have hdeeds : deed?.toList.countP (Deed.hands topic entry) = 0 :=
    countP_of_none fun d hd => hdeed d (Option.mem_toList.mp hd)
  by_cases hentry : t = topic ∧ p.entry = entry
  · obtain ⟨rfl, rfl⟩ := hentry
    obtain rfl := hmade rfl rfl
    have hhanded : handed t p.entry deed?.toList
        [Job.deliver (η := η) t e (p.deliveries + 1), .count] = 1 := by
      simp [handed, Job.hands, hnumber, hdeeds]
    have hwas : due limit t p.entry [Job.reclaim (η := η) t p] = 1 := by
      simp [due, Job.takes, hlt]
    refine ⟨?_, ⟨1, haccounts, by omega⟩, .inl (by omega)⟩
    intro hjobs j hj
    simp only [List.mem_cons, List.not_mem_nil, or_false] at hj
    rcases hj with rfl | rfl
    · intro _ _
      have hcounted := hjobs _ List.mem_cons_self rfl rfl
      exact ⟨hlt, haccounts.counted hcounted⟩
    · trivial
  · have hne : ¬ (t = topic ∧ e.number = entry) := hnumber ▸ hentry
    have hhanded : handed topic entry deed?.toList
        [Job.deliver (η := η) t e (p.deliveries + 1), .count] = 0 := by
      simp [handed, Job.hands, hne, hdeeds]
    refine ⟨?_, ⟨made, haccounts, by omega⟩, .inl (by omega)⟩
    intro _ j hj
    simp only [List.mem_cons, List.not_mem_nil, or_false] at hj
    rcases hj with rfl | rfl
    · exact fun ht he => absurd ⟨ht, he⟩ hne
    · trivial

/-- Reports that are known to the server are claims to come. If one of them is below the limit, the
entry was not delivered more often. -/
theorem Ration.listed {t : String} {reports : List Pending.Report}
    (haccounts : s.Accounts group topic entry s' 0)
    (hdeed : ∀ d ∈ deed?, d.hands topic entry = false) (hread : s'.PendingRead group topic entry)
    (hknown : ∀ p ∈ reports, t = topic → p.entry = entry →
      s'.deliveries? group topic entry = some p.deliveries) :
    Ration limit group topic entry s s' deed? jobs (reports.map (Job.reclaim t)) := by
  have hhanded : handed topic entry deed?.toList (reports.map (Job.reclaim (η := η) t)) = 0 := by
    refine handed_of_plain hdeed fun j hj => ?_
    obtain ⟨p, -, rfl⟩ := List.mem_map.mp hj
    rfl
  refine ⟨?_, ⟨0, haccounts, by omega⟩, ?_⟩
  · intro _ j hj
    obtain ⟨p, hp, rfl⟩ := List.mem_map.mp hj
    intro ht he
    have hcount := hknown p hp ht he
    refine ⟨hread _ hcount, ?_⟩
    intro n hn
    cases hcount.symm.trans hn
    exact Nat.le_refl _
  · by_cases hdue : ∃ p ∈ reports, t = topic ∧ p.entry = entry ∧ p.deliveries < limit
    · obtain ⟨p, hp, ht, he, hlt⟩ := hdue
      exact .inr (.inr ⟨by omega, p.deliveries, hlt, hknown p hp ht he⟩)
    · have hnone : due limit topic entry (reports.map (Job.reclaim (η := η) t)) = 0 := by
        refine due_of_plain fun j hj => ?_
        obtain ⟨p, hp, rfl⟩ := List.mem_map.mp hj
        exact decide_eq_false fun h => hdue ⟨p, hp, h⟩
      exact .inl (by omega)

/-- What was read is to be delivered for the first time. -/
def deliveriesOf (read : List (String × List Entry)) : List (Job η) :=
  (read.flatMap fun (t, entries) => entries.map (Member.deliveryTask t)).flatMap fun t => t.jobs

theorem mem_deliveriesOf {read : List (String × List Entry)} {j : Job η}
    (h : j ∈ deliveriesOf read) : ∃ t e, j = .deliver t e 1 := by
  obtain ⟨task, htask, hj⟩ := List.mem_flatMap.mp h
  obtain ⟨⟨t, entries⟩, -, htask⟩ := List.mem_flatMap.mp htask
  obtain ⟨e, -, rfl⟩ := List.mem_map.mp htask
  exact ⟨t, e, List.mem_singleton.mp hj⟩

/-- An entry is to be delivered as often as it was read. -/
theorem countP_deliveriesOf (read : List (String × List Entry)) (topic : String) (entry : Nat) :
    (deliveriesOf read : List (Job η)).countP (Job.hands topic entry) =
      Server.granted topic entry read := by
  unfold deliveriesOf Server.granted
  induction read with
  | nil => rfl
  | cons r read ih =>
    obtain ⟨t, entries⟩ := r
    rw [List.flatMap_cons, List.flatMap_append, List.countP_append, ih, List.flatMap_cons,
      List.count_append]
    congr 1
    dsimp only
    clear ih
    induction entries with
    | nil => rfl
    | cons e entries ih =>
      rw [List.map_cons, List.flatMap_cons, List.countP_append, ih, List.map_cons, List.count_cons,
        Nat.add_comm]
      congr 1
      simp [Member.deliveryTask, Job.hands]

/-- What was read, and not before, is to be handed over for the first time. -/
theorem Ration.read {read : List (String × List Entry)} (hlimit : 1 ≤ limit)
    (hread : s.PendingRead group topic entry) (haccounts : s.Accounts group topic entry s' made)
    (hfirst : made = 0 ∨ Unread s group topic entry)
    (hgranted : Server.granted topic entry read ≤ made)
    (hdeed : ∀ d ∈ deed?, d.hands topic entry = false) :
    Ration limit group topic entry s s' deed? jobs (deliveriesOf read) := by
  have hmade := haccounts.le_one
  have hcount : (deliveriesOf read : List (Job η)).countP (Job.hands topic entry) ≤ made := by
    rw [countP_deliveriesOf]
    exact hgranted
  have hhanded : handed topic entry deed?.toList (deliveriesOf read : List (Job η)) ≤ made := by
    unfold handed
    rw [countP_of_none fun d hd => hdeed d (Option.mem_toList.mp hd), Nat.zero_add]
    exact hcount
  have hdue : due limit topic entry (deliveriesOf read : List (Job η)) = 0 := by
    refine due_of_plain fun j hj => ?_
    obtain ⟨t, e, rfl⟩ := mem_deliveriesOf hj
    rfl
  refine ⟨?_, ⟨made, haccounts, by omega⟩, ?_⟩
  · intro _ j hj
    obtain ⟨t, e, rfl⟩ := mem_deliveriesOf hj
    intro ht he
    have hpos : 0 < (deliveriesOf read : List (Job η)).countP (Job.hands topic entry) :=
      List.countP_pos_iff.mpr ⟨_, hj, decide_eq_true ⟨ht, he⟩⟩
    obtain rfl : made = 1 := by omega
    exact ⟨hlimit, haccounts.counted_one hread⟩
  · rcases hfirst with rfl | hunread
    · exact .inl (by omega)
    · exact .inr (.inl ⟨hunread, by omega, by omega⟩)

end Ration

/-! ## Doing one job -/

namespace Member

variable {topic : String} {entry : Nat} {m : Member η} {handle : Handle σ η} {i : Nat} {s : Site σ}

/-- A command that delivers nothing, and is followed by no delivery. -/
theorem ration_of_exchange {α : Type} {purpose : String} {c : Command}
    {act : Server → Except Refusal α × Server} {f : α → Job.Next η}
    (hact : ∀ s : Server, s.Accounts m.settings.group topic entry (act s).2 0)
    (hf : ∀ a, ∀ j ∈ following (.ok (f a)),
      j.Plain m.settings.deliveryLimit m.settings.group topic entry)
    {j : Job η} (hj : j.hands topic entry = false) :
    Ration m.settings.deliveryLimit m.settings.group topic entry s.server
      (s.exchange purpose c act).2.server (j.deed? i m handle s) [j]
      (following ((s.exchange purpose c act).1.map f)) := by
  have haccounts := Server.accounts_exchange_quiet (c := c) hact s.server
  refine .plain haccounts (Job.hands_of_deed? hj) ?_
  rcases following_exchange s purpose c act f with ⟨a, -, h⟩ | h
  · rw [h]
    exact hf a
  · rw [h]
    exact List.forall_mem_nil _

/-- A read delivers an entry for the first time, if at all. -/
theorem ration_of_readNew (hlimit : 1 ≤ m.settings.deliveryLimit)
    (hs : s.server.InOrder m.settings.group)
    (hread : s.server.PendingRead m.settings.group topic entry) :
    Ration m.settings.deliveryLimit m.settings.group topic entry s.server
      (m.perform handle s .readNew).2.server ((Job.readNew).deed? i m handle s) [.readNew]
      (following (m.perform handle s .readNew).1) := by
  have hunread {s₁ : Server} (hlogs : s₁.logs = s.server.logs)
      (h : Unread s₁ m.settings.group topic entry) :
      Unread s.server m.settings.group topic entry := by
    unfold Unread at h ⊢
    rwa [Server.group?_congr hlogs] at h
  obtain ⟨made, haccounts, hfirst, hgranted⟩ :
      ∃ made, s.server.Accounts m.settings.group topic entry
          (m.perform handle s .readNew).2.server made ∧
        (made = 0 ∨ Unread s.server m.settings.group topic entry) ∧
        ∀ read, (s.server.exchange .readNew
            (Server.readNew m.topics m.settings.group m.settings.consumer m.settings.batch)).1 =
          .ok read → Server.granted topic entry read ≤ made := by
    refine Server.accounts_exchange (.inl rfl) fun s₁ hlogs => ?_
    have hs₁ : s₁.InOrder m.settings.group := fun t => (Server.log_congr hlogs t).symm ▸ hs t
    obtain ⟨made, haccounts, hfirst, hgranted⟩ := @Server.accounts_readNew m.settings.group topic
      entry m.topics m.settings.consumer m.settings.batch s₁ hs₁
    exact ⟨made, haccounts, hfirst.imp_right (hunread hlogs), hgranted⟩
  rcases following_exchange s "Failed to read from streams" .readNew
    (Server.readNew m.topics m.settings.group m.settings.consumer m.settings.batch)
    (fun read => { tasks := read.flatMap fun (t, entries) => entries.map (deliveryTask t) :
      Job.Next η }) with ⟨read, hreply, hfollowing⟩ | hfollowing
  · have hfollowing : following (m.perform handle s .readNew).1 = deliveriesOf read := hfollowing
    rw [hfollowing]
    exact .read hlimit hread haccounts hfirst (hgranted read hreply) (Job.hands_of_deed? rfl)
  · have hfollowing : following (m.perform handle s .readNew).1 = [] := hfollowing
    rw [hfollowing]
    exact .stop haccounts (Job.hands_of_deed? rfl)

/-- A listing finds few deliveries, if it leads to a claim. -/
theorem ration_of_listPending (hsorted : s.server.Sorted m.settings.group topic)
    (hread : s.server.PendingRead m.settings.group topic entry) (t : String) :
    Ration m.settings.deliveryLimit m.settings.group topic entry s.server
      (m.perform handle s (.listPending t)).2.server ((Job.listPending t).deed? i m handle s)
      [.listPending t] (following (m.perform handle s (.listPending t)).1) := by
  have hquiet (s' : Server) : s'.Accounts m.settings.group topic entry
      (s'.listPending t m.settings.group m.settings.batch).2 0 := by
    rw [Server.listPending_snd]
    exact .of_logs rfl
  have haccounts : s.server.Accounts m.settings.group topic entry
      (m.perform handle s (.listPending t)).2.server 0 :=
    Server.accounts_exchange_quiet hquiet s.server
  rcases following_exchange s "Failed to list pending entries" .listPending
    (Server.listPending t m.settings.group m.settings.batch)
    (fun reports => { jobs := reports.map (.reclaim t) : Job.Next η }) with
    ⟨reports, hreply, hfollowing⟩ | hfollowing
  · have hfollowing : following (m.perform handle s (.listPending t)).1 =
        reports.map (Job.reclaim t) ++ [] := hfollowing
    rw [hfollowing, List.append_nil]
    obtain ⟨-, s₁, hlogs, hlist⟩ := Server.exchange_eq_ok (Prod.ext hreply rfl)
    have hserver : (m.perform handle s (.listPending t)).2.server = s₁ :=
      (congrArg Prod.snd hlist).symm.trans (s₁.listPending_snd _)
    rw [hserver] at haccounts ⊢
    refine .listed haccounts (Job.hands_of_deed? rfl) (haccounts.pendingRead hread) ?_
    rintro p hp rfl rfl
    exact Server.deliveries?_of_listPending hlist (haccounts.sorted hsorted) hp
  · have hfollowing : following (m.perform handle s (.listPending t)).1 = [] := hfollowing
    rw [hfollowing]
    exact .stop haccounts (Job.hands_of_deed? rfl)

/-- A claim that is answered with an entry is followed by its delivery, if it was due. -/
theorem ration_of_claim {t : String} {p : Pending.Report} {purpose : String}
    {f : Option Entry → Job.Next η} (hnone : following (.ok (f none)) = [])
    (hsome : ∀ e, following (.ok (f (some e))) = [.deliver t e (p.deliveries + 1), .count])
    (hlt : p.deliveries < m.settings.deliveryLimit) :
    Ration m.settings.deliveryLimit m.settings.group topic entry s.server
      (s.exchange purpose .claim (Server.claim t m.settings.group m.settings.consumer
        m.settings.reclaimMillis p.entry)).2.server ((Job.reclaim t p).deed? i m handle s)
      [.reclaim t p] (following ((s.exchange purpose .claim (Server.claim t m.settings.group
        m.settings.consumer m.settings.reclaimMillis p.entry)).1.map f)) := by
  obtain ⟨made, haccounts, -, hclaimed⟩ :
      ∃ made, s.server.Accounts m.settings.group topic entry
          (s.exchange purpose .claim (Server.claim t m.settings.group m.settings.consumer
            m.settings.reclaimMillis p.entry)).2.server made ∧ True ∧
        ∀ claimed, (s.server.exchange .claim (Server.claim t m.settings.group m.settings.consumer
            m.settings.reclaimMillis p.entry)).1 = .ok claimed → ∀ e, claimed = some e →
          e.number = p.entry ∧ (t = topic → p.entry = entry → made = 1) := by
    refine Server.accounts_exchange trivial fun s₁ _ => ?_
    obtain ⟨made, haccounts, hclaimed⟩ := @Server.accounts_claim m.settings.group topic entry t
      m.settings.consumer m.settings.reclaimMillis p.entry s₁
    refine ⟨made, haccounts, trivial, ?_⟩
    rintro claimed hreply e rfl
    exact hclaimed e hreply
  have hdeed : ∀ d ∈ (Job.reclaim t p).deed? i m handle s, d.hands topic entry = false :=
    Job.hands_of_deed? rfl
  rcases following_exchange s purpose .claim (Server.claim t m.settings.group m.settings.consumer
    m.settings.reclaimMillis p.entry) f with ⟨claimed, hreply, hfollowing⟩ | hfollowing
  · rw [hfollowing]
    cases claimed with
    | none =>
      rw [hnone]
      exact .stop haccounts hdeed
    | some e =>
      rw [hsome]
      obtain ⟨hnumber, hmade⟩ := hclaimed _ hreply e rfl
      exact .claimed haccounts hdeed hlt hnumber hmade
  · rw [hfollowing]
    exact .stop haccounts hdeed

/-- A delivery hands its entry over, unless the entry holds no event. -/
theorem ration_of_deliver (t : String) (e : Entry) (n : Nat) :
    Ration m.settings.deliveryLimit m.settings.group topic entry s.server
      (m.perform handle s (.deliver t e n)).2.server ((Job.deliver t e n).deed? i m handle s)
      [.deliver t e n] (following (m.perform handle s (.deliver t e n)).1) := by
  cases hevent : Event.ofFields t (idOf e.number) e.fields s.now.1 with
  | error f =>
    have hperform : m.perform handle s (.deliver t e n) =
        (.ok { jobs := [.bury t e.number n] }, s.now.2) := by
      simp only [perform, hevent]
    have hdeed : ∀ d ∈ (Job.deliver t e n).deed? i m handle s, d.hands topic entry = false := by
      rw [Job.deed?, hevent]
      exact fun d hd => absurd hd (Option.not_mem_none d)
    rw [hperform]
    refine .plain (.of_logs rfl) hdeed fun j hj => ?_
    cases List.mem_singleton.mp hj
    exact ⟨rfl, rfl, fun _ => trivial⟩
  | ok event =>
    have hperform : m.perform handle s (.deliver t e n) = (.ok { jobs :=
        [.handle t e.number (event.delivered n) (m.handlersOf t) true] }, s.now.2) := by
      simp only [perform, hevent]
    have hdeed : (Job.deliver t e n).deed? i m handle s =
        some (.began i t e.number (m.handlersOf t)) := by
      rw [Job.deed?, hevent]
    rw [hperform, hdeed]
    have hhanded : handed topic entry (some (Deed.began i t e.number (m.handlersOf t))).toList
        [Job.handle t e.number (event.delivered n) (m.handlersOf t) true] =
          handed topic entry [] [Job.deliver (η := η) t e n] := by
      simp [handed, Job.hands, Deed.hands]
    have hdue : due m.settings.deliveryLimit topic entry
        [Job.handle t e.number (event.delivered n) (m.handlersOf t) true] = 0 := rfl
    refine ⟨?_, ⟨0, .of_logs rfl, Nat.le_of_eq hhanded⟩, .inl ?_⟩
    · intro hjobs j hj
      cases List.mem_singleton.mp hj
      intro ht he
      obtain ⟨hle, hcounted⟩ := hjobs _ List.mem_cons_self ht he
      exact ⟨n, rfl, hle, hcounted⟩
    · exact Nat.le_trans (Nat.le_of_eq hhanded) (Nat.le_add_right _ _)

/-- A call of a handler passes the count on to the next one. -/
theorem ration_of_handle (hhandle : handle.OnlyAdds) (t : String) (number : Nat) (event : Event)
    (left : List η) (handled : Bool) :
    Ration m.settings.deliveryLimit m.settings.group topic entry s.server
      (m.perform handle s (.handle t number event left handled)).2.server
      ((Job.handle t number event left handled).deed? i m handle s)
      [.handle t number event left handled]
      (following (m.perform handle s (.handle t number event left handled)).1) := by
  cases left with
  | nil =>
    have hplain : ∀ j ∈ following (m.perform handle s (.handle t number event [] handled)).1,
        j = .acknowledge t number := by
      cases handled with
      | false => exact List.forall_mem_nil _
      | true => exact fun j hj => List.mem_singleton.mp hj
    refine .plain (.of_logs rfl) (Job.hands_of_deed? rfl) fun j hj => ?_
    rw [hplain j hj]
    exact ⟨rfl, rfl, fun _ => trivial⟩
  | cons h left =>
    have haccounts : s.server.Accounts m.settings.group topic entry
        (m.perform handle s (.handle t number event (h :: left) handled)).2.server 0 :=
      (hhandle h event s).accounts
    have hnext : ∀ j ∈ following (m.perform handle s (.handle t number event (h :: left)
        handled)).1, ∃ handled', j = .handle t number event left handled' :=
      fun j hj => ⟨_, List.mem_singleton.mp hj⟩
    refine .still haccounts (Job.hands_of_deed? rfl) ?_ ?_ ?_
    · intro hjobs j hj
      obtain ⟨handled', rfl⟩ := hnext j hj
      have hevent : (Job.handle t number event left handled').Honest m.settings.deliveryLimit
          s.server m.settings.group topic entry :=
        hjobs (.handle t number event (h :: left) handled) List.mem_cons_self
      exact hevent.mono haccounts
    · intro j hj
      obtain ⟨handled', rfl⟩ := hnext j hj
      rfl
    · intro j hj
      obtain ⟨handled', rfl⟩ := hnext j hj
      rfl

/-- What one job does to an entry. -/
theorem perform_ration (hhandle : handle.OnlyAdds) (hlimit : 1 ≤ m.settings.deliveryLimit)
    (hs : s.server.InOrder m.settings.group) (hsorted : s.server.Sorted m.settings.group topic)
    (hread : s.server.PendingRead m.settings.group topic entry) (j : Job η) :
    Ration m.settings.deliveryLimit m.settings.group topic entry s.server
      (m.perform handle s j).2.server (j.deed? i m handle s) [j]
      (following (m.perform handle s j).1) := by
  cases j with
  | createGroup t =>
    have hserver : (m.perform handle s (.createGroup t)).2.server =
        (s.server.exchange .createGroup (Server.createGroup t m.settings.group)).2 := by
      unfold perform
      dsimp only
      split <;> rfl
    have hfollowing : following (m.perform handle s (.createGroup t)).1 = [] := by
      unfold perform
      dsimp only
      split <;> rfl
    rw [hserver, hfollowing]
    exact .stop (Server.accounts_exchange_quiet (Server.accounts_createGroup t) s.server)
      (Job.hands_of_deed? rfl)
  | readNew => exact ration_of_readNew hlimit hs hread
  | listPending t => exact ration_of_listPending hsorted hread t
  | reclaim t p =>
    by_cases hidle : p.idle < m.settings.reclaimMillis
    · have hperform : m.perform handle s (.reclaim t p) = (.ok {}, s) := by
        simp only [perform, if_pos hidle]
      rw [hperform]
      exact .stop (.of_logs rfl) (Job.hands_of_deed? rfl)
    by_cases hlt : p.deliveries < m.settings.deliveryLimit
    · simp only [perform, if_neg hidle, if_neg (Nat.not_le.mpr hlt)]
      exact ration_of_claim rfl (fun _ => rfl) hlt
    · have hperform : m.perform handle s (.reclaim t p) =
          (.ok { jobs := [.bury t p.entry p.deliveries, .count] }, s) := by
        simp only [perform, if_neg hidle, if_pos (Nat.not_lt.mp hlt)]
      rw [hperform]
      refine .plain (.of_logs rfl) (Job.hands_of_deed? rfl) fun j hj => ?_
      simp only [following, List.flatMap_nil, List.append_nil, List.mem_cons, List.not_mem_nil,
        or_false] at hj
      rcases hj with rfl | rfl <;> exact ⟨rfl, rfl, fun _ => trivial⟩
  | deliver t e n => exact ration_of_deliver t e n
  | handle t number event left handled => exact ration_of_handle hhandle t number event left handled
  | acknowledge t number =>
    refine ration_of_exchange (Server.accounts_acknowledge t number) ?_ rfl
    exact fun _ => List.forall_mem_nil _
  | bury t number n =>
    refine ration_of_exchange (fun s' => .of_logs rfl) ?_ rfl
    intro found j hj
    cases found with
    | none =>
      cases List.mem_singleton.mp hj
      exact ⟨rfl, rfl, fun _ => trivial⟩
    | some e =>
      simp only [following, List.flatMap_nil, List.append_nil, List.mem_cons, List.not_mem_nil,
        or_false] at hj
      rcases hj with rfl | rfl <;> exact ⟨rfl, rfl, fun _ => trivial⟩
  | copy t e n =>
    refine ration_of_exchange (Server.accounts_add _ _) ?_ rfl
    exact fun _ => List.forall_mem_nil _
  | acknowledgeBuried t number =>
    refine ration_of_exchange (Server.accounts_acknowledge t number) ?_ rfl
    exact fun _ => List.forall_mem_nil _
  | count => exact .stop (.of_logs rfl) (Job.hands_of_deed? rfl)

/-- Only a listing leads to claims, and only to one of an entry. -/
theorem perform_tidy {limit : Nat} (hsorted : s.server.Sorted m.settings.group topic) {j : Job η}
    {next : Job.Next η} {s' : Site σ} (h : m.perform handle s j = (.ok next, s')) :
    next.jobs.countP (Job.mayTake limit topic entry) ≤
        [j].countP (Job.mayTake limit topic entry) ∧
      ∀ t ∈ next.tasks, ∀ j ∈ t.jobs, j.mayTake limit topic entry = false := by
  cases j with
  | createGroup t =>
    simp only [perform] at h
    split at h
    · cases h
      exact ⟨Nat.zero_le _, List.forall_mem_nil _⟩
    · cases h
      exact ⟨Nat.zero_le _, List.forall_mem_nil _⟩
    · cases h
  | readNew =>
    obtain ⟨-, read, rfl, -⟩ := Site.of_exchange h
    refine ⟨Nat.zero_le _, fun task htask j hj => ?_⟩
    obtain ⟨t, e, rfl⟩ := mem_deliveriesOf (List.mem_flatMap.mpr ⟨task, htask, hj⟩)
    rfl
  | listPending t =>
    obtain ⟨-, reports, rfl, s₁, hlogs, hlist⟩ := Site.of_exchange h
    refine ⟨?_, List.forall_mem_nil _⟩
    by_cases ht : t = topic
    · subst ht
      have hsorted₁ : s₁.Sorted m.settings.group t := by
        unfold Server.Sorted
        rw [Server.group?_congr hlogs]
        exact hsorted
      have honce := Server.count_listPending_le hlist hsorted₁ entry
      have hlisting : [Job.listPending (η := η) t].countP (Job.mayTake limit t entry) = 1 := by
        simp [Job.mayTake]
      rw [List.count_eq_countP, List.countP_map] at honce
      rw [hlisting, List.countP_map]
      refine Nat.le_trans (List.countP_mono_left fun p _ hp => ?_) honce
      have hentry : t = t ∧ p.entry = entry ∧ p.deliveries < limit := of_decide_eq_true hp
      exact beq_iff_eq.mpr hentry.2.1
    · refine Nat.le_trans (Nat.le_of_eq (List.countP_eq_zero.mpr fun j hj => ?_)) (Nat.zero_le _)
      obtain ⟨p, -, rfl⟩ := List.mem_map.mp hj
      exact fun hp => ht (of_decide_eq_true hp).1
  | reclaim t p =>
    have hplain {jobs : List (Job η)}
        (hjobs : ∀ j ∈ jobs, j.mayTake limit topic entry = false) :
        jobs.countP (Job.mayTake limit topic entry) ≤
          [Job.reclaim (η := η) t p].countP (Job.mayTake limit topic entry) :=
      Nat.le_trans (Nat.le_of_eq (countP_of_none hjobs)) (Nat.zero_le _)
    simp only [perform] at h
    split at h
    · cases h
      exact ⟨hplain (List.forall_mem_nil _), List.forall_mem_nil _⟩
    · split at h
      · cases h
        refine ⟨hplain ?_, List.forall_mem_nil _⟩
        simp [Job.mayTake, Job.takes]
      · obtain ⟨-, claimed, rfl, -⟩ := Site.of_exchange h
        cases claimed with
        | none => exact ⟨hplain (List.forall_mem_nil _), List.forall_mem_nil _⟩
        | some e =>
          refine ⟨hplain ?_, List.forall_mem_nil _⟩
          simp [Job.mayTake, Job.takes]
  | deliver t e n =>
    simp only [perform] at h
    split at h
    · cases h
      exact ⟨Nat.le_of_eq rfl, List.forall_mem_nil _⟩
    · cases h
      exact ⟨Nat.le_of_eq rfl, List.forall_mem_nil _⟩
  | handle t number event left handled =>
    cases left with
    | nil =>
      cases h
      cases handled <;> exact ⟨Nat.le_of_eq rfl, List.forall_mem_nil _⟩
    | cons h' left =>
      cases h
      exact ⟨Nat.le_of_eq rfl, List.forall_mem_nil _⟩
  | bury t number n =>
    obtain ⟨-, found, rfl, -⟩ := Site.of_exchange h
    cases found <;> exact ⟨Nat.le_of_eq rfl, List.forall_mem_nil _⟩
  | copy t e n | acknowledge t number | acknowledgeBuried t number =>
    obtain ⟨-, -, rfl, -⟩ := Site.of_exchange h
    exact ⟨Nat.le_of_eq rfl, List.forall_mem_nil _⟩
  | count =>
    cases h
    exact ⟨Nat.le_of_eq rfl, List.forall_mem_nil _⟩

end Member

end BookingNotices.Stream
