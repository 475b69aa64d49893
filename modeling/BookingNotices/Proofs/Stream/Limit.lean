import BookingNotices.Proofs.Stream.Ration
import Mathlib.Data.List.Flatten
import Mathlib.Data.List.Perm.Subperm

/-!
# How often an entry is handed over

* `Member.step_ration` : what one step of a consumer does to an entry;
* `Tidy`           : a consumer has at most one claim of an entry to come, and only in the task that
  it has begun;
* `Fleet.Rationed` : the entry was handed over at most as often as the server has delivered it, and
  every claim to come on an old report is accounted for (`Rationed.step`, `Rationed.run`);
* `Fleet.handed_over_lt` : with `n` consumers and a limit of `m`, an entry is handed over less than
  `m + n` times, and no count exceeds the limit or the count of the server;
* `Fleet.rivals_exceed_the_limit` : two consumers can hand an entry over once more than the limit
  says.

A report is old as soon as it is made: until its consumer comes to it, others may claim the entry
as often as the limit allows. But no consumer has two reports of one entry, and no new report is
below the limit once the limit is reached.
-/

namespace BookingNotices.Stream

variable {σ η : Type} {limit : Nat} {group topic : String} {entry : Nat}

/-! ## Jobs that stay -/

section Rest

variable {s s' : Server} {deed? : Option (Deed η)} {jobs jobs' rest before after : List (Job η)}

theorem handed_append (deeds : List (Deed η)) (jobs rest : List (Job η)) :
    handed topic entry deeds (jobs ++ rest) =
      handed topic entry deeds jobs + handed topic entry [] rest := by
  unfold handed
  rw [List.countP_append, List.countP_nil]
  omega

theorem due_append (jobs rest : List (Job η)) :
    due limit topic entry (jobs ++ rest) =
      due limit topic entry jobs + due limit topic entry rest :=
  List.countP_append

/-- Jobs that stay, or are given up, change nothing. -/
theorem Ration.frame (h : Ration limit group topic entry s s' deed? jobs jobs')
    (hbefore : before.Perm (jobs ++ rest)) (hafter : after.Subperm (jobs' ++ rest)) :
    Ration limit group topic entry s s' deed? before after := by
  obtain ⟨made, haccounts, hmade⟩ := h.accounts
  have hhandedBefore : handed topic entry [] before =
      handed topic entry [] jobs + handed topic entry [] rest := by
    rw [← handed_append]
    exact congrArg (_ + ·) (hbefore.countP_eq _)
  have hdueBefore : due limit topic entry before =
      due limit topic entry jobs + due limit topic entry rest := by
    rw [← due_append]
    exact hbefore.countP_eq _
  have hhandedAfter : handed topic entry deed?.toList after ≤
      handed topic entry deed?.toList jobs' + handed topic entry [] rest := by
    rw [← handed_append]
    exact Nat.add_le_add_left (hafter.countP_le _) _
  have hdueAfter : due limit topic entry after ≤
      due limit topic entry jobs' + due limit topic entry rest := by
    rw [← due_append]
    exact hafter.countP_le _
  refine ⟨?_, ⟨made, haccounts, by omega⟩, ?_⟩
  · intro hhonest j hj
    have hhonest : ∀ x ∈ jobs ++ rest, x.Honest limit s group topic entry :=
      fun x hx => hhonest x (hbefore.mem_iff.mpr hx)
    rcases List.mem_append.mp (hafter.subset hj) with hj | hj
    · exact h.honest (fun x hx => hhonest x (List.mem_append_left _ hx)) j hj
    · exact (hhonest j (List.mem_append_right _ hj)).mono haccounts
  · rcases h.bounded with hle | ⟨hunread, hle, hduele⟩ | ⟨hle, hfew⟩
    · exact .inl (by omega)
    · exact .inr (.inl ⟨hunread, by omega, by omega⟩)
    · exact .inr (.inr ⟨by omega, hfew⟩)

/-- When nothing is done, nothing happens. -/
theorem Ration.idle (s : Server) :
    Ration limit group topic entry s s (none : Option (Deed η)) [] [] :=
  .plain (.of_logs rfl) (fun _ hd => nomatch hd) nofun

end Rest

/-! ## What was done before -/

section History

variable {s s' : Server} {deed? : Option (Deed η)} {jobs jobs' : List (Job η)}
  {history : List (Deed η)}

theorem handed_history (topic : String) (entry : Nat) (history deeds : List (Deed η))
    (jobs : List (Job η)) :
    handed topic entry (history ++ deeds) jobs =
      history.countP (Deed.hands topic entry) + handed topic entry deeds jobs := by
  unfold handed
  rw [List.countP_append, Nat.add_assoc]

theorem handed_eq (topic : String) (entry : Nat) (history : List (Deed η)) (jobs : List (Job η)) :
    handed topic entry history jobs =
      history.countP (Deed.hands topic entry) + handed topic entry [] jobs := by
  rw [← handed_history, List.append_nil]

/-- If every hand-over had its delivery, it still has. -/
theorem Ration.counted (h : Ration limit group topic entry s s' deed? jobs jobs')
    (hread : s.PendingRead group topic entry)
    (hcounted : 0 < handed topic entry history jobs →
      s.Counted group topic entry (handed topic entry history jobs))
    (hsome : 0 < handed topic entry (history ++ deed?.toList) jobs') :
    s'.Counted group topic entry (handed topic entry (history ++ deed?.toList) jobs') := by
  obtain ⟨made, haccounts, hmade⟩ := h.accounts
  have hbefore := handed_eq topic entry history jobs
  have hafter := handed_history topic entry history deed?.toList jobs'
  rcases Nat.eq_zero_or_pos (handed topic entry history jobs) with hnone | hearlier
  · have hone := haccounts.le_one
    obtain rfl : made = 1 := by omega
    exact (haccounts.counted_one hread).mono (by omega)
  · exact (haccounts.counted (hcounted hearlier)).mono (by omega)

/-- If there was room for a claim of each of `n` consumers, there still is. -/
theorem Ration.bounded_add (h : Ration limit group topic entry s s' deed? jobs jobs')
    (hlimit : 1 ≤ limit) {n : Nat} (hn : 0 < n) (hread : s.PendingRead group topic entry)
    (hhonest : ∀ j ∈ jobs, j.Honest limit s group topic entry)
    (hcounted : 0 < handed topic entry history jobs →
      s.Counted group topic entry (handed topic entry history jobs))
    (hdue : due limit topic entry jobs' ≤ n)
    (hbounded : handed topic entry history jobs + due limit topic entry jobs < limit + n) :
    handed topic entry (history ++ deed?.toList) jobs' + due limit topic entry jobs' <
      limit + n := by
  have hbefore := handed_eq topic entry history jobs
  have hafter := handed_history topic entry history deed?.toList jobs'
  rcases h.bounded with hle | ⟨hunread, hle, hduele⟩ | ⟨hle, count, hlt, hcount⟩
  · omega
  · -- nothing was known of the entry
    have hnone : handed topic entry history jobs = 0 := by
      refine Nat.eq_zero_of_not_pos fun hsome => ?_
      exact (hcounted hsome).1 hunread
    have hnodue : due limit topic entry jobs = 0 := by
      refine due_of_plain fun j hj => Bool.eq_false_iff.mpr fun htakes => ?_
      exact (hhonest j hj).not_unread (.inr htakes) hunread
    omega
  · -- the server has delivered the entry less often than the limit says
    rcases Nat.eq_zero_or_pos (handed topic entry (history ++ deed?.toList) jobs') with
      hnone | hsome
    · omega
    · have hfew := (h.counted hread hcounted hsome).2 count hcount
      omega

end History

/-! ## Steps of a consumer -/

namespace Member

/-- All that a consumer has to do. -/
def work (m : Member η) : List (Job η) := m.tasks.flatMap fun t => t.jobs

end Member

/-- A consumer has at most one claim of an entry to come, counting the listings that may lead to
one, in the task that it has begun, and none in the others. -/
structure Tidy (limit : Nat) (topic : String) (entry : Nat) (tasks : List (Task η)) : Prop where
  once : ∀ t ∈ tasks, t.jobs.countP (Job.mayTake limit topic entry) ≤ 1
  fresh : ∀ t ∈ tasks.tail, ∀ j ∈ t.jobs, j.takes limit topic entry = false

section Tidy

variable {tasks : List (Task η)}

theorem Job.mayTake_of_takes {j : Job η} (h : j.takes limit topic entry = true) :
    j.mayTake limit topic entry = true := by
  cases j with
  | reclaim t p => exact h
  | _ => cases h

theorem Job.takes_eq_false {j : Job η} (h : j.mayTake limit topic entry = false) :
    j.takes limit topic entry = false :=
  Bool.eq_false_iff.mpr fun htakes => Bool.eq_false_iff.mp h (mayTake_of_takes htakes)

theorem Tidy.tail (h : Tidy limit topic entry tasks) : Tidy limit topic entry tasks.tail :=
  ⟨fun t ht => h.once t (List.mem_of_mem_tail ht),
    fun t ht => h.fresh t (List.mem_of_mem_tail ht)⟩

theorem Tidy.concat (h : Tidy limit topic entry tasks) {t : Task η}
    (honce : t.jobs.countP (Job.mayTake limit topic entry) ≤ 1)
    (hfresh : ∀ j ∈ t.jobs, j.takes limit topic entry = false) :
    Tidy limit topic entry (tasks ++ [t]) := by
  constructor
  · intro t' ht'
    rcases List.mem_append.mp ht' with ht' | ht'
    · exact h.once t' ht'
    · rw [List.mem_singleton.mp ht']
      exact honce
  · intro t' ht'
    cases tasks with
    | nil => cases ht'
    | cons first tasks =>
      rcases List.mem_append.mp ht' with ht' | ht'
      · exact h.fresh t' ht'
      · rw [List.mem_singleton.mp ht']
        exact hfresh

/-- A tidy consumer has at most one claim of an entry to come. -/
theorem Tidy.due_le (h : Tidy limit topic entry tasks) :
    due limit topic entry (tasks.flatMap fun t => t.jobs) ≤ 1 := by
  cases tasks with
  | nil => exact Nat.zero_le 1
  | cons first tasks =>
    have hrest : due limit topic entry (tasks.flatMap fun t => t.jobs) = 0 := by
      refine due_of_plain fun j hj => ?_
      obtain ⟨t, ht, hj⟩ := List.mem_flatMap.mp hj
      exact h.fresh t ht j hj
    have hfirst : due limit topic entry first.jobs ≤ 1 :=
      Nat.le_trans (List.countP_mono_left fun j _ => Job.mayTake_of_takes)
        (h.once first List.mem_cons_self)
    rw [List.flatMap_cons, due_append]
    omega

end Tidy

namespace Member

variable {m : Member η} {handle : Handle σ η} {s : Site σ} {i : Nat}

/-- What one step of a consumer does to an entry. -/
theorem step_ration (hhandle : handle.OnlyAdds) (hlimit : 1 ≤ m.settings.deliveryLimit)
    (hs : s.server.InOrder m.settings.group) (hsorted : s.server.Sorted m.settings.group topic)
    (hread : s.server.PendingRead m.settings.group topic entry) :
    Ration m.settings.deliveryLimit m.settings.group topic entry s.server
      (m.step handle s).2.server (m.deed? i handle s) m.work (m.step handle s).1.work := by
  obtain ⟨hdeed, hserver, htasks⟩ | ⟨_, job, jobs, _, tasks, hm, hdeed, hserver, hnext⟩ :=
    m.step_cases handle s i
  · rw [hdeed, hserver]
    unfold work
    rw [htasks]
    refine (Ration.idle s.server).frame (.refl _) (List.Sublist.subperm ?_)
    exact (List.tail_sublist m.tasks).flatMap _
  · have hjob := perform_ration (i := i) hhandle hlimit hs hsorted hread job
    have hwork : m.work = [job] ++ (jobs ++ tasks.flatMap fun t => t.jobs) := by
      unfold work
      rw [hm]
      rfl
    rw [hdeed, hserver, hwork]
    unfold work
    refine hjob.frame (.refl _) ?_
    rcases hnext with hfailed | ⟨next, hdone, hnext⟩
    · rw [hfailed]
      exact ((List.sublist_append_right jobs _).trans (List.sublist_append_right _ _)).subperm
    · rw [hnext, hdone, List.flatMap_cons, List.flatMap_append, following, List.append_assoc,
        List.append_assoc]
      -- the new tasks come after the rest of this one
      refine (List.Perm.append_left _ ?_).subperm
      rw [← List.append_assoc, ← List.append_assoc]
      exact List.perm_append_comm.append_right _

/-- A step leaves a consumer tidy. -/
theorem tidy_step (hsorted : s.server.Sorted m.settings.group topic)
    (h : Tidy limit topic entry m.tasks) :
    Tidy limit topic entry (m.step handle s).1.tasks := by
  obtain ⟨-, -, htasks⟩ | ⟨_, job, jobs, _, tasks, hm, -, -, hnext⟩ := m.step_cases handle s 0
  · rw [htasks]
    exact h.tail
  rw [hm] at h
  rcases hnext with hfailed | ⟨next, hdone, hnext⟩
  · rw [hfailed]
    exact h.tail
  · have hperform : m.perform handle s job = (.ok next, (m.perform handle s job).2) :=
      Prod.ext hdone rfl
    obtain ⟨hjobs, hnew⟩ : next.jobs.countP (Job.mayTake limit topic entry) ≤
          [job].countP (Job.mayTake limit topic entry) ∧
        ∀ t ∈ next.tasks, ∀ j ∈ t.jobs, j.mayTake limit topic entry = false :=
      perform_tidy hsorted hperform
    have honce := h.once _ List.mem_cons_self
    rw [← List.singleton_append, List.countP_append] at honce
    rw [hnext]
    constructor
    · intro t ht
      rcases List.mem_cons.mp ht with rfl | ht
      · rw [List.countP_append]
        omega
      · rcases List.mem_append.mp ht with ht | ht
        · rw [countP_of_none (hnew t ht)]
          exact Nat.zero_le 1
        · exact h.once t (List.mem_cons_of_mem _ ht)
    · intro t ht j hj
      rcases List.mem_append.mp ht with ht | ht
      · exact Job.takes_eq_false (hnew t ht j hj)
      · exact h.fresh t ht j hj

end Member

/-! ## Fleets -/

/-- How often an entry was delivered, by what its handlers are told. -/
def Job.told? : Job η → Option (String × Nat × Option UInt32)
  | .handle topic entry event _ _ => some (topic, entry, event.metadata.deliveries)
  | _ => none

namespace Fleet

/-- All that the consumers have to do. -/
def work (f : Fleet σ η) : List (Job η) := f.members.flatMap Member.work

/-- Every hand-over of the entry, done or about to be done, has its delivery; and those below the
limit leave room for one old report of every consumer. -/
structure Rationed (limit : Nat) (group topic : String) (entry : Nat) (f : Fleet σ η) : Prop where
  inOrder : f.site.server.InOrder group
  sorted : f.site.server.Sorted group topic
  pendingRead : f.site.server.PendingRead group topic entry
  members : ∀ m ∈ f.members, m.settings.group = group ∧ m.settings.deliveryLimit = limit ∧
    Tidy limit topic entry m.tasks
  honest : ∀ j ∈ f.work, j.Honest limit f.site.server group topic entry
  counted : 0 < handed topic entry f.history f.work →
    f.site.server.Counted group topic entry (handed topic entry f.history f.work)
  bounded : handed topic entry f.history f.work + due limit topic entry f.work <
    limit + f.members.length

section Rationed

variable {handle : Handle σ η} {f : Fleet σ η}

/-- Every consumer has at most one claim to come. -/
theorem due_le_length {members : List (Member η)}
    (h : ∀ m ∈ members, Tidy limit topic entry m.tasks) :
    due limit topic entry (members.flatMap Member.work) ≤ members.length := by
  induction members with
  | nil => exact Nat.zero_le 0
  | cons m members ih =>
    obtain ⟨hm, hmembers⟩ := List.forall_mem_cons.mp h
    have hfirst : due limit topic entry m.work ≤ 1 := hm.due_le
    have hrest := ih hmembers
    rw [List.flatMap_cons, due_append, List.length_cons]
    omega

/-- One consumer does something, or gets other tasks. -/
theorem Rationed.replace (hlimit : 1 ≤ limit) (h : f.Rationed limit group topic entry)
    {before after : List (Member η)} {m m' : Member η} (hmembers : f.members = before ++ m :: after)
    {site : Site σ} {deed? : Option (Deed η)} (hinOrder : site.server.InOrder group)
    (hration : Ration limit group topic entry f.site.server site.server deed? m.work m'.work)
    (hsettings : m'.settings = m.settings) (htidy : Tidy limit topic entry m'.tasks) :
    Rationed limit group topic entry
      ⟨site, before ++ m' :: after, f.history ++ deed?.toList⟩ := by
  have hperm (x : Member η) : ((before ++ x :: after).flatMap Member.work).Perm
      (x.work ++ (before ++ after).flatMap Member.work) :=
    List.perm_middle.flatMap_right Member.work
  have hold : f.work.Perm (m.work ++ (before ++ after).flatMap Member.work) := by
    unfold work
    rw [hmembers]
    exact hperm m
  have hlength : (before ++ m' :: after).length = f.members.length := by
    rw [hmembers, List.length_append, List.length_append, List.length_cons, List.length_cons]
  have hpos : 0 < f.members.length := by
    rw [hmembers]
    exact List.length_pos_of_mem (List.mem_append_right _ List.mem_cons_self)
  have hall : ∀ x ∈ before ++ m' :: after, x.settings.group = group ∧
      x.settings.deliveryLimit = limit ∧ Tidy limit topic entry x.tasks := by
    have hwas := hmembers ▸ h.members
    intro x hx
    rcases List.mem_append.mp hx with hx | hx
    · exact hwas x (List.mem_append_left _ hx)
    · rcases List.mem_cons.mp hx with rfl | hx
      · obtain ⟨hgroup, hlimit, -⟩ := hwas m (List.mem_append_right _ List.mem_cons_self)
        exact ⟨hsettings ▸ hgroup, hsettings ▸ hlimit, htidy⟩
      · exact hwas x (List.mem_append_right _ (List.mem_cons_of_mem _ hx))
  have hdue := due_le_length fun x hx => (hall x hx).2.2
  rw [hlength] at hdue
  have hfleet := hration.frame hold (hperm m').subperm
  obtain ⟨made, haccounts, -⟩ := hfleet.accounts
  have hcounted := hfleet.counted h.pendingRead h.counted
  have hbounded := hfleet.bounded_add hlimit hpos h.pendingRead h.honest h.counted hdue h.bounded
  rw [← hlength] at hbounded
  exact ⟨hinOrder, haccounts.sorted h.sorted, haccounts.pendingRead h.pendingRead, hall,
    hfleet.honest h.honest, hcounted, hbounded⟩

/-- A consumer gets other tasks. -/
theorem Rationed.modify (hlimit : 1 ≤ limit) (h : f.Rationed limit group topic entry) (i : Nat)
    {change : Member η → Member η}
    (hchange : ∀ m, (change m).settings = m.settings ∧
      (Tidy limit topic entry m.tasks → Tidy limit topic entry (change m).tasks) ∧
      Ration limit group topic entry f.site.server f.site.server (none : Option (Deed η)) m.work
        (change m).work) :
    Rationed limit group topic entry { f with members := f.members.modify i change } := by
  by_cases hi : i < f.members.length
  · obtain ⟨before, m, after, hmembers, -, hmodify⟩ := List.exists_of_modify change hi
    obtain ⟨hsettings, htidy, hration⟩ := hchange m
    have hm : m ∈ f.members := hmembers ▸ List.mem_append_right _ List.mem_cons_self
    have hnext := h.replace hlimit hmembers h.inOrder hration hsettings
      (htidy (h.members m hm).2.2)
    rw [Option.toList_none, List.append_nil] at hnext
    rw [hmodify]
    exact hnext
  · rw [List.modify_eq_self (Nat.le_of_not_lt hi)]
    exact h

/-- A consumer begins with something that asks the server for entries. -/
theorem Rationed.assign (hlimit : 1 ≤ limit) (h : f.Rationed limit group topic entry) (i : Nat)
    {change : Member η → Member η}
    (hchange : ∀ m, change m = m ∨ ∃ task : Task η,
      change m = { m with tasks := m.tasks ++ [task] } ∧
      task.jobs.countP (Job.mayTake limit topic entry) ≤ 1 ∧
      ∀ j ∈ task.jobs, j.Plain limit group topic entry) :
    Rationed limit group topic entry { f with members := f.members.modify i change } := by
  refine h.modify hlimit i fun m => ?_
  rcases hchange m with hsame | ⟨task, hnew, honce, hplain⟩
  · rw [hsame]
    exact ⟨rfl, id, (Ration.idle f.site.server).frame (.refl _) (List.Subperm.refl _)⟩
  · rw [hnew]
    refine ⟨rfl, fun htidy => htidy.concat honce fun j hj => (hplain j hj).takes, ?_⟩
    have hbegins : Ration limit group topic entry f.site.server f.site.server
        (none : Option (Deed η)) [] task.jobs :=
      .plain (.of_logs rfl) (fun _ hd => nomatch hd) hplain
    refine hbegins.frame (.refl _) (List.Perm.subperm ?_)
    unfold Member.work
    rw [List.flatMap_append, List.flatMap_singleton]
    exact List.perm_append_comm

/-- Others add entries, or time passes. -/
theorem Rationed.grow (h : f.Rationed limit group topic entry) {server : Server}
    (hgrows : f.site.server.Grows server) :
    Rationed limit group topic entry { f with site := { f.site with server := server } } := by
  have hcarries : f.site.server.Carries group (fun _ _ => False) server := hgrows.carries
  have haccounts : f.site.server.Accounts group topic entry server 0 := hgrows.accounts
  refine ⟨hcarries.inOrder h.inOrder, haccounts.sorted h.sorted,
    haccounts.pendingRead h.pendingRead, h.members, fun j hj => (h.honest j hj).mono haccounts,
    fun hsome => haccounts.counted (h.counted hsome), h.bounded⟩

/-- A consumer does its next thing. -/
theorem Rationed.advance (hhandle : handle.OnlyAdds) (hlimit : 1 ≤ limit)
    (h : f.Rationed limit group topic entry) (i : Nat) :
    (f.step handle (.advance i)).Rationed limit group topic entry := by
  unfold step
  dsimp only
  split
  · exact h
  · rename_i m hm
    obtain ⟨hi, rfl⟩ := List.getElem?_eq_some_iff.mp hm
    obtain ⟨before, after, hmembers, -, hset⟩ :=
      @List.exists_of_set _ i (f.members[i].step handle f.site).1 f.members hi
    obtain ⟨rfl, rfl, htidy⟩ := h.members _ (List.getElem_mem hi)
    have hcarries := Member.carries_step (m := f.members[i]) (s := f.site) (i := i) hhandle
    rw [hset]
    exact h.replace hlimit hmembers (hcarries.inOrder h.inOrder)
      (Member.step_ration hhandle hlimit h.inOrder h.sorted h.pendingRead)
      (f.members[i].step_unchanged handle f.site).1 (Member.tidy_step h.sorted htidy)

theorem Rationed.step (hhandle : handle.OnlyAdds) (hlimit : 1 ≤ limit)
    (h : f.Rationed limit group topic entry) (move : Move) :
    (f.step handle move).Rationed limit group topic entry := by
  cases move with
  | read i =>
    refine h.assign hlimit i fun m => ?_
    unfold Member.reading
    split
    · exact .inl rfl
    · refine .inr ⟨_, rfl, ?_, fun j hj => ?_⟩
      · rw [countP_of_none]
        · exact Nat.zero_le 1
        · intro j hj
          rcases List.mem_append.mp hj with hj | hj
          · obtain ⟨t, -, rfl⟩ := List.mem_map.mp hj
            rfl
          · cases List.mem_singleton.mp hj
            rfl
      · rcases List.mem_append.mp hj with hj | hj
        · obtain ⟨t, -, rfl⟩ := List.mem_map.mp hj
          exact ⟨rfl, rfl, fun _ => trivial⟩
        · cases List.mem_singleton.mp hj
          exact ⟨rfl, rfl, fun _ => trivial⟩
  | poll i =>
    refine h.assign hlimit i fun m => ?_
    unfold Member.polling
    split
    · exact .inl rfl
    · refine .inr ⟨_, rfl, List.countP_le_length, fun j hj => ?_⟩
      cases List.mem_singleton.mp hj
      exact ⟨rfl, rfl, fun _ => trivial⟩
  | reclaim i t =>
    refine h.assign hlimit i fun m => ?_
    unfold Member.tending
    split
    · refine .inr ⟨_, rfl, List.countP_le_length, fun j hj => ?_⟩
      cases List.mem_singleton.mp hj
      exact ⟨rfl, rfl, fun _ => trivial⟩
    · exact .inl rfl
  | advance i => exact h.advance hhandle hlimit i
  | breakOff i =>
    refine h.modify hlimit i fun m => ⟨rfl, Tidy.tail, ?_⟩
    refine (Ration.idle f.site.server).frame (.refl _) (List.Sublist.subperm ?_)
    exact (List.tail_sublist m.tasks).flatMap _
  | add t fields => exact h.grow (.add t fields (.still rfl))
  | wait millis => exact h.grow (.still rfl)

theorem Rationed.run (hhandle : handle.OnlyAdds) (hlimit : 1 ≤ limit)
    (h : f.Rationed limit group topic entry) (moves : List Move) :
    (f.run handle moves).Rationed limit group topic entry := by
  induction moves generalizing f with
  | nil => exact h
  | cons move moves ih => exact ih (h.step hhandle hlimit move)

/-- Consumers that have nothing to do yet, with a server that has no entries. -/
theorem Rationed.begin (hlimit : 1 ≤ limit) {site : Site σ} (hsite : site.server.logs = [])
    {members : List (Member η)} (hmembers : ∀ m ∈ members, m.settings.group = group ∧
      m.settings.deliveryLimit = limit ∧ m.tasks = []) :
    Rationed limit group topic entry ⟨site, members, []⟩ := by
  have hempty (t : String) : site.server.log t = {} := by
    unfold Server.log
    rw [hsite]
    rfl
  have hnone : site.server.group? topic group = none := by
    unfold Server.group?
    rw [hempty]
    rfl
  have hwork : work ⟨site, members, []⟩ = [] := by
    refine List.flatMap_eq_nil_iff.mpr fun m hm => ?_
    unfold Member.work
    rw [(hmembers m hm).2.2]
    rfl
  refine ⟨fun t => hempty t ▸ .empty group, ?_, ?_, ?_, ?_, ?_, ?_⟩
  · intro g hg
    cases hnone.symm.trans hg
  · intro n hn
    unfold Server.deliveries? at hn
    rw [hnone] at hn
    cases hn
  · intro m hm
    obtain ⟨hgroup, hlimit, htasks⟩ := hmembers m hm
    exact ⟨hgroup, hlimit, htasks ▸ ⟨nofun, nofun⟩⟩
  · rw [hwork]
    exact nofun
  · rw [hwork]
    exact fun hsome => absurd hsome (Nat.lt_irrefl 0)
  · rw [hwork]
    exact Nat.lt_of_lt_of_le hlimit (Nat.le_add_right limit members.length)

end Rationed

/-- No consumer comes or goes. -/
theorem length_run (handle : Handle σ η) (f : Fleet σ η) (moves : List Move) :
    (f.run handle moves).members.length = f.members.length := by
  have hstep (f : Fleet σ η) (move : Move) :
      (f.step handle move).members.length = f.members.length := by
    cases move with
    | advance i =>
      unfold step
      dsimp only
      split
      · rfl
      · exact List.length_set
    | read i | poll i | reclaim i topic | breakOff i => exact List.length_modify _ _ _
    | add topic fields | wait millis => rfl
  induction moves generalizing f with
  | nil => rfl
  | cons move moves ih => exact (ih (f.step handle move)).trans (hstep f move)

/-! ## The limit -/

/-- Of `n` consumers an entry is handed over less than `limit + n` times, whatever they do, in
whatever order, and whichever commands and handlers fail; as long as it is pending, every hand-over
has a delivery of its own. The handlers are told of no more deliveries than the limit says, and of
no more than there were. -/
theorem handed_over_lt {handle : Handle σ η} (hhandle : handle.OnlyAdds) {group : String}
    {limit : Nat} (hlimit : 1 ≤ limit) {site : Site σ} (hsite : site.server.logs = [])
    {members : List (Member η)} (hmembers : ∀ m ∈ members, m.settings.group = group ∧
      m.settings.deliveryLimit = limit ∧ m.tasks = [])
    (moves : List Move) (topic : String) (entry : Nat) :
    let f := (⟨site, members, []⟩ : Fleet σ η).run handle moves
    f.history.countP (Deed.hands topic entry) < limit + members.length ∧
    (∀ n, f.site.server.deliveries? group topic entry = some n →
      f.history.countP (Deed.hands topic entry) ≤ n) ∧
    ∀ told, (topic, entry, told) ∈ f.work.filterMap Job.told? → ∃ count,
      told = some (UInt32.ofNat count) ∧ count ≤ limit ∧
      ∀ n, f.site.server.deliveries? group topic entry = some n → count ≤ n := by
  intro f
  have h : f.Rationed limit group topic entry :=
    (Rationed.begin hlimit hsite hmembers).run hhandle hlimit moves
  have hlength : f.members.length = members.length := length_run handle _ moves
  have hhanded : f.history.countP (Deed.hands topic entry) ≤
      handed topic entry f.history f.work := Nat.le_add_right _ _
  refine ⟨?_, fun n hn => ?_, fun told htold => ?_⟩
  · have hbounded := h.bounded
    omega
  · rcases Nat.eq_zero_or_pos (handed topic entry f.history f.work) with hnone | hsome
    · omega
    · exact Nat.le_trans hhanded ((h.counted hsome).2 n hn)
  · obtain ⟨j, hj, hjob⟩ := List.mem_filterMap.mp htold
    cases j with
    | handle t e event left handled =>
      cases hjob
      obtain ⟨count, hcount, hle, hcounted⟩ := h.honest _ hj rfl rfl
      exact ⟨count, hcount, hle, hcounted.2⟩
    | _ => cases hjob

/-- A handler that always fails. -/
def refusing : Handle Unit String := fun name _ s => (.error ⟨.channelError, name, []⟩, s)

/-- A server on which every command is done. -/
def calm : Site Unit where
  clock := .constant default
  outside := ()

/-- Two consumers that hand an entry over twice at most. -/
def rivals : List (Member String) :=
  [{ settings := { deliveryLimit := 2 }, subscriptions := [("booking", "mail")] },
    { settings := { consumer := "notification_service-2", deliveryLimit := 2 }
      subscriptions := [("booking", "mail")] }]

/-- The first consumer reads two events. When it has listed them to take them up again, and is busy
with the first one, the second consumer takes up the other; then the first one comes to it. -/
def rivalry : List Move :=
  [.add "booking" (.ofTexts [("payload", "1")]), .add "booking" (.ofTexts [("payload", "2")]),
    .read 0] ++ List.replicate 11 (.advance 0) ++
  [.wait 60000, .reclaim 0 "booking"] ++ List.replicate 3 (.advance 0) ++
  [.reclaim 1 "booking"] ++ List.replicate 6 (.advance 1) ++
  [.wait 60000] ++ List.replicate 5 (.advance 0)

/-- The second event is handed over three times, and the third time its handler is told of two
deliveries. -/
theorem rivals_exceed_the_limit :
    (∀ m ∈ rivals, m.settings.deliveryLimit = 2) ∧
    let f := (⟨calm, rivals, []⟩ : Fleet Unit String).run refusing rivalry
    f.history.countP (Deed.hands "booking" 2) = 3 ∧
    f.site.server.deliveries? "notification_service" "booking" 2 = some 3 ∧
    f.work.filterMap Job.told? = [("booking", 2, some 2)] := by
  decide +kernel

/-- Of two consumers an event is handed over three times at most. -/
theorem rivals_stay_in_bounds :
    refusing.OnlyAdds ∧ 1 ≤ 2 ∧ calm.server.logs = [] ∧
    (∀ m ∈ rivals, m.settings.group = "notification_service" ∧ m.settings.deliveryLimit = 2 ∧
      m.tasks = []) ∧
    let f := (⟨calm, rivals, []⟩ : Fleet Unit String).run refusing rivalry
    f.history.countP (Deed.hands "booking" 2) < 2 + rivals.length ∧
    (∀ n, f.site.server.deliveries? "notification_service" "booking" 2 = some n →
      f.history.countP (Deed.hands "booking" 2) ≤ n) ∧
    ∀ told, ("booking", 2, told) ∈ f.work.filterMap Job.told? → ∃ count,
      told = some (UInt32.ofNat count) ∧ count ≤ 2 ∧
      ∀ n, f.site.server.deliveries? "notification_service" "booking" 2 = some n → count ≤ n := by
  have hrefusing : refusing.OnlyAdds := fun _ _ _ => .still rfl
  have hrivals : ∀ m ∈ rivals, m.settings.group = "notification_service" ∧
      m.settings.deliveryLimit = 2 ∧ m.tasks = [] := by
    intro m hm
    simp only [rivals, List.mem_cons, List.not_mem_nil, or_false] at hm
    rcases hm with rfl | rfl <;> exact ⟨rfl, rfl, rfl⟩
  have htwo : 1 ≤ 2 := by decide
  exact ⟨hrefusing, htwo, rfl, hrivals,
    handed_over_lt hrefusing htwo rfl hrivals rivalry "booking" 2⟩

end Fleet

end BookingNotices.Stream
