import BookingNotices.Proofs.Table
import BookingNotices.Proofs.Stream.Fleet

/-!
# What the commands of a server keep

* `Log.Awaits`        : an entry is to be handed to a group, or is pending in it;
* `Log.InOrder`       : the entries of a log have increasing numbers, and what a group has handed
  over, or has pending, are entries of the log;
* `Log.Carries`       : a log only grows and stays in order, and goes on to await what it awaits,
  up to what is settled; so does a new entry;
* `Server.Carries`    : so do all logs of a server (`carries_createGroup`, `carries_add`, ...);
* `Server.Grows`      : entries are added, and nothing else happens to the logs (`Grows.carries`);
  so it may be with handlers (`Handle.OnlyAdds`, `Site.grows_publish`);
* `exchange_cases`    : a command is done, or it is not, and then it is not answered.

Only an acknowledgement settles anything. A read hands over a first part of what a group has not
handed over yet, so that the rest still comes after its last entry.
-/

namespace BookingNotices.Stream

/-! ## Logs -/

namespace Log

/-- An entry is to be handed to the group, or is pending in it. -/
def Awaits (l : Log) (group : String) (number : Nat) : Prop :=
  ∀ g, l.groups.find? group = some g → g.last < number ∨ (g.pending.find? number).isSome = true

/-- The entries have increasing numbers, and the group knows no others. -/
structure InOrder (group : String) (l : Log) : Prop where
  increasing : l.entries.Pairwise fun a b => a.number < b.number
  numbered : ∀ e ∈ l.entries, 0 < e.number ∧ e.number ≤ l.added
  last : ∀ g, l.groups.find? group = some g → g.last ≤ l.added
  pending : ∀ g, l.groups.find? group = some g → ∀ number,
    (g.pending.find? number).isSome = true → ∃ e ∈ l.entries, e.number = number

theorem InOrder.empty (group : String) : InOrder group {} :=
  ⟨List.Pairwise.nil, (fun _ h => nomatch h), (fun _ h => nomatch h), fun _ h => nomatch h⟩

/-- A log only grows and stays in order, and goes on to await what it awaits, up to what is settled.
So does a new entry. -/
structure Carries (group : String) (settled : Nat → Prop) (l l' : Log) : Prop where
  inOrder : l.InOrder group → l'.InOrder group
  entries : l.entries <+: l'.entries
  awaits : l.InOrder group → ∀ e ∈ l'.entries, (e ∈ l.entries → l.Awaits group e.number) →
    l'.Awaits group e.number ∨ settled e.number

section Carries

variable {group : String} {settled : Nat → Prop}

theorem Carries.refl (l : Log) : l.Carries group settled l :=
  ⟨id, List.prefix_refl _, fun _ _ he h => Or.inl (h he)⟩

theorem Carries.trans {a b c : Log} (h₁ : a.Carries group settled b)
    (h₂ : b.Carries group settled c) : a.Carries group settled c := by
  refine ⟨fun h => h₂.inOrder (h₁.inOrder h), h₁.entries.trans h₂.entries, fun h e he hold => ?_⟩
  by_cases hsettled : settled e.number
  · exact Or.inr hsettled
  · refine h₂.awaits (h₁.inOrder h) e he fun he' => ?_
    exact (h₁.awaits h e he' hold).resolve_right hsettled

theorem Carries.mono {settled' : Nat → Prop} (hsettled : ∀ n, settled n → settled' n) {l l' : Log}
    (h : l.Carries group settled l') : l.Carries group settled' l' :=
  ⟨h.inOrder, h.entries, fun hl e he hold => (h.awaits hl e he hold).imp_right (hsettled _)⟩

/-- A new entry has the next number, so no group has handed it over. -/
theorem carries_add (l : Log) (fields : Fields) : l.Carries group settled
    { l with entries := l.entries ++ [⟨l.added + 1, fields⟩], added := l.added + 1 } := by
  refine ⟨fun h => ⟨?_, fun e he => ?_, fun g hg => Nat.le_succ_of_le (h.last g hg),
    fun g hg number hpending => ?_⟩, List.prefix_append _ _, fun h e he hold => Or.inl ?_⟩
  · refine List.pairwise_append.mpr ⟨h.increasing, List.pairwise_singleton _ _, fun a ha b hb => ?_⟩
    rw [List.mem_singleton.mp hb]
    exact Nat.lt_succ_of_le (h.numbered a ha).2
  · rcases List.mem_append.mp he with he | he
    · obtain ⟨hpos, hle⟩ := h.numbered e he
      exact ⟨hpos, Nat.le_succ_of_le hle⟩
    · rw [List.mem_singleton.mp he]
      exact ⟨Nat.succ_pos _, Nat.le_refl _⟩
  · obtain ⟨e, he, hnumber⟩ := h.pending g hg number hpending
    exact ⟨e, List.mem_append_left _ he, hnumber⟩
  · rcases List.mem_append.mp he with he | he
    · exact hold he
    · rw [List.mem_singleton.mp he]
      exact fun g hg => Or.inl (Nat.lt_succ_of_le (h.last g hg))

/-- Another state of the group: what it has handed over or has pending are entries, and no entry is
lost to it. -/
theorem carries_setGroup {l : Log} {g' : Group} (hlast : l.InOrder group → g'.last ≤ l.added)
    (hpending : l.InOrder group → ∀ number, (g'.pending.find? number).isSome = true →
      ∃ e ∈ l.entries, e.number = number)
    (hawaits : l.InOrder group → ∀ e ∈ l.entries, l.Awaits group e.number →
      (g'.last < e.number ∨ (g'.pending.find? e.number).isSome = true) ∨ settled e.number) :
    l.Carries group settled { l with groups := l.groups.insert group g' } := by
  have hfind : (l.groups.insert group g').find? group = some g' := by
    rw [Table.find?_insert, if_pos rfl]
  refine ⟨fun h => ⟨h.increasing, h.numbered, fun g hg => ?_, fun g hg => ?_⟩, List.prefix_refl _,
    fun h e he hold => ?_⟩
  · cases hfind.symm.trans hg
    exact hlast h
  · cases hfind.symm.trans hg
    exact hpending h
  · refine (hawaits h e he (hold he)).imp_left fun hawaited g hg => ?_
    cases hfind.symm.trans hg
    exact hawaited

end Carries

end Log

/-! ## Commands -/

namespace Server

theorem log_congr {s s' : Server} (h : s'.logs = s.logs) (topic : String) :
    s'.log topic = s.log topic := by
  unfold log
  rw [h]

theorem log_modify (s : Server) (topic other : String) (f : Log → Log) :
    (s.modify topic f).log other = if topic = other then f (s.log topic) else s.log other := by
  unfold modify log
  dsimp only
  rw [Table.find?_insert]
  split <;> rfl

/-- All logs only grow and go on to await what they await, up to what is settled. -/
def Carries (group : String) (settled : String → Nat → Prop) (s s' : Server) : Prop :=
  ∀ topic, (s.log topic).Carries group (settled topic) (s'.log topic)

/-- All logs are in order. -/
def InOrder (group : String) (s : Server) : Prop := ∀ topic, (s.log topic).InOrder group

/-- No entry of any log is gone. -/
def Keeps (s s' : Server) : Prop := ∀ topic, (s.log topic).entries ⊆ (s'.log topic).entries

section Carries

variable {group : String} {settled : String → Nat → Prop}

theorem Carries.of_logs {s s' : Server} (h : s'.logs = s.logs) : s.Carries group settled s' := by
  intro topic
  rw [log_congr h]
  exact .refl _

theorem Carries.refl (s : Server) : s.Carries group settled s := .of_logs rfl

theorem Carries.trans {a b c : Server} (h₁ : a.Carries group settled b)
    (h₂ : b.Carries group settled c) : a.Carries group settled c :=
  fun topic => (h₁ topic).trans (h₂ topic)

theorem Carries.mono {settled' : String → Nat → Prop}
    (hsettled : ∀ topic n, settled topic n → settled' topic n) {s s' : Server}
    (h : s.Carries group settled s') : s.Carries group settled' s' :=
  fun topic => (h topic).mono (hsettled topic)

theorem Carries.inOrder {s s' : Server} (h : s.Carries group settled s') (hs : s.InOrder group) :
    s'.InOrder group := fun topic => (h topic).inOrder (hs topic)

theorem Carries.keeps {s s' : Server} (h : s.Carries group settled s') : s.Keeps s' :=
  fun topic => (h topic).entries.subset

theorem Carries.modify {s : Server} {topic : String} {f : Log → Log}
    (h : (s.log topic).Carries group (settled topic) (f (s.log topic))) :
    s.Carries group settled (s.modify topic f) := by
  intro other
  rw [log_modify]
  split
  · rename_i hother
    subst hother
    exact h
  · exact .refl _

/-- A new group has everything before it. -/
theorem carries_createGroup (topic : String) (s : Server) :
    s.Carries group settled (s.createGroup topic group).2 := by
  unfold createGroup
  split
  · exact .refl s
  · refine .modify (Log.carries_setGroup (fun _ => Nat.zero_le _) (fun _ _ h => nomatch h) ?_)
    exact fun h e he _ => Or.inl (Or.inl (h.numbered e he).1)

theorem carries_add (topic : String) (fields : Fields) (s : Server) :
    s.Carries group settled (s.add topic fields).2 := .modify (Log.carries_add _ fields)

theorem mem_of_add {topic : String} {fields : Fields} {s s' : Server} {number : Nat}
    (h : s.add topic fields = (.ok number, s')) :
    number = (s.log topic).added + 1 ∧ ⟨number, fields⟩ ∈ (s'.log topic).entries := by
  unfold add at h
  cases h
  refine ⟨rfl, ?_⟩
  rw [log_modify, if_pos rfl]
  exact List.mem_append_right _ List.mem_cons_self

/-! ### Handing over -/

/-- The entries that are handed over become pending. -/
theorem isSome_find?_foldl {entries : List Entry} {p : Pending} {pending : Table Nat Pending}
    {number : Nat} :
    ((entries.foldl (fun t e => t.insert e.number p) pending).find? number).isSome = true ↔
      (∃ e ∈ entries, e.number = number) ∨ (pending.find? number).isSome = true := by
  induction entries generalizing pending with
  | nil => simp
  | cons e entries ih =>
    rw [List.foldl_cons, ih, Table.find?_insert]
    split
    · rename_i hnumber
      simp [hnumber]
    · rename_i hnumber
      simp [hnumber]

/-- The last entry that is handed over comes before another one if all of them do. -/
theorem foldl_max_lt {entries : List Entry} {last number : Nat} :
    entries.foldl (fun n e => max n e.number) last < number ↔
      last < number ∧ ∀ e ∈ entries, e.number < number := by
  induction entries generalizing last with
  | nil => simp
  | cons e entries ih =>
    rw [List.foldl_cons, ih, List.forall_mem_cons, Nat.max_lt, and_assoc]

/-- Of entries in order, those behind the first `count` come after them. -/
theorem lt_of_not_mem_take {entries : List Entry}
    (h : entries.Pairwise fun a b => a.number < b.number) {count : Nat} {e e' : Entry}
    (he : e ∈ entries) (hnot : e ∉ entries.take count) (he' : e' ∈ entries.take count) :
    e'.number < e.number := by
  rw [← List.take_append_drop count entries] at h he
  exact (List.pairwise_append.mp h).2.2 e' he' e ((List.mem_append.mp he).resolve_left hnot)

theorem carries_handOver (topic consumer : String) (count : Nat) (s : Server) :
    s.Carries group settled (s.handOver topic group consumer count).2 := by
  unfold handOver
  split
  · exact .refl s
  · rename_i g hg
    have hmem {e : Entry} (he : e ∈ s.unread topic g count) : e ∈ (s.log topic).entries :=
      (List.mem_filter.mp (List.mem_of_mem_take he)).1
    refine .modify (Log.carries_setGroup (fun h => ?_) (fun h number hpending => ?_)
      fun h e he hawaits => Or.inl ?_)
    · refine Nat.le_of_lt_succ (foldl_max_lt.mpr ⟨Nat.lt_succ_of_le (h.last g hg), fun e he => ?_⟩)
      exact Nat.lt_succ_of_le (h.numbered e (hmem he)).2
    · rcases isSome_find?_foldl.mp hpending with ⟨e, he, hnumber⟩ | hpending
      · exact ⟨e, hmem he, hnumber⟩
      · exact h.pending g hg number hpending
    · rcases hawaits g hg with hlast | hpending
      · by_cases hread : e ∈ s.unread topic g count
        · exact Or.inr (isSome_find?_foldl.mpr (Or.inl ⟨e, hread, rfl⟩))
        · -- what is not handed over comes behind all that is
          refine Or.inl (foldl_max_lt.mpr ⟨hlast, fun e' he' => ?_⟩)
          exact lt_of_not_mem_take (h.increasing.filter _)
            (List.mem_filter.mpr ⟨he, decide_eq_true hlast⟩) hread he'
      · exact Or.inr (isSome_find?_foldl.mpr (Or.inr hpending))

theorem mem_of_handOver {topic consumer : String} {count : Nat} {s : Server} {e : Entry}
    (he : e ∈ (s.handOver topic group consumer count).1) : e ∈ (s.log topic).entries := by
  unfold handOver at he
  split at he
  · cases he
  · exact (List.mem_filter.mp (List.mem_of_mem_take he)).1

/-- A read of several topics hands over entries of each of them. -/
theorem carries_foldl_handOver (group : String) (settled : String → Nat → Prop) (consumer : String)
    (count : Nat) (topics : List String) (read : List (String × List Entry)) (s : Server) :
    let result := topics.foldl (fun (read, s) topic =>
      let (entries, s) := s.handOver topic group consumer count
      (read ++ [(topic, entries)], s)) (read, s)
    s.Carries group settled result.2 ∧ ∀ topic entries, (topic, entries) ∈ result.1 →
      (topic, entries) ∈ read ∨
        topic ∈ topics ∧ ∀ e ∈ entries, e ∈ (result.2.log topic).entries := by
  induction topics generalizing read s with
  | nil => exact ⟨.refl s, fun _ _ h => Or.inl h⟩
  | cons first topics ih =>
    have hfirst : s.Carries group settled (s.handOver first group consumer count).2 :=
      carries_handOver first consumer count s
    obtain ⟨hcarries, hread⟩ := ih (read ++ [(first, (s.handOver first group consumer count).1)])
      (s.handOver first group consumer count).2
    refine ⟨hfirst.trans hcarries, fun topic entries hmem => ?_⟩
    rcases hread topic entries hmem with hmem | ⟨htopic, hentries⟩
    · rcases List.mem_append.mp hmem with hmem | hmem
      · exact Or.inl hmem
      · cases List.mem_singleton.mp hmem
        exact Or.inr ⟨List.mem_cons_self, fun e he =>
          hcarries.keeps first (hfirst.keeps first (mem_of_handOver he))⟩
    · exact Or.inr ⟨List.mem_cons_of_mem _ htopic, hentries⟩

theorem carries_readNew (topics : List String) (consumer : String) (count : Nat) (s : Server) :
    s.Carries group settled (s.readNew topics group consumer count).2 := by
  unfold readNew
  split
  · exact .refl s
  · exact (carries_foldl_handOver group settled consumer count topics [] s).1

/-- What a read answers are entries of its topics. -/
theorem mem_of_readNew {topics : List String} {consumer : String} {count : Nat} {s s' : Server}
    {read : List (String × List Entry)}
    (h : s.readNew topics group consumer count = (.ok read, s')) {topic : String}
    {entries : List Entry} (hmem : (topic, entries) ∈ read) :
    topic ∈ topics ∧ ∀ e ∈ entries, e ∈ (s'.log topic).entries := by
  unfold readNew at h
  split at h
  · cases h
  · cases h
    have hread := carries_foldl_handOver group (fun _ _ => False) consumer count topics [] s
    exact (hread.2 topic entries hmem).resolve_left List.not_mem_nil

/-! ### Pending entries -/

/-- What is listed is pending, so it is in the log. -/
theorem mem_of_listPending {topic : String} {count : Nat} {s s' : Server}
    {reports : List Pending.Report} (h : s.listPending topic group count = (.ok reports, s'))
    (hs : (s.log topic).InOrder group) {p : Pending.Report} (hp : p ∈ reports) :
    ∃ e ∈ (s'.log topic).entries, e.number = p.entry := by
  unfold listPending at h
  split at h
  · cases h
  · rename_i g hg
    cases h
    obtain ⟨⟨number, pending⟩, hmem, rfl⟩ := List.mem_map.mp hp
    refine hs.pending g hg number ?_
    rw [Option.isSome_iff_ne_none]
    intro hnone
    exact Table.find?_eq_none_iff.mp hnone _ (List.mem_of_mem_take hmem) rfl

theorem carries_listPending (topic : String) (count : Nat) (s : Server) :
    s.Carries group settled (s.listPending topic group count).2 := by
  unfold listPending
  split <;> exact .refl s

/-- A claim leaves pending what is in the log. -/
theorem carries_claim (topic consumer : String) (least entry : Nat) (s : Server) :
    s.Carries group settled (s.claim topic group consumer least entry).2 := by
  unfold claim
  split
  · exact .refl s
  · rename_i g hg
    split
    · exact .refl s
    · rename_i p hp
      split
      · exact .refl s
      · split
        · rename_i hmissing
          refine .modify (Log.carries_setGroup (fun h => h.last g hg) (fun h number hpending => ?_)
            fun h e he hawaits => Or.inl ?_)
          · rw [Table.find?_erase] at hpending
            split at hpending
            · cases hpending
            · exact h.pending g hg number hpending
          · have hother : entry ≠ e.number := fun hentry =>
              List.find?_eq_none.mp hmissing e he (decide_eq_true hentry.symm)
            rw [Table.find?_erase, if_neg hother]
            exact hawaits g hg
        · refine .modify (Log.carries_setGroup (fun h => h.last g hg) (fun h number hpending => ?_)
            fun h e he hawaits => Or.inl ?_)
          · rw [Table.find?_insert] at hpending
            split at hpending
            · rename_i hnumber
              subst hnumber
              exact h.pending g hg entry (by rw [hp]; rfl)
            · exact h.pending g hg number hpending
          · refine (hawaits g hg).imp_right fun hpending => ?_
            rw [Table.find?_insert]
            split
            · rfl
            · exact hpending

/-- A claimed entry is in the log. -/
theorem mem_of_claim {topic consumer : String} {least entry : Nat} {s s' : Server} {e : Entry}
    (h : s.claim topic group consumer least entry = (.ok (some e), s')) :
    e ∈ (s'.log topic).entries := by
  have hcarries : s.Carries group (fun _ _ => False)
      (s.claim topic group consumer least entry).2 := carries_claim topic consumer least entry s
  rw [h] at hcarries
  refine hcarries.keeps topic ?_
  unfold claim at h
  split at h
  · cases h
  · split at h
    · cases h
    · split at h
      · cases h
      · split at h
        · cases h
        · rename_i found hfound
          cases h
          exact List.mem_of_find?_eq_some hfound

/-- Only the entry that is acknowledged is not awaited any more. -/
theorem carries_acknowledge (topic : String) (entry : Nat) (s : Server) :
    s.Carries group (fun t n => t = topic ∧ n = entry) (s.acknowledge topic group entry).2 := by
  unfold acknowledge
  split
  · exact .refl s
  · rename_i g hg
    refine .modify (Log.carries_setGroup (fun h => h.last g hg) (fun h number hpending => ?_)
      fun h e he hawaits => ?_)
    · rw [Table.find?_erase] at hpending
      split at hpending
      · cases hpending
      · exact h.pending g hg number hpending
    · by_cases hentry : entry = e.number
      · exact Or.inr ⟨rfl, hentry.symm⟩
      · rw [Table.find?_erase, if_neg hentry]
        exact Or.inl (hawaits g hg)

end Carries

/-- An entry that is read by its number. -/
theorem range_eq_some {topic : String} {entry : Nat} {s s' : Server} {e : Entry}
    (h : s.range topic entry = (.ok (some e), s')) :
    e ∈ (s'.log topic).entries ∧ e.number = entry := by
  obtain ⟨hfound, rfl⟩ := Prod.mk.inj h
  have hfound := Except.ok.inj hfound
  have hnumber := List.find?_some hfound
  exact ⟨List.mem_of_find?_eq_some hfound, of_decide_eq_true hnumber⟩

theorem range_eq_none {topic : String} {entry : Nat} {s s' : Server}
    (h : s.range topic entry = (.ok none, s')) :
    ∀ e ∈ (s.log topic).entries, e.number ≠ entry := by
  obtain ⟨hfound, -⟩ := Prod.mk.inj h
  intro e he hnumber
  exact List.find?_eq_none.mp (Except.ok.inj hfound) e he (decide_eq_true hnumber)

/-! ## On the way -/

/-- A command is done, with other fates to come, and may be answered; or it is not done. -/
theorem exchange_cases {α : Type} (c : Command) (act : Server → Except Refusal α × Server)
    (s : Server) : ∃ s₁ : Server, s₁.logs = s.logs ∧
      (s.heeds c = true ∧ (s.exchange c act).2 = (act s₁).2 ∧
          ((s.exchange c act).1 = (act s₁).1 ∨ (s.exchange c act).1 = .error .broken) ∨
        s.heeds c = false ∧ s.exchange c act = (.error .broken, s₁)) := by
  unfold exchange heeds
  generalize (s.fates c).next = fate
  obtain ⟨fate, fates⟩ := fate
  refine ⟨{ s with fates := fun d => if d = c then fates else s.fates d }, rfl, ?_⟩
  cases fate with
  | carried => exact Or.inl ⟨rfl, rfl, Or.inl rfl⟩
  | refused => exact Or.inr ⟨rfl, rfl⟩
  | replyLost => exact Or.inl ⟨rfl, rfl, Or.inr rfl⟩

/-- What every run of a command keeps if it is done at all, the command keeps on its way. -/
theorem carries_exchange {α : Type} {group : String} {settled : String → Nat → Prop} {c : Command}
    {act : Server → Except Refusal α × Server} {s : Server}
    (hact : s.heeds c = true → ∀ s : Server, s.Carries group settled (act s).2) :
    s.Carries group settled (s.exchange c act).2 := by
  obtain ⟨s₁, hlogs, ⟨hheeds, hdone, -⟩ | ⟨-, hrefused⟩⟩ := exchange_cases c act s
  · rw [hdone]
    exact Carries.trans (.of_logs hlogs) (hact hheeds s₁)
  · rw [hrefused]
    exact .of_logs hlogs

/-- An acknowledgement that is done settles its entry. -/
theorem carries_exchange_acknowledge {group : String} {settled : String → Nat → Prop}
    {topic : String} {entry : Nat} {s : Server}
    (h : s.heeds .acknowledge = true → settled topic entry) :
    s.Carries group settled (s.exchange .acknowledge (acknowledge topic group entry)).2 := by
  refine carries_exchange fun hheeds s₁ => ?_
  refine (carries_acknowledge topic entry s₁).mono fun t n hsettled => ?_
  rw [hsettled.1, hsettled.2]
  exact h hheeds

/-- A command that is answered is done. -/
theorem exchange_eq_ok {α : Type} {c : Command} {act : Server → Except Refusal α × Server}
    {s s' : Server} {a : α} (h : s.exchange c act = (.ok a, s')) :
    s.heeds c = true ∧ ∃ s₁ : Server, s₁.logs = s.logs ∧ act s₁ = (.ok a, s') := by
  obtain ⟨s₁, hlogs, ⟨hheeds, hdone, hreply⟩ | ⟨-, hrefused⟩⟩ := exchange_cases c act s
  · rw [h] at hdone hreply
    rcases hreply with hreply | hreply
    · exact ⟨hheeds, s₁, hlogs, Prod.ext hreply.symm hdone.symm⟩
    · cases hreply
  · rw [h] at hrefused
    cases hrefused

/-! ## Entries of others -/

/-- Entries are added, and nothing else happens to the logs. -/
inductive Grows : Server → Server → Prop where
  | still {s s'} (h : s'.logs = s.logs) : Grows s s'
  | add {s s'} (topic : String) (fields : Fields) (h : Grows (s.add topic fields).2 s') : Grows s s'

theorem Grows.carries {group : String} {settled : String → Nat → Prop} {s s' : Server}
    (h : s.Grows s') : s.Carries group settled s' := by
  induction h with
  | still h => exact .of_logs h
  | add topic fields _ ih => exact (carries_add topic fields _).trans ih

theorem Grows.keeps {s s' : Server} (h : s.Grows s') : s.Keeps s' := by
  have hcarries : s.Carries "" (fun _ _ => False) s' := h.carries
  exact hcarries.keeps

end Server

/-- Handlers may add entries, and do nothing else to the logs. -/
def Handle.OnlyAdds {σ η : Type} (handle : Handle σ η) : Prop :=
  ∀ h e (s : Site σ), s.server.Grows (handle h e s).2.server

end BookingNotices.Stream
