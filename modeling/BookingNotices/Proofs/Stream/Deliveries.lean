import BookingNotices.Proofs.Stream.Server
import Mathlib.Tactic.SplitIfs

/-!
# How often a server delivers an entry

* `Server.deliveries?` : how often a pending entry was delivered to the consumers of a group;
* `Server.Accounts`    : what a command does to that number: nothing, or it delivers the entry for
  the first time, or once more (`accounts_readNew`, `accounts_claim`, ...);
* `Server.Counted`     : the entry was delivered, and at least so often as long as it is pending;
* `Accounts.counted`   : a command adds to that number the deliveries that it makes.

An entry that was acknowledged is not delivered again: it comes before the last one that the group
has handed over, and is not pending.
-/

namespace BookingNotices.Stream.Server

variable {group topic : String} {entry : Nat}

/-- How often a pending entry was delivered. -/
def deliveries? (s : Server) (group topic : String) (entry : Nat) : Option Nat :=
  (s.group? topic group).bind fun g => (g.pending.find? entry).map fun p => p.deliveries

/-- What a command does to how often an entry was delivered, and how often it delivers it. -/
inductive Delivers (group topic : String) (entry : Nat) (s s' : Server) : Nat → Prop where
  | quiet (hunread : Unread s' group topic entry → Unread s group topic entry)
      (hcount : ∀ n, s'.deliveries? group topic entry = some n →
        s.deliveries? group topic entry = some n) : Delivers group topic entry s s' 0
  | first (hunread : Unread s group topic entry) (hread : ¬ Unread s' group topic entry)
      (hcount : ∀ n, s'.deliveries? group topic entry = some n → n = 1) :
      Delivers group topic entry s s' 1
  | again {n : Nat} (hunread : Unread s' group topic entry → Unread s group topic entry)
      (hbefore : s.deliveries? group topic entry = some n)
      (hafter : ∀ k, s'.deliveries? group topic entry = some k → k = n + 1) :
      Delivers group topic entry s s' 1

/-- The pending entries of the group have increasing numbers. -/
def Sorted (group topic : String) (s : Server) : Prop :=
  ∀ g, s.group? topic group = some g → g.pending.Sorted

/-- So many deliveries of the entry are made, and the pending entries stay sorted. -/
structure Accounts (group topic : String) (entry : Nat) (s s' : Server) (count : Nat) : Prop where
  sorted : s.Sorted group topic → s'.Sorted group topic
  delivers : s.Delivers group topic entry s' count

/-- Nothing happens to the group. -/
theorem Accounts.of_group? {s s' : Server} (h : s'.group? topic group = s.group? topic group) :
    s.Accounts group topic entry s' 0 := by
  have hunread : Unread s' group topic entry → Unread s group topic entry := by
    unfold Unread
    rw [h]
    exact id
  refine ⟨?_, .quiet hunread ?_⟩
  · unfold Sorted
    rw [h]
    exact id
  · intro n hn
    unfold deliveries? at hn ⊢
    rw [← h]
    exact hn

theorem group?_congr {s s' : Server} (h : s'.logs = s.logs) :
    s'.group? topic group = s.group? topic group := by
  unfold group?
  rw [log_congr h]

theorem group?_setGroup (s : Server) (changed : String) (g : Group) :
    (s.setGroup changed group g).group? topic group =
      if changed = topic then some g else s.group? topic group := by
  unfold group? setGroup
  rw [log_modify]
  split_ifs with hchanged
  · subst hchanged
    exact (Table.find?_insert group group g _).trans (if_pos rfl)
  · rfl

/-- What happens to a group of one topic is nothing to the other topics. -/
theorem Accounts.setGroup_of_ne {s : Server} {changed : String} (h : changed ≠ topic) (g : Group) :
    s.Accounts group topic entry (s.setGroup changed group g) 0 := by
  refine .of_group? ?_
  rw [group?_setGroup, if_neg h]

/-- A change of the group itself. -/
theorem Accounts.setGroup {s : Server} {g g' : Group} {count : Nat}
    (hg : s.group? topic group = some g) (hsorted : g.pending.Sorted → g'.pending.Sorted)
    (hdelivers : s.Delivers group topic entry (s.setGroup topic group g') count) :
    s.Accounts group topic entry (s.setGroup topic group g') count := by
  refine ⟨?_, hdelivers⟩
  intro h g'' hg''
  rw [group?_setGroup, if_pos rfl] at hg''
  cases hg''
  exact hsorted (h g hg)

theorem unread_iff {s : Server} {g : Group} (hg : s.group? topic group = some g) :
    Unread s group topic entry ↔ g.last < entry := by
  constructor
  · intro h
    exact h g hg
  · intro h g' hg'
    cases hg.symm.trans hg'
    exact h

theorem deliveries?_eq {s : Server} {g : Group} (hg : s.group? topic group = some g) :
    s.deliveries? group topic entry = (g.pending.find? entry).map fun p => p.deliveries := by
  unfold deliveries?
  rw [hg]
  rfl

theorem group?_setGroup_self (s : Server) (topic group : String) (g : Group) :
    (s.setGroup topic group g).group? topic group = some g := by
  rw [group?_setGroup, if_pos rfl]

/-! ## Commands -/

theorem accounts_createGroup (changed : String) (s : Server) :
    s.Accounts group topic entry (s.createGroup changed group).2 0 := by
  unfold createGroup
  split
  · exact .of_group? rfl
  · rename_i hnone
    by_cases hchanged : changed = topic
    · subst hchanged
      have hg := s.group?_setGroup_self changed group {}
      refine ⟨?_, .quiet ?_ ?_⟩
      · intro _ g hg'
        cases hg.symm.trans hg'
        exact Table.Sorted.nil
      · intro _ g hg'
        cases hnone.symm.trans hg'
      · intro n hn
        rw [deliveries?_eq hg] at hn
        cases hn
    · exact .setGroup_of_ne hchanged {}

theorem accounts_add (changed : String) (fields : Fields) (s : Server) :
    s.Accounts group topic entry (s.add changed fields).2 0 := by
  refine .of_group? ?_
  unfold add group?
  dsimp only
  rw [log_modify]
  split_ifs with hchanged
  · subst hchanged
    rfl
  · rfl

/-- An entry that is no longer pending is not delivered. -/
theorem accounts_erase {s : Server} {changed : String} {g : Group}
    (hg : s.group? changed group = some g) (number : Nat) :
    s.Accounts group topic entry
      (s.setGroup changed group { g with pending := g.pending.erase number }) 0 := by
  by_cases hchanged : changed = topic
  · subst hchanged
    refine .setGroup hg (fun h => h.filter _) (.quiet ?_ ?_)
    · rw [unread_iff (group?_setGroup_self s _ _ _), unread_iff hg]
      exact id
    · intro n hn
      rw [deliveries?_eq (group?_setGroup_self s _ _ _), Table.find?_erase] at hn
      rw [deliveries?_eq hg]
      split_ifs at hn
      · cases hn
      · exact hn
  · exact .setGroup_of_ne hchanged _

theorem accounts_acknowledge (changed : String) (number : Nat) (s : Server) :
    s.Accounts group topic entry (s.acknowledge changed group number).2 0 := by
  unfold acknowledge
  split
  · exact .of_group? rfl
  · rename_i g hg
    exact accounts_erase hg number

/-- A claim that is answered with an entry has delivered it once more. -/
theorem accounts_claim (changed consumer : String) (least number : Nat) (s : Server) :
    ∃ count, s.Accounts group topic entry (s.claim changed group consumer least number).2 count ∧
      ∀ e, (s.claim changed group consumer least number).1 = .ok (some e) →
        e.number = number ∧ (changed = topic → number = entry → count = 1) := by
  unfold claim
  split
  · exact ⟨0, .of_group? rfl, nofun⟩
  rename_i g hg
  split
  · exact ⟨0, .of_group? rfl, nofun⟩
  rename_i p hp
  split_ifs
  · exact ⟨0, .of_group? rfl, nofun⟩
  split
  · -- the entry was taken out of the log
    exact ⟨0, accounts_erase hg number, nofun⟩
  · rename_i e he
    have hnumber : e.number = number := by simpa using List.find?_some he
    by_cases hchanged : changed = topic
    · subst hchanged
      have hsame := s.group?_setGroup_self changed group
        { g with pending := g.pending.insert number ⟨consumer, p.deliveries + 1, s.time⟩ }
      have hunread : Unread (s.setGroup changed group
          { g with pending := g.pending.insert number ⟨consumer, p.deliveries + 1, s.time⟩ })
          group changed entry → Unread s group changed entry := by
        rw [unread_iff hsame, unread_iff hg]
        exact id
      by_cases hentry : number = entry
      · subst hentry
        refine ⟨1, .setGroup hg (fun h => h.insert) (.again (n := p.deliveries) hunread ?_ ?_), ?_⟩
        · rw [deliveries?_eq hg, hp]
          rfl
        · intro k hk
          rw [deliveries?_eq hsame, Table.find?_insert, if_pos rfl] at hk
          cases hk
          rfl
        · intro e' he'
          cases he'
          exact ⟨hnumber, fun _ _ => rfl⟩
      · refine ⟨0, .setGroup hg (fun h => h.insert) (.quiet hunread ?_), ?_⟩
        · intro n hn
          rw [deliveries?_eq hsame, Table.find?_insert, if_neg hentry] at hn
          rw [deliveries?_eq hg]
          exact hn
        · intro e' he'
          cases he'
          exact ⟨hnumber, fun _ h => absurd h hentry⟩
    · refine ⟨0, .setGroup_of_ne hchanged _, ?_⟩
      intro e' he'
      cases he'
      exact ⟨hnumber, fun h => absurd h hchanged⟩

/-! ### Reads -/

theorem find?_foldl_insert {entries : List Entry} {p : Pending} {pending : Table Nat Pending}
    {number : Nat} :
    (entries.foldl (fun t e => t.insert e.number p) pending).find? number =
      if ∃ e ∈ entries, e.number = number then some p else pending.find? number := by
  induction entries generalizing pending with
  | nil => simp
  | cons e entries ih =>
    rw [List.foldl_cons, ih, Table.find?_insert]
    by_cases hrest : ∃ e ∈ entries, e.number = number
    · simp [hrest]
    · by_cases hnumber : e.number = number
      · simp [hnumber]
      · simp [hrest, hnumber]

theorem sorted_foldl_insert {entries : List Entry} {p : Pending} {pending : Table Nat Pending}
    (h : pending.Sorted) :
    (entries.foldl (fun t e => t.insert e.number p) pending : Table Nat Pending).Sorted := by
  induction entries generalizing pending with
  | nil => exact h
  | cons e entries ih => exact ih h.insert

/-- Entries in order have no number twice. -/
theorem count_number_le {entries : List Entry}
    (h : entries.Pairwise fun a b => a.number < b.number) (number : Nat) :
    (entries.map fun e => e.number).count number ≤ 1 := by
  have hnodup : (entries.map fun e => e.number).Nodup :=
    List.pairwise_map.mpr (h.imp fun hlt => Nat.ne_of_lt hlt)
  exact List.nodup_iff_count.mp hnodup number

/-- A read of one topic delivers each of its entries for the first time. -/
theorem accounts_handOver (changed consumer : String) (limit : Nat) (s : Server)
    (hs : (s.log changed).InOrder group) :
    ∃ count, s.Accounts group topic entry (s.handOver changed group consumer limit).2 count ∧
      (count = 0 ∨ Unread s group topic entry ∧
        ¬ Unread (s.handOver changed group consumer limit).2 group topic entry) ∧
      (changed = topic → ((s.handOver changed group consumer limit).1.map fun e =>
        e.number).count entry ≤ count) := by
  unfold handOver
  split
  · exact ⟨0, .of_group? rfl, .inl rfl, fun _ => Nat.le_refl 0⟩
  rename_i g hg
  dsimp only
  generalize hread : s.unread changed g limit = entries
  by_cases hchanged : changed = topic
  · subst hchanged
    have hsame := s.group?_setGroup_self changed group {
      last := entries.foldl (fun n e => max n e.number) g.last
      pending := entries.foldl (fun t e => t.insert e.number ⟨consumer, 1, s.time⟩) g.pending }
    by_cases hentry : ∃ e ∈ entries, e.number = entry
    · obtain ⟨e, he, rfl⟩ := hentry
      have hlast : g.last < e.number := by
        rw [← hread] at he
        exact of_decide_eq_true (List.mem_filter.mp (List.mem_of_mem_take he)).2
      have hunread : Unread s group changed e.number := (unread_iff hg).mpr hlast
      have hnot : ¬ Unread (s.setGroup changed group {
          last := entries.foldl (fun n e => max n e.number) g.last
          pending := entries.foldl (fun t e => t.insert e.number ⟨consumer, 1, s.time⟩) g.pending })
          group changed e.number := by
        rw [unread_iff hsame, foldl_max_lt]
        exact fun h => Nat.lt_irrefl _ (h.2 e he)
      refine ⟨1, .setGroup hg sorted_foldl_insert (.first hunread hnot ?_),
        .inr ⟨hunread, hnot⟩, ?_⟩
      · intro n hn
        rw [deliveries?_eq hsame, find?_foldl_insert, if_pos ⟨e, he, rfl⟩] at hn
        cases hn
        rfl
      · intro _
        refine count_number_le ?_ e.number
        rw [← hread]
        exact (hs.increasing.filter _).take
    · refine ⟨0, .setGroup hg sorted_foldl_insert (.quiet ?_ ?_), .inl rfl, ?_⟩
      · rw [unread_iff hsame, unread_iff hg, foldl_max_lt]
        exact fun h => h.1
      · intro n hn
        rw [deliveries?_eq hsame, find?_foldl_insert, if_neg hentry] at hn
        rw [deliveries?_eq hg]
        exact hn
      · intro _
        refine Nat.le_of_eq (List.count_eq_zero.mpr fun hmem => hentry ?_)
        obtain ⟨e, he, hnumber⟩ := List.mem_map.mp hmem
        exact ⟨e, he, hnumber⟩
  · exact ⟨0, .setGroup_of_ne hchanged _, .inl rfl, fun h => absurd h hchanged⟩

theorem Accounts.trans_quiet {a b c : Server} {count : Nat}
    (h₁ : a.Accounts group topic entry b count) (h₂ : b.Accounts group topic entry c 0) :
    a.Accounts group topic entry c count := by
  refine ⟨fun h => h₂.sorted (h₁.sorted h), ?_⟩
  obtain ⟨-, ⟨hunread₂, hcount₂⟩⟩ := h₂
  cases h₁.delivers with
  | quiet hunread hcount => exact .quiet (hunread ∘ hunread₂) fun n hn => hcount n (hcount₂ n hn)
  | first hunread hread hcount =>
    exact .first hunread (hread ∘ hunread₂) fun n hn => hcount n (hcount₂ n hn)
  | again hunread hbefore hafter =>
    exact .again (hunread ∘ hunread₂) hbefore fun n hn => hafter n (hcount₂ n hn)

theorem Accounts.quiet_trans {a b c : Server} {count : Nat}
    (h₁ : a.Accounts group topic entry b 0) (h₂ : b.Accounts group topic entry c count) :
    a.Accounts group topic entry c count := by
  refine ⟨fun h => h₂.sorted (h₁.sorted h), ?_⟩
  obtain ⟨-, ⟨hunread₁, hcount₁⟩⟩ := h₁
  cases h₂.delivers with
  | quiet hunread hcount => exact .quiet (hunread₁ ∘ hunread) fun n hn => hcount₁ n (hcount n hn)
  | first hunread hread hcount => exact .first (hunread₁ hunread) hread hcount
  | again hunread hbefore hafter =>
    exact .again (hunread₁ ∘ hunread) (hcount₁ _ hbefore) hafter

/-- How often an entry of a topic is among what was read. -/
def granted (topic : String) (entry : Nat) (read : List (String × List Entry)) : Nat :=
  (read.flatMap fun r => r.2.map fun e => (r.1, e.number)).count (topic, entry)

theorem granted_concat (read : List (String × List Entry)) (t : String) (entries : List Entry) :
    granted topic entry (read ++ [(t, entries)]) =
      granted topic entry read +
        if t = topic then (entries.map fun e => e.number).count entry else 0 := by
  unfold granted
  rw [List.flatMap_append, List.count_append, List.flatMap_singleton]
  congr 1
  induction entries with
  | nil => simp
  | cons e entries ih =>
    simp only [List.map_cons, List.count_cons, ih]
    by_cases ht : t = topic
    · simp [ht]
    · simp [ht]

/-- A read of several topics delivers an entry for the first time, if at all. -/
theorem accounts_foldl_handOver (consumer : String) (limit : Nat) (topics : List String)
    (read : List (String × List Entry)) (s : Server) (hs : s.InOrder group) :
    let result := topics.foldl (fun (read, s) topic =>
      let (entries, s) := s.handOver topic group consumer limit
      (read ++ [(topic, entries)], s)) (read, s)
    ∃ count, s.Accounts group topic entry result.2 count ∧
      (count = 0 ∨ Unread s group topic entry ∧ ¬ Unread result.2 group topic entry) ∧
      granted topic entry result.1 ≤ granted topic entry read + count := by
  induction topics generalizing read s with
  | nil => exact ⟨0, .of_group? rfl, .inl rfl, Nat.le_refl _⟩
  | cons first topics ih =>
    obtain ⟨count₁, haccounts₁, hfirst₁, hentries⟩ :=
      @accounts_handOver group topic entry first consumer limit s (hs first)
    have hcarries : s.Carries group (fun _ _ => False)
        (s.handOver first group consumer limit).2 := carries_handOver first consumer limit s
    obtain ⟨count₂, haccounts₂, hfirst₂, hread⟩ :=
      ih (read ++ [(first, (s.handOver first group consumer limit).1)])
        (s.handOver first group consumer limit).2 (hcarries.inOrder hs)
    rw [granted_concat] at hread
    have hadded : (if first = topic then ((s.handOver first group consumer limit).1.map
        fun e => e.number).count entry else 0) ≤ count₁ := by
      split_ifs with htopic
      · exact hentries htopic
      · exact Nat.zero_le _
    rcases hfirst₁ with rfl | ⟨hunread₁, hread₁⟩
    · refine ⟨count₂, haccounts₁.quiet_trans haccounts₂, ?_, ?_⟩
      · obtain ⟨-, ⟨hunread, -⟩⟩ := haccounts₁
        exact hfirst₂.imp_right fun h => ⟨hunread h.1, h.2⟩
      · exact Nat.le_trans hread (by omega)
    · rcases hfirst₂ with rfl | ⟨hunread₂, -⟩
      · refine ⟨count₁, haccounts₁.trans_quiet haccounts₂, .inr ⟨hunread₁, ?_⟩, ?_⟩
        · obtain ⟨-, ⟨hunread, -⟩⟩ := haccounts₂
          exact hread₁ ∘ hunread
        · exact Nat.le_trans hread (by omega)
      · exact absurd hunread₂ hread₁

theorem accounts_readNew (topics : List String) (consumer : String) (limit : Nat) (s : Server)
    (hs : s.InOrder group) :
    ∃ count, s.Accounts group topic entry (s.readNew topics group consumer limit).2 count ∧
      (count = 0 ∨ Unread s group topic entry) ∧
      ∀ read, (s.readNew topics group consumer limit).1 = .ok read →
        granted topic entry read ≤ count := by
  unfold readNew
  split
  · exact ⟨0, .of_group? rfl, .inl rfl, nofun⟩
  · obtain ⟨count, haccounts, hfirst, hread⟩ :=
      @accounts_foldl_handOver group topic entry consumer limit topics [] s hs
    refine ⟨count, haccounts, hfirst.imp_right And.left, ?_⟩
    intro read h
    cases h
    exact Nat.le_trans hread (Nat.le_of_eq (Nat.zero_add count))

/-! ### On the way -/

theorem Accounts.of_logs {s s' : Server} (h : s'.logs = s.logs) :
    s.Accounts group topic entry s' 0 := .of_group? (group?_congr h)

/-- A command that delivers nothing delivers nothing on its way. -/
theorem accounts_exchange_quiet {α : Type} {c : Command} {act : Server → Except Refusal α × Server}
    (hact : ∀ s : Server, s.Accounts group topic entry (act s).2 0) (s : Server) :
    s.Accounts group topic entry (s.exchange c act).2 0 := by
  obtain ⟨s₁, hlogs, ⟨-, hdone, -⟩ | ⟨-, hrefused⟩⟩ := exchange_cases c act s
  · rw [hdone]
    exact (Accounts.of_logs hlogs).quiet_trans (hact s₁)
  · rw [hrefused]
    exact .of_logs hlogs

/-- What a command says of its deliveries, when it is answered, holds on its way. -/
theorem accounts_exchange {α : Type} {c : Command} {act : Server → Except Refusal α × Server}
    {s : Server} {P : Nat → Prop} {Q : α → Nat → Prop} (hnone : P 0)
    (hact : ∀ s₁ : Server, s₁.logs = s.logs → ∃ count,
      s₁.Accounts group topic entry (act s₁).2 count ∧ P count ∧
        ∀ a, (act s₁).1 = .ok a → Q a count) :
    ∃ count, s.Accounts group topic entry (s.exchange c act).2 count ∧ P count ∧
      ∀ a, (s.exchange c act).1 = .ok a → Q a count := by
  obtain ⟨s₁, hlogs, ⟨-, hdone, hreply⟩ | ⟨-, hrefused⟩⟩ := exchange_cases c act s
  · obtain ⟨count, haccounts, hcount, hok⟩ := hact s₁ hlogs
    refine ⟨count, ?_, hcount, ?_⟩
    · rw [hdone]
      exact (Accounts.of_logs hlogs).quiet_trans haccounts
    · intro a ha
      rcases hreply with hreply | hreply
      · exact hok a (hreply.symm.trans ha)
      · rw [hreply] at ha
        cases ha
  · rw [hrefused]
    exact ⟨0, .of_logs hlogs, hnone, nofun⟩

theorem Grows.accounts {s s' : Server} (h : s.Grows s') : s.Accounts group topic entry s' 0 := by
  induction h with
  | still h => exact .of_logs h
  | add changed fields _ ih => exact (accounts_add changed fields _).quiet_trans ih

/-! ## Counts -/

/-- The entry was delivered, and so often at least, as far as it is known. -/
def Counted (s : Server) (group topic : String) (entry count : Nat) : Prop :=
  ¬ Unread s group topic entry ∧
    ∀ n, s.deliveries? group topic entry = some n → count ≤ n

/-- What is pending was handed over. -/
def PendingRead (s : Server) (group topic : String) (entry : Nat) : Prop :=
  ∀ n, s.deliveries? group topic entry = some n → ¬ Unread s group topic entry

variable {s s' : Server} {count made : Nat}

theorem Accounts.pendingRead (h : s.Accounts group topic entry s' made)
    (hs : s.PendingRead group topic entry) : s'.PendingRead group topic entry := by
  intro n hn
  cases h.delivers with
  | quiet hunread hcount => exact hs n (hcount n hn) ∘ hunread
  | first _ hread _ => exact hread
  | again hunread hbefore _ => exact hs _ hbefore ∘ hunread

theorem Accounts.le_one (h : s.Accounts group topic entry s' made) : made ≤ 1 := by
  cases h.delivers <;> decide

/-- A command adds the deliveries that it makes. -/
theorem Accounts.counted (h : s.Accounts group topic entry s' made)
    (hs : s.Counted group topic entry count) : s'.Counted group topic entry (count + made) := by
  obtain ⟨hread, hle⟩ := hs
  cases h.delivers with
  | quiet hunread hcount => exact ⟨hread ∘ hunread, fun n hn => hle n (hcount n hn)⟩
  | first hunread _ _ => exact absurd hunread hread
  | again hunread hbefore hafter =>
    refine ⟨hread ∘ hunread, ?_⟩
    intro k hk
    rw [hafter k hk]
    exact Nat.succ_le_succ (hle _ hbefore)

/-- What was delivered once was counted once. -/
theorem Accounts.counted_one (h : s.Accounts group topic entry s' 1)
    (hs : s.PendingRead group topic entry) : s'.Counted group topic entry 1 := by
  cases h.delivers with
  | first _ hread hcount => exact ⟨hread, fun n hn => Nat.le_of_eq (hcount n hn).symm⟩
  | again hunread hbefore hafter =>
    refine ⟨hs _ hbefore ∘ hunread, ?_⟩
    intro k hk
    rw [hafter k hk]
    exact Nat.succ_le_succ (Nat.zero_le _)

theorem Counted.mono {fewer : Nat} (h : s.Counted group topic entry count) (hle : fewer ≤ count) :
    s.Counted group topic entry fewer :=
  ⟨h.1, fun n hn => Nat.le_trans hle (h.2 n hn)⟩

/-! ## Lists of pending entries -/

theorem listPending_snd (s : Server) (limit : Nat) : (s.listPending topic group limit).2 = s := by
  unfold listPending
  split <;> rfl

/-- What is listed is what the server knows. -/
theorem deliveries?_of_listPending {limit : Nat} {reports : List Pending.Report}
    (h : s.listPending topic group limit = (.ok reports, s')) (hs : s.Sorted group topic)
    {p : Pending.Report} (hp : p ∈ reports) :
    s.deliveries? group topic p.entry = some p.deliveries := by
  unfold listPending at h
  split at h
  · cases h
  · rename_i g hg
    cases h
    obtain ⟨⟨number, pending⟩, hmem, rfl⟩ := List.mem_map.mp hp
    rw [deliveries?_eq hg, (Table.find?_eq_some_iff_mem (hs g hg)).mpr (List.mem_of_mem_take hmem)]
    rfl

/-- No entry is listed twice. -/
theorem count_listPending_le {limit : Nat} {reports : List Pending.Report}
    (h : s.listPending topic group limit = (.ok reports, s')) (hs : s.Sorted group topic)
    (entry : Nat) : (reports.map fun p => p.entry).count entry ≤ 1 := by
  unfold listPending at h
  split at h
  · cases h
  · rename_i g hg
    cases h
    refine List.nodup_iff_count.mp ?_ entry
    rw [List.map_map]
    exact List.pairwise_map.mpr ((hs g hg).take.imp fun hlt => Nat.ne_of_lt hlt)

end BookingNotices.Stream.Server
