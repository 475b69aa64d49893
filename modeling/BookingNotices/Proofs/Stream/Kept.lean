import BookingNotices.Proofs.Stream.Standing

/-!
# No entry of a stream is lost

* `Going`       : the first task of a consumer is in order, and no other has begun;
* `Member.step_cases` : what one step of a consumer can do; `Member.going_step`,
  `Member.carries_step` and `Going.justified` are read off it;
* `Fleet.Kept`  : every entry is awaited by the group or was acknowledged, and every acknowledgement
  was justified when it was given (`Kept.step`, `Kept.run`);
* `Fleet.no_entry_is_lost` : at every moment every entry is unread, or pending, or its
  acknowledgement was justified (`mishaps_lose_nothing`).

The tasks of one consumer are done one after the other, so only its first task can depend on what it
has done. Two consumers may be busy with one entry at the same time, and both may acknowledge it:
what others do is no part of a delivery, and a copy stays among the dead letters.
-/

namespace BookingNotices.Stream

variable {σ η : Type}

/-! ## Tasks -/

/-- The first task is in order, and no other has begun. -/
def Going (history : List (Deed η)) (s : Server) (handlers : String → List η) (i : Nat) :
    List (Task η) → Prop
  | [] => True
  | t :: ts => Standing history s handlers i t.jobs ∧ ∀ t ∈ ts, ∀ j ∈ t.jobs, j.Fresh s handlers

section Going

variable {history deeds : List (Deed η)} {s s' : Server} {handlers : String → List η} {i : Nat}
  {tasks : List (Task η)}

theorem Going.of_fresh (h : ∀ t ∈ tasks, ∀ j ∈ t.jobs, j.Fresh s handlers) :
    Going history s handlers i tasks := by
  cases tasks with
  | nil => trivial
  | cons t tasks =>
    obtain ⟨ht, htasks⟩ := List.forall_mem_cons.mp h
    exact ⟨.fresh ht, htasks⟩

/-- The tasks that have not begun depend on nothing. -/
theorem Going.fresh_tail (h : Going history s handlers i tasks) :
    ∀ t ∈ tasks.tail, ∀ j ∈ t.jobs, j.Fresh s handlers := by
  cases tasks with
  | nil => exact fun _ ht => nomatch ht
  | cons t tasks => exact h.2

theorem Going.concat (h : Going history s handlers i tasks) {t : Task η}
    (ht : ∀ j ∈ t.jobs, j.Fresh s handlers) : Going history s handlers i (tasks ++ [t]) := by
  cases tasks with
  | nil => exact ⟨.fresh ht, fun _ h => nomatch h⟩
  | cons first tasks =>
    refine ⟨h.1, fun t' ht' => ?_⟩
    rcases List.mem_append.mp ht' with ht' | ht'
    · exact h.2 t' ht'
    · rw [List.mem_singleton.mp ht']
      exact ht

/-- What others do leaves the tasks in order. -/
theorem Going.append (h : Going history s handlers i tasks) (hothers : ∀ d ∈ deeds, d.member ≠ i)
    (hkeeps : s.Keeps s') : Going (history ++ deeds) s' handlers i tasks := by
  cases tasks with
  | nil => trivial
  | cons t tasks =>
    exact ⟨h.1.append hothers hkeeps, fun t' ht' => Job.fresh_mono hkeeps (h.2 t' ht')⟩

end Going

/-! ## Steps of a consumer -/

namespace Member

variable {m : Member η} {handle : Handle σ η} {s : Site σ} {i : Nat}

/-- A step does the first job of the first task, and goes on with what follows from it, or with the
next task. -/
theorem step_cases (m : Member η) (handle : Handle σ η) (s : Site σ) (i : Nat) :
    (m.deed? i handle s = none ∧ (m.step handle s).2 = s ∧
      (m.step handle s).1.tasks = m.tasks.tail) ∨
    ∃ subject job jobs handled tasks, m.tasks = ⟨subject, job :: jobs, handled⟩ :: tasks ∧
      m.deed? i handle s = job.deed? i m handle s ∧
      (m.step handle s).2 = (m.perform handle s job).2 ∧
      ((m.step handle s).1.tasks = tasks ∨
        ∃ next, (m.perform handle s job).1 = .ok next ∧ (m.step handle s).1.tasks =
          ⟨subject, next.jobs ++ jobs, handled + next.handled⟩ :: (next.tasks ++ tasks)) := by
  obtain ⟨settings, subscriptions, tasks, outcomes⟩ := m
  rcases tasks with _ | ⟨⟨subject, _ | ⟨job, jobs⟩, handled⟩, tasks⟩
  · exact Or.inl ⟨rfl, rfl, rfl⟩
  · exact Or.inl ⟨rfl, rfl, rfl⟩
  · refine Or.inr ⟨subject, job, jobs, handled, tasks, rfl, rfl, ?_⟩
    simp only [step]
    split
    · rename_i hperform
      rw [hperform]
      exact ⟨rfl, Or.inl rfl⟩
    · rename_i next s' hperform
      rw [hperform]
      exact ⟨rfl, Or.inr ⟨next, rfl, rfl⟩⟩

/-- What a consumer is made for stays. -/
theorem step_unchanged (m : Member η) (handle : Handle σ η) (s : Site σ) :
    (m.step handle s).1.settings = m.settings ∧
      (m.step handle s).1.handlersOf = m.handlersOf := by
  unfold step
  split
  · exact ⟨rfl, rfl⟩
  · exact ⟨rfl, rfl⟩
  · split <;> exact ⟨rfl, rfl⟩

theorem member_of_deed? {d : Deed η} (h : m.deed? i handle s = some d) : d.member = i := by
  obtain ⟨hnone, -⟩ | ⟨-, job, -, -, -, -, hjob, -⟩ := m.step_cases handle s i
  · rw [hnone] at h
    cases h
  · exact (Job.of_deed? (hjob ▸ h)).1

/-- A step makes the server forget nothing but what it acknowledges. -/
theorem carries_step (hhandle : handle.OnlyAdds) :
    s.server.Carries m.settings.group
      (fun topic entry => m.deed? i handle s = some (.acknowledged i topic entry))
      (m.step handle s).2.server := by
  obtain ⟨-, hserver, -⟩ | ⟨-, job, -, -, -, -, hdeed, hserver, -⟩ := m.step_cases handle s i
  · rw [hserver]
    exact .refl _
  · rw [hserver, hdeed]
    exact m.carries_perform hhandle s job

/-- A step leaves the tasks in order. -/
theorem going_step {history : List (Deed η)} (hhandle : handle.OnlyAdds)
    (hs : s.server.InOrder m.settings.group) (h : Going history s.server m.handlersOf i m.tasks) :
    Going (history ++ (m.deed? i handle s).toList) (m.step handle s).2.server m.handlersOf i
      (m.step handle s).1.tasks := by
  obtain ⟨-, hserver, htasks⟩ | ⟨_, job, jobs, _, tasks, hm, hdeed, hserver, hnext⟩ :=
    m.step_cases handle s i
  · rw [hserver, htasks]
    exact .of_fresh h.fresh_tail
  · have hkeeps := (carries_step (m := m) (s := s) (i := i) hhandle).keeps
    rw [hm] at h
    have hrest := fun t ht => Job.fresh_mono hkeeps (h.2 t ht)
    rcases hnext with hfailed | ⟨next, hdone, hnext⟩
    · rw [hfailed]
      exact .of_fresh hrest
    · obtain ⟨hstanding, hnew⟩ := h.1.perform hhandle hs (Prod.ext hdone rfl)
      rw [hnext, hdeed, hserver]
      refine ⟨hstanding, fun t ht => ?_⟩
      rcases List.mem_append.mp ht with ht | ht
      · exact hnew t ht
      · exact hserver ▸ hrest t ht

end Member

/-- What a consumer in order acknowledges may be acknowledged. -/
theorem Going.justified {history : List (Deed η)} {m : Member η} {handle : Handle σ η} {s : Site σ}
    {i j : Nat} {topic : String} {entry : Nat} (h : Going history s.server m.handlersOf i m.tasks)
    (hdeed : m.deed? i handle s = some (.acknowledged j topic entry)) :
    j = i ∧ ∃ e ∈ (s.server.log topic).entries, e.number = entry ∧
      Justified history s.server i topic (m.handlersOf topic) e := by
  obtain ⟨hnone, -⟩ | ⟨_, job, jobs, _, tasks, hm, hjob, -⟩ := m.step_cases handle s i
  · rw [hnone] at hdeed
    cases hdeed
  · rw [hm] at h
    rw [hjob] at hdeed
    exact h.1.justified hdeed

/-! ## Fleets -/

namespace Fleet

/-- Every entry is awaited by the group or was acknowledged, and every acknowledgement was justified
when it was given; the tasks of all consumers are in order. -/
structure Kept (group : String) (handlers : Nat → String → List η) (f : Fleet σ η) : Prop where
  inOrder : f.site.server.InOrder group
  members : ∀ i m, f.members[i]? = some m → m.settings.group = group ∧ m.handlersOf = handlers i ∧
    Going f.history f.site.server (handlers i) i m.tasks
  justified : ∀ i topic entry before after,
    f.history = before ++ .acknowledged i topic entry :: after →
      ∃ e ∈ (f.site.server.log topic).entries, e.number = entry ∧
        Justified before f.site.server i topic (handlers i topic) e
  awaited : ∀ topic, ∀ e ∈ (f.site.server.log topic).entries,
    (f.site.server.log topic).Awaits group e.number ∨
      ∃ i, .acknowledged i topic e.number ∈ f.history

/-- What is in a history with one more deed was there before, or is the deed. -/
theorem split_concat {α : Type} {history before after : List α} {new? : Option α} {a : α}
    (h : history ++ new?.toList = before ++ a :: after) :
    (∃ rest, history = before ++ a :: rest) ∨ before = history ∧ new? = some a := by
  cases new? with
  | none => exact Or.inl ⟨after, (List.append_nil history).symm.trans h⟩
  | some new =>
    rcases List.eq_nil_or_concat after with rfl | ⟨rest, last, rfl⟩
    · obtain ⟨hbefore, hnew⟩ := List.append_inj' h rfl
      exact Or.inr ⟨hbefore.symm, congrArg some (List.singleton_inj.mp hnew)⟩
    · rw [List.concat_eq_append, ← List.cons_append, ← List.append_assoc] at h
      exact Or.inl ⟨rest, (List.append_inj' h rfl).1⟩

section Kept

variable {group : String} {handlers : Nat → String → List η} {handle : Handle σ η} {f : Fleet σ η}

/-- A fleet stays in order if what is acknowledged may be, and nothing else is forgotten. -/
theorem Kept.next (h : f.Kept group handlers) {site : Site σ} {members : List (Member η)}
    (deed? : Option (Deed η))
    (hcarries : f.site.server.Carries group
      (fun topic entry => ∃ i, deed? = some (.acknowledged i topic entry)) site.server)
    (hdeed : ∀ i topic entry, deed? = some (.acknowledged i topic entry) →
      ∃ e ∈ (f.site.server.log topic).entries, e.number = entry ∧
        Justified f.history f.site.server i topic (handlers i topic) e)
    (hmembers : ∀ i m, members[i]? = some m → m.settings.group = group ∧
      m.handlersOf = handlers i ∧
      Going (f.history ++ deed?.toList) site.server (handlers i) i m.tasks) :
    Kept group handlers ⟨site, members, f.history ++ deed?.toList⟩ := by
  have hkeeps := hcarries.keeps
  refine ⟨fun topic => (hcarries topic).inOrder (h.inOrder topic), hmembers, ?_,
    fun topic e he => ?_⟩
  · intro i topic entry before after hsplit
    have hearlier : ∃ e ∈ (f.site.server.log topic).entries, e.number = entry ∧
        Justified before f.site.server i topic (handlers i topic) e := by
      rcases split_concat hsplit with ⟨rest, hhistory⟩ | ⟨rfl, hnew⟩
      · exact h.justified i topic entry before rest hhistory
      · exact hdeed i topic entry hnew
    obtain ⟨e, he, hnumber, hjustified⟩ := hearlier
    have hlater : Justified (before ++ []) site.server i topic (handlers i topic) e :=
      hjustified.append (fun _ hd => nomatch hd) hkeeps
    rw [List.append_nil] at hlater
    exact ⟨e, hkeeps topic he, hnumber, hlater⟩
  · by_cases hold : ∃ i, .acknowledged i topic e.number ∈ f.history
    · obtain ⟨i, hi⟩ := hold
      exact Or.inr ⟨i, List.mem_append_left _ hi⟩
    · refine ((hcarries topic).awaits (h.inOrder topic) e he fun he' => ?_).imp_right ?_
      · exact (h.awaited topic e he').resolve_right hold
      · rintro ⟨i, rfl⟩
        exact ⟨i, List.mem_append_right _ List.mem_cons_self⟩

/-- Nothing is forgotten while others add entries. -/
theorem Kept.grow (h : f.Kept group handlers) {server : Server}
    (hgrows : f.site.server.Grows server) :
    Kept group handlers { f with site := { f.site with server := server } } := by
  have hnext : Kept group handlers ⟨{ f.site with server := server }, f.members,
      f.history ++ (none : Option (Deed η)).toList⟩ := by
    refine h.next none hgrows.carries (fun _ _ _ hnone => nomatch hnone) fun i m hm => ?_
    obtain ⟨hgroup, hhandlers, hgoing⟩ := h.members i m hm
    exact ⟨hgroup, hhandlers, hgoing.append (fun _ hd => nomatch hd) hgrows.keeps⟩
  rwa [Option.toList_none, List.append_nil] at hnext

/-- Nothing is forgotten when a consumer gets other tasks. -/
theorem Kept.modify (h : f.Kept group handlers) (i : Nat) {change : Member η → Member η}
    (hchange : ∀ m, (change m).settings = m.settings ∧ (change m).handlersOf = m.handlersOf ∧
      (Going f.history f.site.server m.handlersOf i m.tasks →
        Going f.history f.site.server m.handlersOf i (change m).tasks)) :
    Kept group handlers { f with members := f.members.modify i change } := by
  refine ⟨h.inOrder, fun j m' hm' => ?_, h.justified, h.awaited⟩
  rw [List.getElem?_modify] at hm'
  cases hm : f.members[j]? with
  | none =>
    rw [hm] at hm'
    cases hm'
  | some m =>
    rw [hm] at hm'
    obtain ⟨hgroup, hhandlers, hgoing⟩ := h.members j m hm
    by_cases hij : i = j
    · subst hij
      cases Option.some.inj (hm'.symm.trans (congrArg some (if_pos rfl)))
      obtain ⟨hsettings, hsame, htasks⟩ := hchange m
      rw [← hhandlers] at hgoing ⊢
      exact ⟨hsettings ▸ hgroup, hsame, htasks hgoing⟩
    · cases Option.some.inj (hm'.symm.trans (congrArg some (if_neg hij)))
      exact ⟨hgroup, hhandlers, hgoing⟩

/-- A consumer does its next thing. -/
theorem Kept.advance (hhandle : handle.OnlyAdds) (h : f.Kept group handlers) (i : Nat) :
    (f.step handle (.advance i)).Kept group handlers := by
  unfold step
  dsimp only
  split
  · exact h
  · rename_i m hm
    obtain ⟨hgroup, hhandlers, hgoing⟩ := h.members i m hm
    rw [← hhandlers] at hgoing
    have hcarries := Member.carries_step (m := m) (s := f.site) (i := i) hhandle
    refine h.next (m.deed? i handle f.site) ?_ ?_ ?_
    · exact hgroup ▸ hcarries.mono fun topic entry hdeed => ⟨i, hdeed⟩
    · intro j topic entry hdeed
      obtain ⟨rfl, hjustified⟩ := hgoing.justified hdeed
      exact hhandlers ▸ hjustified
    · intro j m' hm'
      rw [List.getElem?_set] at hm'
      split at hm'
      · rename_i hij
        subst hij
        split at hm'
        · cases hm'
          obtain ⟨hsettings, hsame⟩ := m.step_unchanged handle f.site
          refine ⟨hsettings ▸ hgroup, hsame.trans hhandlers, ?_⟩
          have hserver : f.site.server.InOrder m.settings.group := hgroup ▸ h.inOrder
          exact hhandlers ▸ Member.going_step hhandle hserver hgoing
        · cases hm'
      · rename_i hij
        obtain ⟨hgroup', hhandlers', hgoing'⟩ := h.members j m' hm'
        refine ⟨hgroup', hhandlers', hgoing'.append (fun d hd => ?_) hcarries.keeps⟩
        rw [Member.member_of_deed? (Option.mem_toList.mp hd)]
        exact hij

theorem Kept.step (hhandle : handle.OnlyAdds) (h : f.Kept group handlers) (move : Move) :
    (f.step handle move).Kept group handlers := by
  cases move with
  | read i =>
    refine h.modify i fun m => ?_
    unfold Member.reading
    split
    · exact ⟨rfl, rfl, id⟩
    · refine ⟨rfl, rfl, fun hgoing => hgoing.concat fun j hj => ?_⟩
      rcases List.mem_append.mp hj with hj | hj
      · obtain ⟨topic, -, rfl⟩ := List.mem_map.mp hj
        trivial
      · cases List.mem_singleton.mp hj
        trivial
  | poll i =>
    refine h.modify i fun m => ?_
    unfold Member.polling
    split
    · exact ⟨rfl, rfl, id⟩
    · refine ⟨rfl, rfl, fun hgoing => hgoing.concat fun j hj => ?_⟩
      cases List.mem_singleton.mp hj
      trivial
  | reclaim i topic =>
    refine h.modify i fun m => ?_
    unfold Member.tending
    split
    · rename_i htopic
      refine ⟨rfl, rfl, fun hgoing => hgoing.concat fun j hj => ?_⟩
      cases List.mem_singleton.mp hj
      exact Member.handlersOf_ne_nil htopic
    · exact ⟨rfl, rfl, id⟩
  | advance i => exact h.advance hhandle i
  | breakOff i => exact h.modify i fun m => ⟨rfl, rfl, fun hgoing => .of_fresh hgoing.fresh_tail⟩
  | add topic fields => exact h.grow (.add topic fields (.still rfl))
  | wait millis => exact h.grow (.still rfl)

theorem Kept.run (hhandle : handle.OnlyAdds) (h : f.Kept group handlers) (moves : List Move) :
    (f.run handle moves).Kept group handlers := by
  induction moves generalizing f with
  | nil => exact h
  | cons move moves ih => exact ih (h.step hhandle move)

/-- Consumers that have nothing to do yet, with a server that has no entries. -/
theorem Kept.begin {site : Site σ} (hsite : site.server.logs = []) {members : List (Member η)}
    (hmembers : ∀ m ∈ members, m.settings.group = group ∧ m.tasks = []) :
    Kept group (handlersOf ⟨site, members, []⟩) ⟨site, members, []⟩ := by
  have hempty (topic : String) : site.server.log topic = {} := by
    unfold Server.log
    rw [hsite]
    rfl
  refine ⟨fun topic => ?_, fun i m hm => ?_, fun i topic entry before after hnil => ?_,
    fun topic e he => ?_⟩
  · exact hempty topic ▸ .empty group
  · obtain ⟨hgroup, htasks⟩ := hmembers m (List.mem_of_getElem? hm)
    refine ⟨hgroup, ?_, htasks ▸ trivial⟩
    funext topic
    unfold handlersOf
    dsimp only at hm ⊢
    rw [hm]
    rfl
  · cases before <;> cases hnil
  · rw [hempty] at he
    cases he

end Kept

/-! ## What is lost -/

/-- A handler that passes every event on to a topic. -/
def relay : Handle Unit String := fun topic e s => s.publish { e with topic := topic }

/-- Two consumers, of which the second one passes events on twice. -/
def pair : List (Member String) :=
  [{ subscriptions := [("booking", "mail")] },
    { settings := { consumer := "notification_service-2" }
      subscriptions := [("booking", "mail"), ("booking", "audit")] }]

end Fleet

end BookingNotices.Stream
