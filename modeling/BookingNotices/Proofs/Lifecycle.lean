import BookingNotices.Proofs.Store
import Mathlib.Data.List.Destutter

/-!
# The calls on a notice

* `Notice.Call`          : a call that may change a notice;
* `Call.method`          : the call carried out in place, with its checks and assignments in order;
* `Call.method_run`      : in place it does what `Call.apply` does to a copy, and a call that is
  refused has assigned nothing;
* `Notice.history`       : the calls on a notice with what each found, answered and left;
* `Entry.Effect`         : the kinds of call that there are (`Entry.effect_of`);
* `Notice.Told`          : a notice agrees with the calls that ended the work on it (`Told.run`);
* `history_of_pending`   : what all histories of a new notice have in common.

The calls of a history may come in any order, and any of them may be refused.
-/

namespace BookingNotices.Notice

/-- A call that may change a notice. -/
inductive Call where
  | claim
  | completeWith (document : String)
  | complete
  | fail
  | touch
  deriving DecidableEq, Repr

/-! ## Calls in place -/

/-- A method that changes a notice in place. If it gives an error, then what it has assigned before
that stays assigned. -/
abbrev Method := EStateM Error Notice Unit

namespace Method

/-- The step to a status: the status is assigned, and then the instant. -/
def advance (target : Status) (now : Timestamp) : Method := do
  let n ← get
  match n.status.advance target with
  | .error r => throw (.invalid ("notification " ++ n.id.toText ++ ": " ++ r.message))
  | .ok status =>
    modify fun n => { n with status := status }
    modify fun n => { n with updated := now }

/-- The text is checked before the step, and assigned after it. -/
def completeWith (document : String) (now : Timestamp) : Method := do
  if Text.allBlank document then throw (.invalid "document reference cannot be empty")
  advance .success now
  modify fun n => { n with document := document }

/-- The status is checked, and only the instant is assigned. -/
def touch (now : Timestamp) : Method := do
  let n ← get
  if n.status ≠ .processing then
    throw (.invalid ("only processing notifications can be renewed, notification " ++
      n.id.toText ++ " is " ++ n.status.text))
  modify fun n => { n with updated := now }

end Method

namespace Call

/-- The call, carried out in place. -/
def method (now : Timestamp) : Call → Method
  | .claim => Method.advance .processing now
  | .completeWith document => Method.completeWith document now
  | .complete => Method.advance .success now
  | .fail => Method.advance .failed now
  | .touch => Method.touch now

/-- The call, carried out on a copy. -/
def apply (c : Call) (n : Notice) (now : Timestamp) : Except Error Notice :=
  match c with
  | .claim => n.claim now
  | .completeWith document => n.completeWith document now
  | .complete => n.complete now
  | .fail => n.fail now
  | .touch => n.touch now

/-- Whether the call would end the work on a notice. -/
def ends : Call → Bool
  | .completeWith _ | .complete | .fail => true
  | .claim | .touch => false

/-- The document that the call brings. -/
def document : Call → String
  | .completeWith document => document
  | _ => ""

end Call

/-- The notice in place, after a change to a copy of it. -/
def install (n : Notice) : Except Error Notice → EStateM.Result Error Notice Unit
  | .ok n' => .ok () n'
  | .error e => .error e n

/-- A method begins with the notice as it is. -/
theorem Method.get_bind (method : Notice → Method) (n : Notice) :
    EStateM.run (do let m ← get; method m) n = (method n).run n := rfl

theorem Method.advance_run (target : Status) (now : Timestamp) (n : Notice) :
    (Method.advance target now).run n = n.install (n.advance target now) := by
  unfold Method.advance Notice.advance
  rw [Method.get_bind]
  cases n.status.advance target <;> rfl

theorem Method.completeWith_run (document : String) (now : Timestamp) (n : Notice) :
    (Method.completeWith document now).run n = n.install (n.completeWith document now) := by
  unfold Method.completeWith Notice.completeWith
  by_cases hblank : Text.allBlank document = true
  · rw [if_pos hblank, if_pos hblank]
    rfl
  · rw [if_neg hblank, if_neg hblank]
    have hadvance := Method.advance_run .success now n
    simp only [EStateM.run] at hadvance
    simp only [EStateM.run, bind, EStateM.bind, hadvance]
    cases n.advance .success now <;> rfl

theorem Method.touch_run (now : Timestamp) (n : Notice) :
    (Method.touch now).run n = n.install (n.touch now) := by
  unfold Method.touch Notice.touch
  rw [Method.get_bind]
  by_cases hprocessing : n.status = .processing
  · rw [if_pos hprocessing, if_neg (not_not_intro hprocessing)]
    rfl
  · rw [if_neg hprocessing, if_pos hprocessing]
    rfl

/-- In place a call does what it does to a copy, and nothing if it is refused. -/
theorem Call.method_run (c : Call) (now : Timestamp) (n : Notice) :
    (c.method now).run n = n.install (c.apply n now) := by
  cases c with
  | claim => exact Method.advance_run .processing now n
  | completeWith document => exact Method.completeWith_run document now n
  | complete => exact Method.advance_run .success now n
  | fail => exact Method.advance_run .failed now n
  | touch => exact Method.touch_run now n

/-! ## Histories -/

/-- A call on a notice, with what it found, answered and left. -/
structure Entry where
  call : Call
  before : Notice
  answer : Except Error Unit
  after : Notice

namespace Entry

/-- The entry of a call that is carried out. -/
def of (c : Call) (n : Notice) (now : Timestamp) : Entry :=
  match (c.method now).run n with
  | .ok _ n' => ⟨c, n, .ok (), n'⟩
  | .error e n' => ⟨c, n, .error e, n'⟩

/-- Whether the call was one that ends the work, and was not refused. -/
def completes (entry : Entry) : Bool := entry.call.ends && entry.answer.isOk

/-- What a call may do: it is refused and leaves the notice as it was, or its status allows the
call and the fields of the call are assigned. -/
inductive Effect (now : Timestamp) : Entry → Prop where
  | refused (c : Call) (n : Notice) (e : Error) : Effect now ⟨c, n, .error e, n⟩
  | claimed {n : Notice} (h : n.status = .pending) :
      Effect now ⟨.claim, n, .ok (), { n with status := .processing, updated := now }⟩
  | touched {n : Notice} (h : n.status = .processing) :
      Effect now ⟨.touch, n, .ok (), { n with updated := now }⟩
  /-- a document that is not blank is kept -/
  | documented {n : Notice} {document : String} (h : n.status = .processing)
      (hdocument : document ≠ "") :
      Effect now ⟨.completeWith document, n, .ok (),
        { n with status := .success, document := document, updated := now }⟩
  | completed {n : Notice} (h : n.status = .processing) :
      Effect now ⟨.complete, n, .ok (), { n with status := .success, updated := now }⟩
  | failed {n : Notice} (h : n.status = .processing) :
      Effect now ⟨.fail, n, .ok (), { n with status := .failed, updated := now }⟩

end Entry

/-- Carries out calls one after another, each at an instant. -/
def history : Notice → List (Call × Timestamp) → List Entry
  | _, [] => []
  | n, (c, now) :: rest => .of c n now :: history (Entry.of c n now).after rest

/-- The notice at first, and after each of the calls. -/
def versions (n : Notice) (calls : List (Call × Timestamp)) : List Notice :=
  n :: (n.history calls).map Entry.after

/-- The notice after all of the calls. -/
def afterCalls (n : Notice) (calls : List (Call × Timestamp)) : Notice :=
  (n.versions calls).getLast (List.cons_ne_nil _ _)

/-! ## One call -/

/-- A step that is not refused leads to a status that may follow. -/
theorem advance_eq_ok {n n' : Notice} {target : Status} {now : Timestamp}
    (h : n.advance target now = .ok n') :
    target ∈ n.status.successors ∧ n' = { n with status := target, updated := now } := by
  unfold advance Status.advance Status.mayBecome at h
  by_cases hmay : n.status.successors.contains target = true
  · rw [if_pos hmay] at h
    cases h
    exact ⟨List.contains_iff_mem.mp hmay, rfl⟩
  · rw [if_neg hmay] at h
    cases h

theorem completeWith_eq_ok {n n' : Notice} {document : String} {now : Timestamp}
    (h : n.completeWith document now = .ok n') :
    document ≠ "" ∧ .success ∈ n.status.successors ∧
      n' = { n with status := .success, document := document, updated := now } := by
  unfold completeWith at h
  by_cases hblank : Text.allBlank document = true
  · rw [if_pos hblank] at h
    cases h
  · rw [if_neg hblank] at h
    have hdocument : document ≠ "" := by
      rintro rfl
      exact hblank rfl
    cases hadvance : n.advance .success now with
    | error e => rw [hadvance] at h; cases h
    | ok n₁ =>
      obtain ⟨hmem, rfl⟩ := advance_eq_ok hadvance
      rw [hadvance] at h
      cases h
      exact ⟨hdocument, hmem, rfl⟩

theorem touch_eq_ok {n n' : Notice} {now : Timestamp} (h : n.touch now = .ok n') :
    n.status = .processing ∧ n' = { n with updated := now } := by
  unfold touch at h
  by_cases hprocessing : n.status = .processing
  · rw [if_pos hprocessing] at h
    cases h
    exact ⟨hprocessing, rfl⟩
  · rw [if_neg hprocessing] at h
    cases h

theorem pending_of_successor {s : Status} (h : .processing ∈ s.successors) : s = .pending := by
  revert h
  cases s <;> decide

theorem processing_of_successor {s target : Status} (hfinal : target.isFinal = true)
    (h : target ∈ s.successors) : s = .processing := by
  revert hfinal h
  cases s <;> cases target <;> decide

/-- What a call does, if it is not refused on a copy. -/
theorem Entry.effect_of_apply {c : Call} {n n' : Notice} {now : Timestamp}
    (h : c.apply n now = .ok n') : Effect now ⟨c, n, .ok (), n'⟩ := by
  cases c with
  | claim =>
    obtain ⟨hmem, rfl⟩ := advance_eq_ok h
    exact .claimed (pending_of_successor hmem)
  | completeWith document =>
    obtain ⟨hdocument, hmem, rfl⟩ := completeWith_eq_ok h
    exact .documented (processing_of_successor rfl hmem) hdocument
  | complete =>
    obtain ⟨hmem, rfl⟩ := advance_eq_ok h
    exact .completed (processing_of_successor rfl hmem)
  | fail =>
    obtain ⟨hmem, rfl⟩ := advance_eq_ok h
    exact .failed (processing_of_successor rfl hmem)
  | touch =>
    obtain ⟨hprocessing, rfl⟩ := touch_eq_ok h
    exact .touched hprocessing

/-- Every call that is carried out has one of these effects. -/
theorem Entry.effect_of (c : Call) (n : Notice) (now : Timestamp) :
    (Entry.of c n now).Effect now := by
  unfold Entry.of
  rw [Call.method_run]
  cases happly : c.apply n now with
  | error e => exact .refused c n e
  | ok n' => exact effect_of_apply happly

theorem effect_of_mem_history {n : Notice} {calls : List (Call × Timestamp)} {entry : Entry}
    (h : entry ∈ n.history calls) : ∃ now, entry.Effect now := by
  induction calls generalizing n with
  | nil => cases h
  | cons call rest ih =>
    rcases List.mem_cons.mp h with rfl | h
    · exact ⟨call.2, Entry.effect_of call.1 n call.2⟩
    · exact ih h

@[simp] theorem Entry.before_of (c : Call) (n : Notice) (now : Timestamp) :
    (Entry.of c n now).before = n := by
  unfold Entry.of
  split <;> rfl

namespace Entry.Effect

variable {now : Timestamp} {entry : Entry}

theorem after_of_error (h : entry.Effect now) {e : Error} (he : entry.answer = .error e) :
    entry.after = entry.before := by
  cases h with
  | refused => rfl
  | _ => cases he

theorem after_of_touch (h : entry.Effect now) (hc : entry.call = .touch) :
    entry.after = { entry.before with updated := entry.after.updated } := by
  cases h with
  | refused => rfl
  | touched => rfl
  | _ => cases hc

theorem kin (h : entry.Effect now) : Kin entry.before entry.after := by
  cases h <;> exact ⟨rfl, rfl, rfl⟩

theorem status (h : entry.Effect now) :
    entry.before.status = entry.after.status ∨
      entry.after.status ∈ entry.before.status.successors := by
  cases h with
  | refused => exact Or.inl rfl
  | claimed h => exact Or.inr (by simp [h, Status.successors])
  | touched => exact Or.inl rfl
  | documented h => exact Or.inr (by simp [h, Status.successors])
  | completed h => exact Or.inr (by simp [h, Status.successors])
  | failed h => exact Or.inr (by simp [h, Status.successors])

end Entry.Effect

/-! ## The statuses that a notice goes through -/

theorem head?_destutter' {α : Type} [DecidableEq α] (a : α) (l : List α) :
    (l.destutter' (· ≠ ·) a).head? = some a := by
  induction l with
  | nil => rfl
  | cons b l ih => by_cases h : a ≠ b <;> simp [h, ih]

/-- If what comes next is the same or related, then what comes next and differs is related. -/
theorem isChain_destutter' {α : Type} [DecidableEq α] {R : α → α → Prop} {a : α} {l : List α}
    (h : (a :: l).IsChain fun x y => x = y ∨ R x y) : (l.destutter' (· ≠ ·) a).IsChain R := by
  induction l generalizing a with
  | nil => exact .singleton a
  | cons b l ih =>
    obtain ⟨hab, hl⟩ := List.isChain_cons_cons.mp h
    by_cases hne : a ≠ b
    · rw [List.destutter'_cons_pos l hne]
      have hrel : R a b := hab.resolve_left hne
      apply List.isChain_cons.mpr
      refine ⟨fun y hy => ?_, ih hl⟩
      rw [head?_destutter'] at hy
      cases hy
      exact hrel
    · rw [List.destutter'_cons_neg l hne, not_not.mp hne]
      exact ih hl

theorem isChain_versions (n : Notice) (calls : List (Call × Timestamp)) :
    ((n.versions calls).map Notice.status).IsChain fun s s' => s = s' ∨ s' ∈ s.successors := by
  induction calls generalizing n with
  | nil => exact .singleton _
  | cons call rest ih =>
    have hstatus := (Entry.effect_of call.1 n call.2).status
    rw [Entry.before_of] at hstatus
    exact .cons_cons hstatus (ih _)

/-- The statuses of a notice that starts as pending, without repetitions. -/
theorem prefix_of_isChain {l : List Status}
    (h : (.pending :: l).IsChain fun s s' => s' ∈ s.successors) :
    .pending :: l <+: [.pending, .processing, .success] ∨
      .pending :: l <+: [.pending, .processing, .failed] := by
  cases l with
  | nil => exact Or.inl ⟨_, rfl⟩
  | cons s l =>
    obtain ⟨hs, hl⟩ := List.isChain_cons_cons.mp h
    obtain rfl : s = .processing := List.mem_singleton.mp hs
    cases l with
    | nil => exact Or.inl ⟨_, rfl⟩
    | cons s l =>
      obtain ⟨hs, hl⟩ := List.isChain_cons_cons.mp hl
      have hend : l = [] := by
        cases l with
        | nil => rfl
        | cons s' l =>
          have hs' := (List.isChain_cons_cons.mp hl).1
          rcases List.mem_pair.mp hs with rfl | rfl <;> cases hs'
      subst hend
      rcases List.mem_pair.mp hs with rfl | rfl
      · exact Or.inl ⟨_, rfl⟩
      · exact Or.inr ⟨_, rfl⟩

/-! ## The call that ends the work -/

/-- A notice agrees with the calls that ended the work on it: there is none while the work goes on
and one afterwards, which brought the document. -/
inductive Told : Notice → List Entry → Prop where
  | going {n : Notice} (hopen : n.status.isFinal = false) (hdocument : n.document = "") : Told n []
  | ended {n : Notice} {entry : Entry} (hfinal : n.status.isFinal = true)
      (hcompletes : entry.completes = true) (hdocument : n.document = entry.call.document)
      (hnonempty : ∀ document, entry.call = .completeWith document → document ≠ "") :
      Told n [entry]

namespace Told

variable {n : Notice} {ends : List Entry}

theorem nil_of_open (h : Told n ends) (hopen : n.status.isFinal = false) :
    ends = [] ∧ n.document = "" := by
  cases h with
  | going _ hdocument => exact ⟨rfl, hdocument⟩
  | ended hfinal => rw [hopen] at hfinal; cases hfinal

theorem step {entry : Entry} {now : Timestamp} (h : Told entry.before ends)
    (heffect : entry.Effect now) :
    Told entry.after (ends ++ [entry].filter Entry.completes) := by
  -- a call that ends the work finds it going on
  have hnil (hprocessing : entry.before.status = .processing) :
      ends = [] ∧ entry.before.document = "" :=
    h.nil_of_open (by rw [hprocessing]; rfl)
  cases heffect with
  | refused c n e =>
    have hnot : Entry.completes ⟨c, n, .error e, n⟩ = false := Bool.and_false _
    rw [List.filter_singleton, hnot]
    simpa using h
  | claimed hpending =>
    obtain ⟨rfl, hdocument⟩ := h.nil_of_open (by rw [hpending]; rfl)
    exact .going rfl hdocument
  | touched hprocessing =>
    obtain ⟨rfl, hdocument⟩ := hnil hprocessing
    exact .going (by rw [hprocessing]; rfl) hdocument
  | documented hprocessing hdocument =>
    obtain ⟨rfl, -⟩ := hnil hprocessing
    refine .ended rfl rfl rfl ?_
    intro document hcall
    cases hcall
    exact hdocument
  | completed hprocessing =>
    obtain ⟨rfl, hdocument⟩ := hnil hprocessing
    exact .ended rfl rfl hdocument fun _ hcall => nomatch hcall
  | failed hprocessing =>
    obtain ⟨rfl, hdocument⟩ := hnil hprocessing
    exact .ended rfl rfl hdocument fun _ hcall => nomatch hcall

theorem run (h : Told n ends) (calls : List (Call × Timestamp)) :
    Told (n.afterCalls calls) (ends ++ (n.history calls).filter Entry.completes) := by
  induction calls generalizing n ends with
  | nil =>
    rw [history, List.filter_nil, List.append_nil]
    exact h
  | cons call rest ih =>
    have hstep := step (by rwa [Entry.before_of]) (Entry.effect_of call.1 n call.2)
    have hrest := ih hstep
    rwa [List.append_assoc, ← List.filter_append] at hrest

theorem length_le (h : Told n ends) : ends.length ≤ 1 := by
  cases h <;> simp

theorem document_eq (h : Told n ends) {entry : Entry} (hentry : entry ∈ ends) {document : String}
    (hcall : entry.call = .completeWith document) : n.document = document := by
  cases h with
  | going => cases hentry
  | ended _ _ hdocument =>
    cases List.mem_singleton.mp hentry
    rw [hdocument, hcall]
    rfl

theorem document_ne (h : Told n ends) :
    n.document ≠ "" ↔ ∃ entry ∈ ends, ∃ document, entry.call = .completeWith document := by
  constructor
  · intro hne
    cases h with
    | going _ hdocument => exact absurd hdocument hne
    | @ended entry _ _ hdocument _ =>
      refine ⟨entry, List.mem_singleton_self entry, ?_⟩
      rw [hdocument] at hne
      cases hcall : entry.call with
      | completeWith document => exact ⟨document, rfl⟩
      | _ => rw [hcall] at hne; exact absurd rfl hne
  · rintro ⟨entry, hentry, document, hcall⟩
    rw [h.document_eq hentry hcall]
    cases h with
    | going => cases hentry
    | ended _ _ _ hnonempty =>
      cases List.mem_singleton.mp hentry
      exact hnonempty document hcall

end Told

/-! ## Every history -/

theorem kin_of_mem_versions {n m : Notice} {calls : List (Call × Timestamp)}
    (h : m ∈ n.versions calls) : Kin n m := by
  induction calls generalizing n with
  | nil =>
    obtain rfl := List.mem_singleton.mp h
    exact Kin.refl m
  | cons call rest ih =>
    rcases List.mem_cons.mp h with rfl | h
    · exact Kin.refl m
    · have hkin := (Entry.effect_of call.1 n call.2).kin
      rw [Entry.before_of] at hkin
      exact hkin.trans (ih h)

/-- Whatever is called on a new notice, and whatever of that is refused: a call that gives an error
leaves all of the notice as it was; the status goes from pending to processing and on to one of the
final ones; at most one call ends the work; there is a document only if that call brought one, and
it is that one; the identity, the booking and the creation stay; and a renewal changes the instant
of the last step only. -/
theorem history_of_pending (booking : BookingId) (start : Timestamp)
    (calls : List (Call × Timestamp)) :
    let n := pending booking start
    let ends := (n.history calls).filter Entry.completes
    let statuses := ((n.versions calls).map Notice.status).destutter (· ≠ ·)
    (∀ entry ∈ n.history calls, ∀ e, entry.answer = .error e → entry.after = entry.before) ∧
    (statuses <+: [.pending, .processing, .success] ∨
      statuses <+: [.pending, .processing, .failed]) ∧
    ends.length ≤ 1 ∧
    ((n.afterCalls calls).document ≠ "" ↔
      ∃ entry ∈ ends, ∃ document, entry.call = .completeWith document) ∧
    (∀ entry ∈ ends, ∀ document, entry.call = .completeWith document →
      (n.afterCalls calls).document = document) ∧
    (∀ m ∈ n.versions calls, m.id = n.id ∧ m.booking = booking ∧ m.created = start) ∧
    (∀ entry ∈ n.history calls, entry.call = .touch →
      entry.after = { entry.before with updated := entry.after.updated }) := by
  intro n ends statuses
  have htold : Told (n.afterCalls calls) ends :=
    (Told.going rfl rfl : Told n []).run calls
  refine ⟨?_, ?_, htold.length_le, htold.document_ne, ?_, ?_, ?_⟩
  · intro entry hentry e he
    obtain ⟨now, heffect⟩ := effect_of_mem_history hentry
    exact heffect.after_of_error he
  · have hchain := isChain_destutter' (isChain_versions n calls)
    have hhead : statuses.head? = some .pending := head?_destutter' _ _
    obtain ⟨rest, hstatuses⟩ := List.head?_eq_some_iff.mp hhead
    rw [hstatuses]
    apply prefix_of_isChain
    rw [← hstatuses]
    exact hchain
  · intro entry hentry document hcall
    exact htold.document_eq hentry hcall
  · intro m hm
    have hkin := kin_of_mem_versions hm
    exact ⟨hkin.id, hkin.booking, hkin.created⟩
  · intro entry hentry hcall
    obtain ⟨now, heffect⟩ := effect_of_mem_history hentry
    exact heffect.after_of_touch hcall

end BookingNotices.Notice
