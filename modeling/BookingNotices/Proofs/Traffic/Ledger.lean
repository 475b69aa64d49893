import BookingNotices.Proofs.Traffic.Step

/-!
# At most one outcome and one mail

* `Deed.Books`         : how the deeds of one step balance (`Acts.books`);
* `Traffic.Ledger`     : how all deeds about a row balance, and that a row whose outcome was stored
  is final (`Ledger.happens`);
* `outcome_and_mail_at_most_once` : whoever works on the rows of a store, and in whatever order,
  each row gets at most one outcome, one mail and one completion.

Three guards carry this: a row is claimed only while it waits, its claim is renewed only while it is
claimed, and an outcome is stored only over a claim. So the outcome of a row is stored once, and
who stored it mails it.
-/

namespace BookingNotices

/-! ## The deeds of one step -/

namespace Deed

/-- How the deeds of one step balance with the mail owed before and after it. -/
structure Books (id : NoticeId) (ds : List Deed) (before after : Nat) : Prop where
  mailed : ds.countP (Deed.mails id) + ds.countP (Deed.spoils id) + after =
    ds.countP (Deed.due id) + before
  handed : ds.countP (Deed.hands id) ≤ ds.countP (Deed.mails id) + ds.countP (Deed.spoils id)
  completed : ds.countP (Deed.completes id) + ds.countP (Deed.due id) =
    ds.countP (Deed.mails id) + ds.countP (Deed.lands id)
  due : ds.countP (Deed.due id) ≤ ds.countP (Deed.lands id)

theorem Books.nil (id : NoticeId) (owed : Nat) : Books id [] owed owed :=
  ⟨by simp, Nat.le_refl _, rfl, Nat.le_refl _⟩

theorem Books.creation (id : NoticeId) (w : World) (booking : BookingId) (cause : Option String) :
    Books id [Call.creationDeed w booking cause] 0 0 :=
  ⟨rfl, Nat.le_refl _, rfl, Nat.le_refl _⟩

end Deed

namespace Worker

/-- Whether a worker owes the mail about a row. -/
def owes (id : NoticeId) (k : Worker) : Bool :=
  match k.owed? with
  | some n => n.id = id
  | none => false

theorem owes_of_idle {k : Worker} (h : k.owed? = none) (id : NoticeId) : k.owes id = false := by
  unfold owes
  rw [h]

theorem Acts.books {k k' : Worker} {w w' : World} {ds : List Deed} (h : k.Acts w k' w' ds)
    (id : NoticeId) : Deed.Books id ds (k.owes id).toNat (k'.owes id).toNat := by
  cases h with
  | claimed hk =>
    subst hk
    exact ⟨rfl, Nat.le_refl _, rfl, Nat.le_refl _⟩
  | renewed hk =>
    subst hk
    exact ⟨rfl, Nat.le_refl _, rfl, Nat.le_refl _⟩
  | worked hk hk' =>
    rw [owes_of_idle (owed?_of_lease? hk), owes_of_idle (owed?_of_lease? hk')]
    exact Deed.Books.nil id _
  | stopped hk =>
    rw [owes_of_idle hk]
    exact Deed.Books.nil id _
  | composed hk =>
    subst hk
    exact Deed.Books.nil id _
  | @landed n _ _ _ hresolves hn =>
    obtain ⟨_, _, _, rfl, -⟩ := hresolves.claim
    by_cases hid : n.id = id <;> constructor <;>
      simp [owes, owed?, hid, hn]
  | @settled n _ hresolves hn =>
    obtain ⟨_, _, _, rfl, -⟩ := hresolves.claim
    by_cases hid : n.id = id <;> constructor <;>
      simp [owes, owed?, hid, hn]
  | @spoiled n _ _ _ _ hk =>
    subst hk
    by_cases hid : n.id = id <;> constructor <;>
      simp [owes, owed?, hid]
  | @refused n _ _ _ hk =>
    subst hk
    by_cases hid : n.id = id <;> constructor <;>
      simp [owes, owed?, hid]
  | @accepted n _ _ hk =>
    subst hk
    by_cases hid : n.id = id <;> constructor <;>
      simp [owes, owed?, hid]

/-- The outcome of a row is stored by one deed of a step, over a claim, and the row is final from
then on; or by none. -/
def Lands (id : NoticeId) (ds : List Deed) (w w' : World) : Prop :=
  ds.countP (Deed.lands id) = 0 ∨ ds.countP (Deed.lands id) = 1 ∧
    (∃ row, w.store.rows.find? id = some row ∧ row.status = .processing) ∧
    ∃ n, w'.store.rows.find? id = some n ∧ n.status.isFinal = true

theorem Acts.lands {k k' : Worker} {w w' : World} {ds : List Deed} (h : k.Acts w k' w' ds)
    (id : NoticeId) : Lands id ds w w' := by
  have resolved {n : Notice} {ds : List Deed} (hresolves : k.Resolves w n w')
      (hfinal : n.status.isFinal = true)
      (hds : ds.countP (Deed.lands id) = if n.id = id then 1 else 0) : Lands id ds w w' := by
    obtain ⟨since, booking, user, -, hclaim⟩ := hresolves.claim
    obtain ⟨row, hrow, hprocessing, -⟩ := Store.claimHolds_iff.mp hclaim
    split at hds
    · rename_i hid
      subst hid
      refine Or.inr ⟨hds, ⟨row, hrow, hprocessing⟩, n, ?_, hfinal⟩
      rw [hresolves.puts.store]
      exact Store.find?_put_self _ n
    · exact Or.inl hds
  cases h with
  | landed hresolves hn => exact resolved hresolves (by rw [hn]; rfl) (by simp)
  | settled hresolves hn => exact resolved hresolves (by rw [hn]; rfl) (by simp [List.countP_cons])
  | _ => exact Or.inl rfl

end Worker

/-! ## All deeds -/

/-- Whether a call owes the mail about a row. -/
def Call.owes (id : NoticeId) (c : Call) : Bool :=
  match c.worker? with
  | some k => k.owes id
  | none => false

theorem Call.owes_of_worker {c : Call} {k : Worker} (h : c.worker? = some k) (id : NoticeId) :
    c.owes id = k.owes id := by
  unfold owes
  rw [h]

theorem Call.Idle.owes {c : Call} (h : c.Idle) (id : NoticeId) : c.owes id = false := by
  unfold Call.owes
  split
  · rename_i k hk
    exact Worker.owes_of_idle (h k hk).2 id
  · rfl

namespace Traffic

/-- How many calls owe the mail about a row. -/
def owing (id : NoticeId) (t : Traffic) : Nat := t.calls.countP (Call.owes id)

/-- The deeds about a row balance, and a row whose outcome was stored is final. -/
structure Ledger (id : NoticeId) (t : Traffic) : Prop where
  mailed : t.tally (Deed.mails id) + t.tally (Deed.spoils id) + t.owing id =
    t.tally (Deed.due id)
  handed : t.tally (Deed.hands id) ≤ t.tally (Deed.mails id) + t.tally (Deed.spoils id)
  completed : t.tally (Deed.completes id) + t.tally (Deed.due id) =
    t.tally (Deed.mails id) + t.tally (Deed.lands id)
  due : t.tally (Deed.due id) ≤ t.tally (Deed.lands id)
  once : t.tally (Deed.lands id) ≤ 1
  final : 0 < t.tally (Deed.lands id) →
    ∃ n, t.world.store.rows.find? id = some n ∧ n.status.isFinal = true

theorem Ledger.begin (id : NoticeId) (w : World) : Ledger id { world := w } :=
  ⟨rfl, Nat.le_refl _, rfl, Nat.le_refl _, Nat.zero_le _, fun h => nomatch h⟩

theorem Ledger.rests {id : NoticeId} {t t' : Traffic} (h : Ledger id t) (hrest : t.Rests t') :
    Ledger id t' := by
  have htally := hrest.tally
  have howing : t'.owing id = t.owing id := hrest.count _ fun c hc => hc.owes id
  constructor
  · rw [htally, htally, htally, howing]
    exact h.mailed
  · rw [htally, htally, htally]
    exact h.handed
  · rw [htally, htally, htally, htally]
    exact h.completed
  · rw [htally, htally]
    exact h.due
  · rw [htally]
    exact h.once
  · rw [htally, hrest.store]
    exact h.final

/-- The deeds of one step balance with the ledger before it. -/
theorem Ledger.append {id : NoticeId} {t : Traffic} {i : Nat} {c c' : Call} {w' : World}
    {ds : List Deed} (hledger : Ledger id t) (hi : t.calls[i]? = some c)
    (hbooks : Deed.Books id ds (c.owes id).toNat (c'.owes id).toNat)
    (hlands : Worker.Lands id ds t.world w') (hevolves : t.world.store.Evolves w'.store) :
    Ledger id ⟨w', t.calls.set i c', t.log ++ entries i ds⟩ := by
  have howing := countP_set_call hi c' (Call.owes id)
  have hm := hledger.mailed
  have hh := hledger.handed
  have hc := hledger.completed
  have hd := hledger.due
  have ho := hledger.once
  have hbm := hbooks.mailed
  have hbh := hbooks.handed
  have hbc := hbooks.completed
  have hbd := hbooks.due
  unfold owing at hm
  have htally (kind : Deed → Bool) :
      tally kind ⟨w', t.calls.set i c', t.log ++ entries i ds⟩ = t.tally kind + ds.countP kind :=
    tally_append kind w' (t.calls.set i c') t.log i ds
  -- an outcome is stored over a claim, so none was stored before
  have hfirst : ds.countP (Deed.lands id) = 0 ∨ t.tally (Deed.lands id) = 0 := by
    rcases hlands with hzero | ⟨-, ⟨row, hrow, hprocessing⟩, -⟩
    · exact Or.inl hzero
    · rcases Nat.eq_zero_or_pos (t.tally (Deed.lands id)) with hnone | hpos
      · exact Or.inr hnone
      · obtain ⟨n, hn, hfin⟩ := hledger.final hpos
        rw [hrow] at hn
        cases hn
        rw [hprocessing] at hfin
        cases hfin
  constructor
  · rw [htally, htally, htally]
    show _ + (t.calls.set i c').countP _ = _
    omega
  · rw [htally, htally, htally]
    omega
  · rw [htally, htally, htally, htally]
    omega
  · rw [htally, htally]
    omega
  · rw [htally]
    rcases hlands with hzero | ⟨hone, -⟩
    · omega
    · omega
  · rw [htally]
    intro hpos
    rcases hlands with hzero | ⟨-, -, hfin⟩
    · obtain ⟨n, hn, hfin⟩ := hledger.final (by omega)
      exact ⟨n, hevolves.final hn hfin, hfin⟩
    · exact hfin

theorem Ledger.happens {id : NoticeId} {t t' : Traffic} (hledger : Ledger id t) (hsane : t.Sane)
    (hroom : t.Roomy) (h : t.Happens t') : Ledger id t' := by
  have hevolves := h.evolves hsane hroom
  cases h with
  | rested hrest => exact hledger.rests hrest
  | created hi hcreation hidle hidle' =>
    refine hledger.append hi ?_ (Or.inl rfl) hevolves
    rw [hidle.owes, hidle'.owes]
    exact Deed.Books.creation id _ _ _
  | worked hi hk hk' hacts =>
    refine hledger.append hi ?_ (hacts.lands id) hevolves
    rw [Call.owes_of_worker hk, Call.owes_of_worker hk']
    exact hacts.books id

/-! ## Every run -/

/-- Whoever works on the rows of a store, and in whatever order, each row gets at most one outcome,
one completion and one mail. -/
theorem outcome_and_mail_at_most_once {w : World} (hkeyed : w.store.Keyed) (moves : List Move)
    (hmoves : ∀ m ∈ moves, m.mayCreate = false) (id : NoticeId) :
    let t := Traffic.run { world := w } moves
    t.tally (Deed.lands id) ≤ 1 ∧ t.tally (Deed.completes id) ≤ 1 ∧
      t.tally (Deed.hands id) ≤ 1 := by
  obtain ⟨-, hledger⟩ := run_sane (fun _ hm => hm)
    (fun t m hsane hcalls _ hledger =>
      Ledger.happens hledger hsane (.of_mayCreate hcalls) (happens_step hsane m))
    hkeyed (Ledger.begin id w) hmoves
  have hm := hledger.mailed
  have hh := hledger.handed
  have hc := hledger.completed
  have hd := hledger.due
  have ho := hledger.once
  refine ⟨ho, ?_, ?_⟩
  · omega
  · omega

/-- A row that is taken over while its first owner works gets one outcome, one completion and one
mail. -/
theorem taken_over_is_mailed_once :
    World.oneWaiting.store.Keyed ∧
    let moves := takeOver ++ List.replicate 3 (.advance 0) ++ List.replicate 5 (.advance 1)
    let t := Traffic.run { world := World.oneWaiting } moves
    (∀ m ∈ moves, m.mayCreate = false) ∧ t.tally (Deed.lands ⟨1⟩) = 1 ∧
      t.tally (Deed.completes ⟨1⟩) = 1 ∧ t.tally (Deed.hands ⟨1⟩) = 1 := by
  have hkeyed : World.oneWaiting.store.Keyed := Store.Keyed.empty.insert _
  refine ⟨hkeyed, ?_⟩
  intro moves t
  have hmoves : ∀ m ∈ moves, m.mayCreate = false := by decide
  obtain ⟨hlands, hcompletes, hhands⟩ := outcome_and_mail_at_most_once hkeyed moves hmoves ⟨1⟩
  exact ⟨hmoves, Nat.le_antisymm hlands (by decide +kernel),
    Nat.le_antisymm hcompletes (by decide +kernel), Nat.le_antisymm hhands (by decide +kernel)⟩

end Traffic

end BookingNotices
