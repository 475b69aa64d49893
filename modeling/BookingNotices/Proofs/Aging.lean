import BookingNotices.Proofs.Copy
import BookingNotices.Proofs.Traffic.Step

/-!
# Instants on rows

* `Store.WrittenBy` : no row was written after an instant;
* `Store.Ages`      : no row was last written later than it is now (`Ages.put`);
* `Worker.Dated`    : a claim was taken by an instant, and its outcome was decided between the two
  (`Copies.dated`);
* `Acts.ages`       : over a clock that never goes back, a row that a worker writes gets an instant
  that is not before its last one.

A worker may hold its outcome for long before it stores it. But it stores it only while its claim
holds, so the row shows the instant of that claim until then.
-/

namespace BookingNotices

namespace Store

/-- No row was written after an instant. -/
def WrittenBy (s : Store) (t : Timestamp) : Prop :=
  ∀ id n, s.rows.find? id = some n → n.updated ≤ t

theorem WrittenBy.empty (t : Timestamp) : WrittenBy {} t := fun _ _ h => nomatch h

theorem WrittenBy.mono {s : Store} {t t' : Timestamp} (h : s.WrittenBy t) (ht : t ≤ t') :
    s.WrittenBy t' := fun id n hn => Timestamp.le_trans (h id n hn) ht

theorem WrittenBy.put {s : Store} {t : Timestamp} (h : s.WrittenBy t) {n : Notice}
    (hn : n.updated ≤ t) : (s.put n).WrittenBy t := by
  intro id m hm
  rcases find?_put_cases hm with ⟨-, rfl⟩ | ⟨-, hm⟩
  · exact hn
  · exact h id m hm

theorem WrittenBy.insert {s : Store} {t : Timestamp} (h : s.WrittenBy t) {n : Notice}
    (hn : n.updated ≤ t) : (s.insert n).2.WrittenBy t := by
  intro id m hm
  rcases find?_insert_cases hm with ⟨-, rfl⟩ | hm
  · exact hn
  · exact h id m hm

/-- No row was last written later than it is now. -/
def Ages (s s' : Store) : Prop :=
  ∀ id n, s.rows.find? id = some n → ∃ n', s'.rows.find? id = some n' ∧ n.updated ≤ n'.updated

theorem Ages.refl (s : Store) : s.Ages s := fun _ n hn => ⟨n, hn, Timestamp.le_refl _⟩

theorem Ages.trans {a b c : Store} (h₁ : a.Ages b) (h₂ : b.Ages c) : a.Ages c := by
  intro id n hn
  obtain ⟨m, hm, hnm⟩ := h₁ id n hn
  obtain ⟨k, hk, hmk⟩ := h₂ id m hm
  exact ⟨k, hk, Timestamp.le_trans hnm hmk⟩

theorem Ages.put {s : Store} {row n : Notice} (hrow : s.rows.find? n.id = some row)
    (hn : row.updated ≤ n.updated) : s.Ages (s.put n) := by
  intro id m hm
  rw [find?_put]
  split
  · rename_i hid
    subst hid
    rw [hrow] at hm
    cases hm
    exact ⟨n, rfl, hn⟩
  · exact ⟨m, hm, Timestamp.le_refl _⟩

theorem Ages.insert {s : Store} (hroom : s.Roomy) (n : Notice) : s.Ages (s.insert n).2 :=
  fun _ m hm => ⟨m, hroom.find?_insert n hm, Timestamp.le_refl _⟩

end Store

namespace Worker

/-! ## What a worker carries -/

/-- A claim was taken by an instant, and its outcome was decided between the two. -/
structure Dated (t : Timestamp) (k : Worker) : Prop where
  claim : ∀ id since, k.lease? = some (id, since) → since ≤ t
  outcome : ∀ since n b user, k = .resolving since n b user → since ≤ n.updated ∧ n.updated ≤ t

theorem Dated.mono {t t' : Timestamp} {k : Worker} (h : k.Dated t) (ht : t ≤ t') : k.Dated t' :=
  ⟨fun id since hk => Timestamp.le_trans (h.claim id since hk) ht, fun since n b user hk =>
    ⟨(h.outcome since n b user hk).1, Timestamp.le_trans (h.outcome since n b user hk).2 ht⟩⟩

theorem Dated.of_lease? {k : Worker} (h : k.lease? = none) (t : Timestamp) : k.Dated t := by
  refine ⟨fun id since hk => ?_, fun since n b user hk => ?_⟩
  · rw [h] at hk
    cases hk
  · subst hk
    cases h

theorem Dated.of_claim {k : Worker} {n : Notice} {t : Timestamp}
    (hk : k = .findingBooking n ∨ ∃ b, k.file? = some (n, b)) (hn : n.updated ≤ t) : k.Dated t := by
  rcases hk with rfl | ⟨b, hk⟩
  · exact ⟨fun _ _ hlease => by cases hlease; exact hn, fun _ _ _ _ h => nomatch h⟩
  · refine ⟨fun id since hlease => ?_, fun since m b' user hresolving => ?_⟩
    · rw [lease?_of_file? hk] at hlease
      cases hlease
      exact hn
    · subst hresolving
      cases hk

/-- What a worker carries stays dated as the clock goes on. -/
theorem Copies.dated {k k' : Worker} {w w' : World} (h : Copies k w k' w') (hticks : w.Ticks w')
    (hclock : w.clock.Rising) (hdated : k.Dated w.next) : k'.Dated w'.next := by
  have hnext := hticks.next_le hclock
  cases h with
  | @taken n row i _ hrow hopen hn hi hi' hstore =>
    refine .of_claim (Or.inl rfl) ?_
    rw [hn]
    exact hticks.reading_le hclock hi (Nat.le_of_lt hi')
  | @found n b _ hk hb =>
    subst hk
    exact .of_claim (Or.inr ⟨b, rfl⟩) (Timestamp.le_trans (hdated.claim _ _ rfl) hnext)
  | @kept n b _ _ hk hk' =>
    exact .of_claim (Or.inr ⟨b, hk'⟩)
      (Timestamp.le_trans (hdated.claim _ _ (lease?_of_file? hk)) hnext)
  | @decided n b user i _ hk hi hi' hblob =>
    have hclaim : n.updated ≤ w.next := hdated.claim _ _ (lease?_of_file? hk)
    refine ⟨fun id since hlease => ?_, fun since m b' user' hresolving => ?_⟩
    · cases hlease
      exact Timestamp.le_trans hclaim hnext
    · cases hresolving
      exact ⟨Timestamp.le_trans hclaim (hclock.le (Nat.le_refl _) hi),
        hticks.reading_le hclock hi (Nat.le_of_lt hi')⟩
  | dropped hk' => exact .of_lease? hk' _

/-! ## What a worker writes -/

/-- The store stays as it is, or one row gets an instant that is not before its last one. -/
theorem Acts.ages {k k' : Worker} {w w' : World} {ds : List Deed} (h : k.Acts w k' w' ds)
    (hfits : k.Fits w.store) (hcopies : Copies k w k' w') (hticks : w.Ticks w')
    (hclock : w.clock.Rising) (hstore : w.store.WrittenBy w.next) (hdated : k.Dated w.next) :
    w'.store = w.store ∨ ∃ row n, w.store.rows.find? n.id = some row ∧ row.updated ≤ n.updated ∧
      n.updated ≤ w'.next ∧ w'.store = w.store.put n := by
  have taken {n : Notice} (hcopies : Copies k w (.findingBooking n) w') : ∃ row n,
      w.store.rows.find? n.id = some row ∧ row.updated ≤ n.updated ∧ n.updated ≤ w'.next ∧
        w'.store = w.store.put n := by
    cases hcopies with
    | @taken _ row i _ hrow hopen hn hi hi' hput =>
      have hreading : n.updated = w.clock.answer i := by rw [hn]
      refine ⟨row, n, hrow, ?_, ?_, hput⟩ <;> rw [hreading]
      · exact Timestamp.le_trans (hstore n.id row hrow) (hclock.le (Nat.le_refl _) hi)
      · exact hticks.reading_le hclock hi (Nat.le_of_lt hi')
    | kept hk hk' => cases hk'
    | dropped hk' => cases hk'
  cases h.stores hfits with
  | nothing _ hsame => exact Or.inl hsame
  | claimed _ hk' =>
    subst hk'
    exact Or.inr (taken hcopies)
  | renewed _ hk' =>
    subst hk'
    exact Or.inr (taken hcopies)
  | @resolved _ n hresolves =>
    obtain ⟨since, booking, user, rfl, hclaim⟩ := hresolves.claim
    obtain ⟨row, hrow, -, hsince⟩ := Store.claimHolds_iff.mp hclaim
    obtain ⟨hbefore, hafter⟩ := hdated.outcome since n booking user rfl
    refine Or.inr ⟨row, n, hrow, ?_, Timestamp.le_trans hafter (hticks.next_le hclock),
      hresolves.puts.store⟩
    rw [hsince]
    exact hbefore

end Worker

end BookingNotices
