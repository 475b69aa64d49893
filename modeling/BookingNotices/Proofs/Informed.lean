import BookingNotices.Proofs.Copy

/-!
# What a worker knows of its booking

* `Worker.booking?`  : the booking that a worker has looked up, until its outcome is stored;
* `Worker.Informed`  : its claimed notice has no document yet, its booking is known to belong to
  that notice, and its outcome is decided by the two, with the invoice on the shelf if there is to
  be one;
* `Copies.informed`  : every step keeps a worker informed, if open rows have no document.
-/

namespace BookingNotices

namespace Notice

/-- A notice without a document gets one exactly if its booking is confirmed. -/
theorem decided_document {n : Notice} (hblank : n.document = "") (b : Booking) (now : Timestamp) :
    (n.decided b now).document ≠ "" ↔ b.status = .confirmed := by
  have hname : documentName b.id ≠ "" := fun h => by
    have hgood := isName_documentName b.id
    rw [h] at hgood
    cases hgood
  unfold decided Booking.isConfirmed
  by_cases hconfirmed : b.status = .confirmed
  · rw [hconfirmed]
    exact ⟨fun _ => rfl, fun _ => hname⟩
  · simp [hconfirmed, hblank]

end Notice

namespace Worker

/-- The booking that a worker has looked up, until its outcome is stored. -/
def booking? : Worker → Option Booking
  | .findingUser _ b => some b
  | .findingShowtime _ b _ => some b
  | .findingSeat _ b _ _ => some b
  | .storing _ b _ _ => some b
  | .resolving _ _ b _ => some b
  | _ => none

theorem booking?_of_file? {k : Worker} {n : Notice} {b : Booking} (h : k.file? = some (n, b)) :
    k.booking? = some b := by
  cases k with
  | findingUser => cases h; rfl
  | findingShowtime => cases h; rfl
  | findingSeat => cases h; rfl
  | storing => cases h; rfl
  | _ => cases h

/-- What a worker knows: `knows n b` is to say that `b` was looked up for the claimed notice `n`. -/
structure Informed (shelf : Shelf) (knows : Notice → Booking → Prop) (k : Worker) : Prop where
  claim : ∀ n, k = .findingBooking n → n.document = ""
  file : ∀ n b, k.file? = some (n, b) → n.document = "" ∧ knows n b
  outcome : ∀ since m b user, k = .resolving since m b user → ∃ n now, m = n.decided b now ∧
    since = n.updated ∧ n.document = "" ∧ knows n b ∧
      (b.status = .confirmed → shelf.has (Notice.documentName b.id) = true)

section Informed

variable {shelf shelf' : Shelf} {knows knows' : Notice → Booking → Prop}

theorem Informed.of_lease? {k : Worker} (h : k.lease? = none) : k.Informed shelf knows := by
  refine ⟨fun n hk => ?_, fun n b hk => ?_, fun since m b user hk => ?_⟩
  · subst hk
    cases h
  · rw [lease?_of_file? hk] at h
    cases h
  · subst hk
    cases h

/-- More blobs, and more knowledge of the booking that the worker has at hand. -/
theorem Informed.mono {k : Worker} (h : k.Informed shelf knows)
    (hblobs : ∀ name, shelf.has name = true → shelf'.has name = true)
    (hknows : ∀ n b, k.booking? = some b → knows n b → knows' n b) : k.Informed shelf' knows' := by
  refine ⟨h.claim, fun n b hk => ?_, fun since m b user hk => ?_⟩
  · obtain ⟨hblank, hknown⟩ := h.file n b hk
    exact ⟨hblank, hknows n b (booking?_of_file? hk) hknown⟩
  · obtain ⟨n, now, hm, hsince, hblank, hknown, hblob⟩ := h.outcome since m b user hk
    exact ⟨n, now, hm, hsince, hblank, hknows n b (by rw [hk]; rfl) hknown,
      fun hconfirmed => hblobs _ (hblob hconfirmed)⟩

/-- Every step keeps a worker informed. -/
theorem Copies.informed {k k' : Worker} {w w' : World} (h : Copies k w k' w')
    (hk : k.Informed w.shelf knows)
    (hblank : ∀ id row, w.store.rows.find? id = some row →
      row.status = .pending ∨ row.status = .processing → row.document = "")
    (hfound : ∀ n b, k = .findingBooking n → (w.registry.booking n.booking).1 = .ok b →
      k'.booking? = some b → knows' n b)
    (hkept : ∀ n b, knows n b → k'.booking? = some b → knows' n b) :
    k'.Informed w'.shelf knows' := by
  cases h with
  | @taken n row i _ hrow hopen hn hi hi' hstore =>
    refine ⟨fun m hm => ?_, fun m b hm => (nomatch hm), fun _ _ _ _ hm => nomatch hm⟩
    cases hm
    rw [hn]
    exact hblank n.id row hrow hopen
  | @found n b _ hfinding hb =>
    refine ⟨fun m hm => (nomatch hm), fun m b' hm => ?_, fun _ _ _ _ hm => nomatch hm⟩
    cases hm
    exact ⟨hk.claim n hfinding, hfound n b hfinding hb rfl⟩
  | @kept n b _ _ hfile hfile' =>
    obtain ⟨hnone, hknown⟩ := hk.file n b hfile
    refine ⟨fun m hm => ?_, fun m b' hm => ?_, fun since m b' user hm => ?_⟩
    · subst hm
      cases hfile'
    · rw [hfile'] at hm
      cases hm
      exact ⟨hnone, hkept n b hknown (booking?_of_file? hfile')⟩
    · subst hm
      cases hfile'
  | @decided n b user i _ hfile hi hi' hblob =>
    obtain ⟨hnone, hknown⟩ := hk.file n b hfile
    refine ⟨fun m hm => (nomatch hm), fun m b' hm => (nomatch hm), fun since m b' user' hm => ?_⟩
    cases hm
    exact ⟨n, _, rfl, rfl, hnone, hkept n b hknown rfl, hblob⟩
  | dropped hk' => exact .of_lease? hk'

end Informed

end Worker

end BookingNotices
