import BookingNotices.Proofs.Clock
import BookingNotices.Proofs.Store
import BookingNotices.Proofs.Table

/-!
# The rows of a store, and the order in which they are listed

* `Store.mem_values`, `Store.mem_withStatus` : the rows of a store, and those of a status;
* `Timestamp.IsRegular` : an instant outside leap seconds; such instants are ordered by the time
  that passes between them (`IsRegular.le_iff`);
* `Notice.Precedes`     : the order in which rows are taken up;
* `Store.pairwise_withStatus` : so they are listed;
* `Notice.Precedes.isOverdue` : whoever comes before an overdue row is overdue as well.

The last is why a pass may end at the first row that is not overdue. A row from the future counts as
not overdue and stands at the end of its list, and rows of one age are overdue together.
-/

namespace BookingNotices

/-! ## The rows of a store -/

namespace Store

theorem nodup_of_ids {rows : List Notice} (h : (rows.map (·.id)).Nodup) : rows.Nodup :=
  List.Pairwise.of_map (fun n : Notice => n.id) (fun _ _ hne heq => hne (congrArg Notice.id heq)) h

section Rows

variable {s : Store} (hkeyed : s.Keyed) (hsorted : s.rows.Sorted)

include hkeyed hsorted

theorem mem_values {n : Notice} : n ∈ s.rows.values ↔ s.rows.find? n.id = some n := by
  unfold Table.values
  rw [List.mem_map]
  constructor
  · rintro ⟨⟨id, m⟩, hmem, rfl⟩
    have hfound := (Table.find?_eq_some_iff_mem hsorted).mpr hmem
    obtain rfl := hkeyed _ _ hfound
    exact hfound
  · exact fun hfound => ⟨(n.id, n), Table.find?_mem hfound, rfl⟩

theorem nodup_ids : (s.rows.values.map (·.id)).Nodup := by
  have hkeys : s.rows.values.map (·.id) = s.rows.map (·.1) := by
    unfold Table.values
    rw [List.map_map]
    refine List.map_congr_left fun e he => ?_
    exact hkeyed e.1 e.2 ((Table.find?_eq_some_iff_mem hsorted).mpr he)
  rw [hkeys]
  refine List.pairwise_map.mpr (hsorted.imp fun {a b} hlt heq => ?_)
  rw [heq] at hlt
  exact Std.Irrefl.irrefl b.1 hlt

theorem nodup_values : s.rows.values.Nodup := nodup_of_ids (nodup_ids hkeyed hsorted)

theorem mem_withStatus {n : Notice} {status : Notice.Status} :
    n ∈ s.withStatus status ↔ s.rows.find? n.id = some n ∧ n.status = status := by
  unfold withStatus
  rw [List.mem_mergeSort, List.mem_filter, mem_values hkeyed hsorted, decide_eq_true_eq]

theorem nodup_ids_withStatus (status : Notice.Status) :
    ((s.withStatus status).map (·.id)).Nodup := by
  unfold withStatus
  rw [((List.mergeSort_perm _ _).map _).nodup_iff]
  exact (nodup_ids hkeyed hsorted).sublist (List.filter_sublist.map _)

end Rows

end Store

/-! ## Instants outside leap seconds -/

namespace Timestamp

theorem lt_iff (a b : Timestamp) :
    a < b ↔ a.seconds < b.seconds ∨ a.seconds = b.seconds ∧ a.nanos < b.nanos := by
  show compare a b = .lt ↔ _
  unfold compare
  split
  · simp [*]
  · split
    · simp only [reduceCtorEq, false_iff]
      omega
    · split
      · simp only [true_iff]
        omega
      · split <;> simp only [reduceCtorEq, false_iff] <;> omega

theorem lt_or_eq_or_gt (a b : Timestamp) : a < b ∨ a = b ∨ b < a := by
  rw [lt_iff, lt_iff]
  obtain ⟨s, n⟩ := a
  obtain ⟨s', n'⟩ := b
  rw [mk.injEq]
  dsimp only
  omega

theorem eq_of_compare_eq {a b : Timestamp} (h : compare a b = .eq) : a = b := by
  have hle : a ≤ b := by
    show compare a b ≠ .gt
    rw [h]
    exact nofun
  rcases lt_or_eq_or_gt a b with hlt | heq | hgt
  · have hlt : compare a b = .lt := hlt
    rw [h] at hlt
    cases hlt
  · exact heq
  · rw [le_iff] at hle
    rw [lt_iff] at hgt
    omega

/-- An instant outside leap seconds. -/
def IsRegular (t : Timestamp) : Prop := t.nanos < nanosPerSecond

/-- Regular instants are ordered by the time that passes. -/
theorem IsRegular.le_iff {a b : Timestamp} (ha : a.IsRegular) (hb : b.IsRegular) :
    a ≤ b ↔ a.toNanos ≤ b.toNanos := by
  unfold IsRegular nanosPerSecond at ha hb
  rw [Timestamp.le_iff]
  unfold toNanos nanosPerSecond
  omega

theorem le_of_lt {a b : Timestamp} (h : a < b) : a ≤ b := by
  rw [lt_iff] at h
  rw [le_iff]
  omega

end Timestamp

/-! ## The order of a listing -/

namespace Notice

/-- The order in which rows are taken up: the oldest step first, and the smaller identity of two
steps at one instant. -/
def Precedes (a b : Notice) : Prop := a.updated < b.updated ∨ a.updated = b.updated ∧ a.id < b.id

theorem Precedes.updated_le {a b : Notice} (h : a.Precedes b) : a.updated ≤ b.updated := by
  rcases h with h | ⟨h, -⟩
  · exact Timestamp.le_of_lt h
  · rw [h]
    exact Timestamp.le_refl _

/-- Whoever comes before an overdue row is overdue as well. -/
theorem Precedes.isOverdue {a b : Notice} (h : a.Precedes b) (ha : a.updated.IsRegular)
    (hb : b.updated.IsRegular) {now : Timestamp} {threshold : Nat}
    (hoverdue : b.isOverdue now threshold = true) : a.isOverdue now threshold = true := by
  have hle := (ha.le_iff hb).mp h.updated_le
  unfold Notice.isOverdue Timestamp.since at hoverdue ⊢
  rw [decide_eq_true_eq] at hoverdue ⊢
  omega

/-- A row that shows an instant from now on is not overdue. -/
theorem isOverdue_of_le {n : Notice} {now : Timestamp} (hle : now ≤ n.updated)
    (hnow : now.IsRegular) (hn : n.updated.IsRegular) {threshold : Nat} (hpos : 0 < threshold) :
    n.isOverdue now threshold = false := by
  have hnanos := (hnow.le_iff hn).mp hle
  unfold Notice.isOverdue Timestamp.since
  rw [decide_eq_false_iff_not]
  omega

end Notice

namespace Store

theorem oldestFirst_iff (a b : Notice) :
    oldestFirst a b = true ↔
      a.updated < b.updated ∨ a.updated = b.updated ∧ a.id.value ≤ b.id.value := by
  unfold oldestFirst
  split
  · rename_i hlt
    simp [show a.updated < b.updated from hlt]
  · rename_i hgt
    have hnot : ¬ a.updated < b.updated := by
      show ¬ a.updated.compare b.updated = .lt
      rw [hgt]
      exact nofun
    have hne : a.updated ≠ b.updated := by
      intro heq
      rw [heq] at hgt
      exact Timestamp.le_refl b.updated hgt
    simp [hnot, hne]
  · rename_i heq
    have hnot : ¬ b.updated < b.updated := fun h => by
      rw [Timestamp.lt_iff] at h
      omega
    simp [hnot, Timestamp.eq_of_compare_eq heq]

theorem oldestFirst_trans (a b c : Notice) (hab : oldestFirst a b = true)
    (hbc : oldestFirst b c = true) : oldestFirst a c = true := by
  rw [oldestFirst_iff, Timestamp.lt_iff] at *
  rcases hab with hab | ⟨hab, hid⟩
  · rcases hbc with hbc | ⟨hbc, -⟩
    · exact Or.inl (by omega)
    · rw [← hbc]
      exact Or.inl hab
  · rw [hab]
    exact hbc.imp_right fun ⟨hbc, hid'⟩ => ⟨hbc, Int64.le_trans hid hid'⟩

theorem oldestFirst_total (a b : Notice) : (oldestFirst a b || oldestFirst b a) = true := by
  rw [Bool.or_eq_true, oldestFirst_iff, oldestFirst_iff]
  rcases Timestamp.lt_or_eq_or_gt a.updated b.updated with hlt | heq | hgt
  · exact Or.inl (Or.inl hlt)
  · rcases Int64.le_total a.id.value b.id.value with hid | hid
    · exact Or.inl (Or.inr ⟨heq, hid⟩)
    · exact Or.inr (Or.inr ⟨heq.symm, hid⟩)
  · exact Or.inr (Or.inl hgt)

/-- The rows of a status are listed in the order in which they are taken up. -/
theorem pairwise_withStatus {s : Store} (hkeyed : s.Keyed) (hsorted : s.rows.Sorted)
    (status : Notice.Status) : (s.withStatus status).Pairwise Notice.Precedes := by
  have honce : (s.withStatus status).Pairwise fun a b => a.id ≠ b.id :=
    List.pairwise_map.mp (nodup_ids_withStatus hkeyed hsorted status)
  have hlisted : (s.withStatus status).Pairwise fun a b => oldestFirst a b = true :=
    List.pairwise_mergeSort oldestFirst_trans oldestFirst_total _
  refine (honce.and hlisted).imp fun {a b} ⟨hne, hfirst⟩ => ?_
  rcases (oldestFirst_iff a b).mp hfirst with hlt | ⟨heq, hid⟩
  · exact Or.inl hlt
  · refine Or.inr ⟨heq, Int64.lt_of_le_of_ne hid fun hsame => hne ?_⟩
    exact congrArg NoticeId.mk hsame

end Store

end BookingNotices
