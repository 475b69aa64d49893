import BookingNotices.Id
import BookingNotices.Table

/-!
# Tables as finite maps

* `Table.Sorted`            : the keys come in increasing order (`Sorted.insert`);
* `insert_perm_of_find?_none` : a new key adds one entry;
* `insert_insert`           : a value that is set twice is the later one;
* `map_insert_of_find?`     : a known key keeps every reading that the new value agrees with;
* `countP_insert_of_find?`, `countP_insert_le` : how many values are of a kind, when one is set;
* `find?_eq_some_iff_mem`   : the entries are what is found;
* `insert_of_sorted_append` : a key that comes last is added at the end;
* the identities of notices are such keys.
-/

namespace BookingNotices

namespace NoticeId

theorem lt_iff (a b : NoticeId) : a < b ↔ a.value < b.value := Iff.rfl

instance : Trans (α := NoticeId) (· < ·) (· < ·) (· < ·) := ⟨fun h₁ h₂ => Int64.lt_trans h₁ h₂⟩

instance : Std.Irrefl (α := NoticeId) (· < ·) := ⟨fun _ => Int64.lt_irrefl⟩

instance : Std.Trichotomous (α := NoticeId) (· < ·) where
  trichotomous a b hab hba := by
    rcases a with ⟨a⟩
    rcases b with ⟨b⟩
    rw [lt_iff] at hab hba
    exact congrArg mk (Int64.le_antisymm (Int64.not_lt.mp hba) (Int64.not_lt.mp hab))

end NoticeId

namespace Table

/-! ## What is found -/

section Found

variable {κ α : Type} [DecidableEq κ]

theorem find?_mem {k : κ} {v : α} {t : Table κ α} (h : t.find? k = some v) : (k, v) ∈ t := by
  induction t with
  | nil => simp at h
  | cons e t ih =>
    unfold find? at h
    split at h
    · rename_i hk
      cases h
      subst hk
      exact List.mem_cons_self
    · exact List.mem_cons_of_mem _ (ih h)

theorem find?_eq_none_iff {k : κ} {t : Table κ α} : t.find? k = none ↔ ∀ e ∈ t, e.1 ≠ k := by
  induction t with
  | nil => simp
  | cons e t ih =>
    unfold find?
    split
    · rename_i hk
      simp [hk]
    · rename_i hk
      rw [ih]
      simp [hk]

end Found

@[simp] theorem values_cons {κ α : Type} (e : κ × α) (t : Table κ α) :
    values (e :: t) = e.2 :: values t := rfl

/-! ## New keys -/

section New

variable {κ α : Type} [LT κ] [DecidableLT κ] [DecidableEq κ]

theorem mem_insert {k : κ} {v : α} {e : κ × α} {t : Table κ α} (h : e ∈ t.insert k v) :
    e = (k, v) ∨ e ∈ t := by
  induction t with
  | nil =>
    simp only [insert, List.mem_singleton] at h
    exact Or.inl h
  | cons e' t ih =>
    unfold insert at h
    split at h
    · simpa using h
    · split at h
      · rcases List.mem_cons.mp h with h | h
        · exact Or.inl h
        · exact Or.inr (List.mem_cons_of_mem _ h)
      · rcases List.mem_cons.mp h with h | h
        · exact Or.inr (h ▸ List.mem_cons_self)
        · rcases ih h with h | h
          · exact Or.inl h
          · exact Or.inr (List.mem_cons_of_mem _ h)

theorem mem_foldl_insert {entries : List (κ × α)} {t : Table κ α} {e : κ × α}
    (h : e ∈ entries.foldl (fun t e => insert e.1 e.2 t) t) : e ∈ entries ∨ e ∈ t := by
  induction entries generalizing t with
  | nil => exact Or.inr h
  | cons first entries ih =>
    rcases ih h with h | h
    · exact Or.inl (List.mem_cons_of_mem _ h)
    · rcases mem_insert h with rfl | h
      · exact Or.inl List.mem_cons_self
      · exact Or.inr h

theorem mem_of_mem_ofList {entries : List (κ × α)} {e : κ × α} (h : e ∈ ofList entries) :
    e ∈ entries := (mem_foldl_insert h).resolve_right List.not_mem_nil

/-- A new key adds one entry. -/
theorem insert_perm_of_find?_none {k : κ} {v : α} {t : Table κ α} (h : t.find? k = none) :
    (t.insert k v).Perm ((k, v) :: t) := by
  induction t with
  | nil => exact List.Perm.refl _
  | cons e t ih =>
    have hk : e.1 ≠ k := find?_eq_none_iff.mp h e List.mem_cons_self
    have ht : find? k t = none := by
      rw [find?_eq_none_iff]
      exact fun e' he => find?_eq_none_iff.mp h e' (List.mem_cons_of_mem _ he)
    unfold insert
    split
    · exact List.Perm.refl _
    · rw [if_neg (fun he => hk he.symm)]
      exact ((ih ht).cons _).trans (List.Perm.swap _ _ _)

/-- An entry that is set adds at most one value. -/
theorem countP_insert_le (p : α → Bool) (k : κ) (v : α) (t : Table κ α) :
    (values (insert k v t)).countP p ≤ (values t).countP p + 1 := by
  have hv : (if p v then 1 else 0) ≤ 1 := by split <;> decide
  induction t with
  | nil => exact List.countP_le_length
  | cons e t ih =>
    unfold insert
    split
    · simp only [values_cons, List.countP_cons]
      omega
    · split <;> simp only [values_cons, List.countP_cons] <;> omega

end New

/-- A value that is set twice is the later one. -/
theorem insert_insert {κ α : Type} [LT κ] [DecidableLT κ] [DecidableEq κ]
    [Std.Irrefl (α := κ) (· < ·)] (k : κ) (v v' : α) (t : Table κ α) :
    insert k v (insert k v' t) = insert k v t := by
  have hself : ¬ k < k := Std.Irrefl.irrefl k
  induction t with
  | nil => simp [insert, hself]
  | cons e t ih =>
    obtain ⟨l, u⟩ := e
    by_cases hlt : k < l
    · simp [insert, hlt, hself]
    · by_cases heq : k = l
      · subst heq
        simp [insert, hself]
      · simp [insert, hlt, heq, ih]

/-! ## Keys in order -/

section Ordered

variable {κ α β : Type} [LT κ]

/-- The keys come in increasing order. -/
def Sorted (t : Table κ α) : Prop := t.Pairwise fun a b => a.1 < b.1

theorem Sorted.nil : Sorted ([] : Table κ α) := List.Pairwise.nil

theorem Sorted.pair {k k' : κ} (h : k < k') (v v' : α) : Sorted [(k, v), (k', v')] :=
  List.pairwise_cons.mpr ⟨fun e he => by rwa [List.mem_singleton.mp he],
    List.pairwise_singleton _ _⟩

variable [DecidableEq κ] [Std.Irrefl (α := κ) (· < ·)]

theorem find?_eq_some_iff_mem {k : κ} {v : α} {t : Table κ α} (h : t.Sorted) :
    t.find? k = some v ↔ (k, v) ∈ t := by
  induction t with
  | nil => simp
  | cons e t ih =>
    obtain ⟨hhead, htail⟩ := List.pairwise_cons.mp h
    refine ⟨find?_mem, fun hmem => ?_⟩
    unfold find?
    rcases List.mem_cons.mp hmem with he | he
    · cases he
      rw [if_pos rfl]
    · have hlt : e.1 < k := hhead _ he
      have hne : e.1 ≠ k := fun heq => Std.Irrefl.irrefl k (heq ▸ hlt)
      rw [if_neg hne]
      exact (ih htail).mpr he

variable [DecidableLT κ] [Trans (α := κ) (· < ·) (· < ·) (· < ·)]

/-- A key that comes after all others is added at the end. -/
theorem insert_of_sorted_append {e : κ × α} {t u : Table κ α} (h : Sorted (t ++ e :: u)) :
    t.insert e.1 e.2 = t ++ [e] := by
  induction t with
  | nil => rfl
  | cons e' t ih =>
    obtain ⟨hhead, htail⟩ := List.pairwise_cons.mp h
    have hlt : e'.1 < e.1 := hhead e (List.mem_append_right _ List.mem_cons_self)
    have hnlt : ¬ e.1 < e'.1 := fun hgt => Std.Irrefl.irrefl e'.1 (Trans.trans hlt hgt)
    have hne : e.1 ≠ e'.1 := fun heq => Std.Irrefl.irrefl e'.1 (heq ▸ hlt)
    unfold insert
    rw [if_neg hnlt, if_neg hne, ih htail, List.cons_append]

/-- A known key keeps every reading of the table that the new value agrees with. -/
theorem map_insert_of_find? {k : κ} {old v : α} {f : κ × α → β} (hf : f (k, v) = f (k, old))
    {t : Table κ α} (h : t.Sorted) (hk : t.find? k = some old) :
    (t.insert k v).map f = t.map f := by
  induction t with
  | nil => simp at hk
  | cons e t ih =>
    obtain ⟨hhead, htail⟩ := List.pairwise_cons.mp h
    unfold find? at hk
    unfold insert
    split at hk
    · rename_i heq
      cases hk
      subst heq
      rw [if_neg (Std.Irrefl.irrefl e.1), if_pos rfl, List.map_cons, List.map_cons, hf]
    · rename_i hne
      -- the key stands behind the head, so it cannot come before it
      have hlt : e.1 < k := hhead _ (find?_mem hk)
      have hnlt : ¬ k < e.1 := fun hgt => Std.Irrefl.irrefl e.1 (Trans.trans hlt hgt)
      rw [if_neg hnlt, if_neg (fun heq => hne heq.symm), List.map_cons, List.map_cons,
        ih htail hk]

/-- The value of a known key takes the place of the old one. -/
theorem countP_insert_of_find? (p : α → Bool) {k : κ} {old v : α} {t : Table κ α} (h : t.Sorted)
    (hk : t.find? k = some old) :
    (values (insert k v t)).countP p + (if p old then 1 else 0) =
      (values t).countP p + if p v then 1 else 0 := by
  induction t with
  | nil => simp at hk
  | cons e t ih =>
    obtain ⟨hhead, htail⟩ := List.pairwise_cons.mp h
    unfold find? at hk
    unfold insert
    split at hk
    · rename_i heq
      cases hk
      subst heq
      rw [if_neg (Std.Irrefl.irrefl e.1), if_pos rfl]
      simp only [values_cons, List.countP_cons]
      omega
    · rename_i hne
      have hlt : e.1 < k := hhead _ (find?_mem hk)
      have hnlt : ¬ k < e.1 := fun hgt => Std.Irrefl.irrefl e.1 (Trans.trans hlt hgt)
      have htail := ih htail hk
      rw [if_neg hnlt, if_neg (fun heq => hne heq.symm)]
      simp only [values_cons, List.countP_cons]
      omega

omit [Std.Irrefl (α := κ) (· < ·)] in
theorem Sorted.insert [Std.Trichotomous (α := κ) (· < ·)] {k : κ} {v : α} {t : Table κ α}
    (h : t.Sorted) : (t.insert k v).Sorted := by
  induction t with
  | nil => exact List.pairwise_singleton _ _
  | cons e' t ih =>
    obtain ⟨hhead, htail⟩ := List.pairwise_cons.mp h
    unfold Table.insert
    split
    · rename_i hlt
      refine List.pairwise_cons.mpr ⟨fun e he => ?_, h⟩
      rcases List.mem_cons.mp he with rfl | he
      · exact hlt
      · exact Trans.trans hlt (hhead e he)
    · rename_i hnlt
      split
      · rename_i heq
        subst heq
        exact List.pairwise_cons.mpr ⟨hhead, htail⟩
      · rename_i hne
        have hgt : e'.1 < k := by
          rcases Std.Trichotomous.rel_or_eq_or_rel_swap (r := (· < ·)) (a := k) (b := e'.1)
            with hlt | heq | hgt
          · exact absurd hlt hnlt
          · exact absurd heq hne
          · exact hgt
        refine List.pairwise_cons.mpr ⟨fun e he => ?_, ih htail⟩
        rcases mem_insert he with rfl | he
        · exact hgt
        · exact hhead e he

end Ordered

end Table

end BookingNotices
