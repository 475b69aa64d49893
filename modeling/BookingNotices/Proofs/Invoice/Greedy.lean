import Mathlib.Data.List.Basic
import Mathlib.Tactic.SplitIfs

/-!
# Cutting as late as possible

* `greedily`          : cuts a list from left to right, each time before the first element with
  which the group begun is full;
* `flatten_greedily`, `mem_greedily` : nothing is lost, and a group is full only if it is one
  element;
* `Forced`            : every group is full with the first element of the next one;
* `Forced.length_le`  : groups of which none has a full run are at least as many.

A full group of a forced cutting cannot lie within one group of another cutting, so every group of
the other one ends no later than its counterpart.
-/

namespace BookingNotices.Invoice

variable {α : Type} {full : List α → Bool} {group : List α}

/-- Cuts a list into groups; `group` is the one begun. -/
def greedily (full : List α → Bool) (group : List α) : List α → List (List α)
  | [] => [group]
  | a :: as =>
    if full (group ++ [a]) then group :: greedily full [a] as
    else greedily full (group ++ [a]) as

/-- The first group goes on with what it is begun with. -/
theorem greedily_eq_cons (full : List α → Bool) (group as : List α) :
    ∃ more rest, greedily full group as = (group ++ more) :: rest := by
  induction as generalizing group with
  | nil => exact ⟨[], [], by rw [greedily, List.append_nil]⟩
  | cons a as ih =>
    unfold greedily
    split_ifs
    · exact ⟨[], _, by rw [List.append_nil]⟩
    · obtain ⟨more, rest, h⟩ := ih (group ++ [a])
      exact ⟨a :: more, rest, by rw [h, List.append_assoc, List.singleton_append]⟩

theorem flatten_greedily (full : List α → Bool) (group as : List α) :
    (greedily full group as).flatten = group ++ as := by
  induction as generalizing group with
  | nil => rw [greedily, List.flatten_singleton, List.append_nil]
  | cons a as ih =>
    unfold greedily
    split_ifs
    · rw [List.flatten_cons, ih, List.singleton_append]
    · rw [ih, List.append_assoc, List.singleton_append]

theorem nil_not_mem_greedily (full : List α → Bool) (hgroup : group ≠ []) (as : List α) :
    [] ∉ greedily full group as := by
  induction as generalizing group with
  | nil => simpa [greedily] using hgroup.symm
  | cons a as ih =>
    unfold greedily
    split_ifs
    · exact List.not_mem_cons_of_ne_of_not_mem hgroup.symm (ih (List.cons_ne_nil a []))
    · exact ih (by simp)

/-- A group is the one begun, one element, or not full. -/
theorem mem_greedily {as g : List α} (h : g ∈ greedily full group as) :
    g = group ∨ g.length = 1 ∨ ¬ full g := by
  induction as generalizing group with
  | nil => exact .inl (List.mem_singleton.mp h)
  | cons a as ih =>
    unfold greedily at h
    split_ifs at h with hfull
    · rcases List.mem_cons.mp h with rfl | h
      · exact .inl rfl
      · rcases ih h with rfl | h
        · exact .inr (.inl rfl)
        · exact .inr h
    · rcases ih h with rfl | h
      · exact .inr (.inr hfull)
      · exact .inr h

/-! ## Forced cuts -/

/-- Every group is full with the first element of the next one. -/
def Forced (full : List α → Bool) (groups : List (List α)) : Prop :=
  groups.IsChain fun g h => ∃ a, h.head? = some a ∧ full (g ++ [a])

theorem forced_greedily (full : List α → Bool) (group as : List α) :
    Forced full (greedily full group as) := by
  induction as generalizing group with
  | nil => exact .singleton group
  | cons a as ih =>
    unfold greedily
    split_ifs with hfull
    · have hrest := ih [a]
      obtain ⟨more, rest, hnext⟩ := greedily_eq_cons full [a] as
      rw [hnext] at hrest ⊢
      exact List.isChain_cons_cons.mpr ⟨⟨a, rfl, hfull⟩, hrest⟩
    · exact ih (group ++ [a])

/-- The group in which an element of a cut list stands. -/
theorem exists_cut {cuts : List (List α)} {front behind : List α} {a : α}
    (h : cuts.flatten = front ++ a :: behind) :
    ∃ before part rest after, cuts = before ++ (part ++ a :: rest) :: after ∧
      front = before.flatten ++ part ∧ behind = rest ++ after.flatten := by
  rcases List.flatten_eq_append_iff.mp h with ⟨before, groups, rfl, hfront, hgroups⟩ |
    ⟨before, part, c, rest, after, rfl, hfront, hbehind⟩
  · obtain ⟨empty, rest, after, rfl, hempty, hbehind⟩ := List.flatten_eq_cons_iff.mp hgroups.symm
    refine ⟨before ++ empty, [], rest, after, ?_, ?_, hbehind⟩
    · rw [List.append_assoc, List.nil_append]
    · rw [List.flatten_append, List.flatten_eq_nil_iff.mpr hempty, hfront, List.append_nil,
        List.append_nil]
  · obtain ⟨rfl, htail⟩ : a = c ∧ behind = rest ++ after.flatten := List.cons.inj hbehind
    exact ⟨before, part, rest, after, rfl, hfront, htail⟩

/-- Groups in which no run of two elements or more is full are at least as many as those of a forced
cutting, even with more elements in front. -/
theorem Forced.length_le {groups cuts : List (List α)} (hforced : Forced full groups)
    (hgroups : [] ∉ groups) {front : List α} (hcuts : cuts.flatten = front ++ groups.flatten)
    (hruns : ∀ cut ∈ cuts, ∀ run, run <:+: cut → 1 < run.length → ¬ full run) :
    groups.length ≤ cuts.length := by
  induction groups generalizing cuts front with
  | nil => exact Nat.zero_le _
  | cons g rest ih =>
    have hg : g ≠ [] := (List.ne_of_not_mem_cons hgroups).symm
    cases rest with
    | nil =>
      refine List.length_pos_iff.mpr ?_
      rintro rfl
      simp [hg] at hcuts
    | cons h rest =>
      obtain ⟨⟨a, ha, hfull⟩, hrest⟩ := List.isChain_cons_cons.mp hforced
      obtain ⟨more, rfl⟩ := List.head?_eq_some_iff.mp ha
      have hnext : cuts.flatten = (front ++ g) ++ a :: (more ++ rest.flatten) := by
        rw [hcuts, List.append_assoc]
        rfl
      obtain ⟨before, part, tail, after, rfl, hfront, hbehind⟩ := exists_cut hnext
      have hrestCuts : ((part ++ a :: tail) :: after).flatten =
          part ++ ((a :: more) :: rest).flatten := by
        rw [List.flatten_cons, List.flatten_cons, List.append_assoc, List.cons_append,
          List.cons_append, hbehind]
      have hle := ih hrest (List.not_mem_of_not_mem_cons hgroups) hrestCuts
        fun cut hcut => hruns cut (List.mem_append_right before hcut)
      have hbefore : before ≠ [] := by
        rintro rfl
        -- the first cut would have the whole group in it, and the element with which it is full
        have hpart : part = front ++ g := hfront.symm
        have hinfix : g ++ [a] <:+: part ++ a :: tail := ⟨front, tail, by simp [hpart]⟩
        have hlength : 1 < (g ++ [a]).length := by
          have hpos := List.length_pos_iff.mpr hg
          rw [List.length_append, List.length_singleton]
          omega
        exact hruns _ List.mem_cons_self _ hinfix hlength hfull
      have hpos := List.length_pos_iff.mpr hbefore
      rw [List.length_append, List.length_cons]
      omega

end BookingNotices.Invoice
