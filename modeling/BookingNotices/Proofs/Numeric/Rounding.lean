import BookingNotices.Numeric.Rounding
import Mathlib.Algebra.Order.Field.Rat
import Mathlib.Algebra.Order.Field.Power
import Mathlib.Data.Rat.Lemmas
import Mathlib.Tactic.FieldSimp
import Mathlib.Tactic.Linarith
import Mathlib.Tactic.NormNum
import Mathlib.Tactic.Positivity
import Mathlib.Tactic.Ring

/-!
# How far rounding moves a number

* `Nearest`        : a whole number nearest to a rational, which keeps to the side of every whole
  number that the rational is on;
* `Format.exists_grid` : a positive number is rounded to the nearest multiple of a power of two, so
  fine that it has `precision` bits, or the finest one;
* `abs_round_sub_le` : rounding to single precision moves a number by 2⁻²⁴ of it, or by 2⁻¹⁵⁰;
* `le_round`, `round_le`, `round_natCast` : it does not cross a whole number of 24 bits;
* `round_mono` : it keeps the order of two numbers.

All of it is about numbers that are not negative, but for `round_nonpos`.
-/

namespace BookingNotices.Numeric

/-! ## The nearest whole number -/

/-- A whole number nearest to a rational. -/
structure Nearest (m : ℕ) (x : ℚ) : Prop where
  below : (m : ℚ) ≤ x + 1 / 2
  above : x ≤ m + 1 / 2
  le {k : ℕ} : (k : ℚ) ≤ x → k ≤ m
  ge {k : ℕ} : x ≤ k → m ≤ k

theorem nearestEven_cases (num den : Nat) :
    (nearestEven num den = num / den ∧ 2 * (num % den) ≤ den) ∨
    (nearestEven num den = num / den + 1 ∧ den ≤ 2 * (num % den)) := by
  unfold nearestEven
  dsimp only
  split_ifs <;> omega

theorem nearest_nearestEven (num : Nat) {den : Nat} (hden : 0 < den) :
    Nearest (nearestEven num den) (num / den) := by
  have hpos : (0 : ℚ) < den := by exact_mod_cast hden
  obtain ⟨y, hy⟩ : ∃ y : ℚ, y = (num % den : ℕ) / den := ⟨_, rfl⟩
  have hx : (num : ℚ) / den = (num / den : ℕ) + y := by
    have hsum : (den : ℚ) * (num / den : ℕ) + (num % den : ℕ) = num := by
      exact_mod_cast Nat.div_add_mod num den
    rw [hy, ← hsum]
    field_simp
  have hnonneg : 0 ≤ y := hy ▸ by positivity
  have hlt : y < 1 := by
    rw [hy, div_lt_one hpos]
    exact_mod_cast Nat.mod_lt num hden
  -- a whole number below the quotient is below its whole part
  have hfloor {k : ℕ} (h : (k : ℚ) ≤ num / den) : k ≤ num / den := by
    have hk : (k : ℚ) < (num / den + 1 : ℕ) := by
      push_cast
      linarith
    exact Nat.lt_succ_iff.mp (by exact_mod_cast hk)
  rcases nearestEven_cases num den with ⟨hm, hr⟩ | ⟨hm, hr⟩
  · have hhalf : y ≤ 1 / 2 := by
      have hr : 2 * ((num % den : ℕ) : ℚ) ≤ den := by exact_mod_cast hr
      rw [hy, div_le_iff₀ hpos]
      linarith
    refine hm ▸ ⟨by linarith, by linarith, hfloor, fun {k} h => ?_⟩
    have hk : ((num / den : ℕ) : ℚ) ≤ k := by linarith
    exact_mod_cast hk
  · have hhalf : 1 / 2 ≤ y := by
      have hr : (den : ℚ) ≤ 2 * ((num % den : ℕ) : ℚ) := by exact_mod_cast hr
      rw [hy, le_div_iff₀ hpos]
      linarith
    have hcast : ((num / den + 1 : ℕ) : ℚ) = (num / den : ℕ) + 1 := by push_cast; rfl
    refine hm ▸ ⟨by linarith, by linarith, fun h => Nat.le_succ_of_le (hfloor h), fun {k} h => ?_⟩
    have hk : ((num / den : ℕ) : ℚ) < k := by linarith
    exact_mod_cast hk

/-! ## The grid -/

/-- A power of two as a quotient of two natural powers, one of which is one. -/
theorem two_zpow_eq (e : ℤ) :
    (2 : ℚ) ^ e = (Nat.pow 2 e.toNat : ℕ) / (Nat.pow 2 (-e).toNat : ℕ) := by
  rcases Int.le_total 0 e with h | h
  · obtain ⟨k, rfl⟩ := Int.eq_ofNat_of_zero_le h
    have hzero : (-(k : Int)).toNat = 0 := by omega
    simp [hzero]
  · obtain ⟨k, hk⟩ := Int.eq_ofNat_of_zero_le (Int.neg_nonneg_of_nonpos h)
    obtain rfl : e = -k := by omega
    have hzero : (-(k : Int)).toNat = 0 := by omega
    simp [hzero]

/-- Some powers more make a multiple. -/
theorem two_zpow_add (e : ℤ) (k : ℕ) : (2 : ℚ) ^ (e + k) = (2 ^ k : ℕ) * 2 ^ e := by
  rw [zpow_add₀ (by norm_num), zpow_natCast, mul_comm]
  push_cast
  rfl

theorem scaled_eq (m e : Int) : scaled m e = m * (2 : ℚ) ^ e := by
  unfold scaled
  rw [Rat.mkRat_eq_div, two_zpow_eq]
  push_cast
  ring

/-- The magnitude of a quotient is at most the quotient. -/
theorem two_zpow_magnitudeExponent_le {num den : Nat} (hnum : 0 < num) (hden : 0 < den) :
    (2 : ℚ) ^ magnitudeExponent num den ≤ num / den := by
  have hpos : (0 : ℚ) < den := by exact_mod_cast hden
  unfold magnitudeExponent
  dsimp only
  split_ifs with htest
  · have hlow : ((2 : ℚ)) ^ num.log2 ≤ num := by exact_mod_cast Nat.log2_self_le hnum.ne'
    have hhigh : (den : ℚ) ≤ 2 ^ (den.log2 + 1) := by exact_mod_cast Nat.lt_log2_self.le
    have hsplit :
        (2 : ℚ) ^ ((num.log2 : ℤ) - den.log2 - 1) * 2 ^ (den.log2 + 1) = 2 ^ num.log2 := by
      rw [← zpow_natCast, ← zpow_natCast, ← zpow_add₀ (by norm_num)]
      congr 1
      push_cast
      ring
    rw [le_div_iff₀ hpos]
    calc (2 : ℚ) ^ ((num.log2 : ℤ) - den.log2 - 1) * den
        ≤ (2 : ℚ) ^ ((num.log2 : ℤ) - den.log2 - 1) * 2 ^ (den.log2 + 1) := by gcongr
      _ = 2 ^ num.log2 := hsplit
      _ ≤ num := hlow
  · generalize (num.log2 : ℤ) - den.log2 = e at htest
    have htest : (den : ℚ) * (Nat.pow 2 e.toNat : ℕ) ≤ num * (Nat.pow 2 (-e).toNat : ℕ) := by
      exact_mod_cast Nat.le_of_not_lt htest
    have hunit : (0 : ℚ) < (Nat.pow 2 (-e).toNat : ℕ) := by exact_mod_cast Nat.two_pow_pos _
    rw [two_zpow_eq, div_le_div_iff₀ hunit hpos]
    linarith

/-- A quotient is below the power of two that follows its magnitude. -/
theorem lt_two_zpow_magnitudeExponent (num : Nat) {den : Nat} (hden : 0 < den) :
    (num : ℚ) / den < 2 ^ (magnitudeExponent num den + 1) := by
  have hpos : (0 : ℚ) < den := by exact_mod_cast hden
  unfold magnitudeExponent
  dsimp only
  split_ifs with htest
  · generalize (num.log2 : ℤ) - den.log2 = e at htest
    have htest : (num : ℚ) * (Nat.pow 2 (-e).toNat : ℕ) < den * (Nat.pow 2 e.toNat : ℕ) := by
      exact_mod_cast htest
    have hunit : (0 : ℚ) < (Nat.pow 2 (-e).toNat : ℕ) := by exact_mod_cast Nat.two_pow_pos _
    rw [sub_add_cancel, two_zpow_eq, div_lt_div_iff₀ hpos hunit]
    linarith
  · have hhigh : (num : ℚ) < 2 ^ (num.log2 + 1) := by exact_mod_cast Nat.lt_log2_self
    have hlow : (2 : ℚ) ^ den.log2 ≤ den := by exact_mod_cast Nat.log2_self_le hden.ne'
    have hsplit :
        (2 : ℚ) ^ ((num.log2 : ℤ) - den.log2 + 1) * 2 ^ den.log2 = 2 ^ (num.log2 + 1) := by
      rw [← zpow_natCast, ← zpow_natCast, ← zpow_add₀ (by norm_num)]
      congr 1
      push_cast
      ring
    rw [div_lt_iff₀ hpos]
    calc (num : ℚ) < 2 ^ (num.log2 + 1) := hhigh
      _ = (2 : ℚ) ^ ((num.log2 : ℤ) - den.log2 + 1) * 2 ^ den.log2 := hsplit.symm
      _ ≤ (2 : ℚ) ^ ((num.log2 : ℤ) - den.log2 + 1) * den := by gcongr

namespace Format

/-- A positive number is rounded to the nearest multiple of a power of two. It is the finest of the
format, or leaves the number as many bits as the format has. -/
theorem exists_grid {f : Format} (hf : 0 < f.precision) {q : ℚ} (hq : 0 < q) :
    ∃ (m : ℕ) (e : ℤ), f.round q = m * (2 : ℚ) ^ e ∧ Nearest m (q / (2 : ℚ) ^ e) ∧ f.finest ≤ e ∧
      q < 2 ^ (e + f.precision) ∧
      (e = f.finest ∨ (2 : ℚ) ^ (e + (f.precision - 1)) ≤ q) := by
  have hnum : 0 < q.num.natAbs := Int.natAbs_pos.mpr (Rat.num_pos.mpr hq).ne'
  have hden : 0 < q.den := q.den_pos
  have hcast : (q.num.natAbs : ℚ) / q.den = q := by
    have hnonneg : ((q.num.natAbs : ℤ) : ℚ) = q.num := by
      rw [Int.natAbs_of_nonneg (Rat.num_pos.mpr hq).le]
    rw [← Int.cast_natCast, hnonneg, Rat.num_div_den]
  obtain ⟨e, he⟩ : ∃ e, e = f.gridExponent q.num.natAbs q.den := ⟨_, rfl⟩
  obtain ⟨m, hm⟩ : ∃ m, m = nearestEven (q.num.natAbs * Nat.pow 2 (-e).toNat)
    (q.den * Nat.pow 2 e.toNat) := ⟨_, rfl⟩
  have hnearest : Nearest m (q / (2 : ℚ) ^ e) := by
    have hspec := nearest_nearestEven (q.num.natAbs * Nat.pow 2 (-e).toNat)
      (Nat.mul_pos hden (Nat.two_pow_pos e.toNat))
    have hquotient : ((q.num.natAbs * Nat.pow 2 (-e).toNat : ℕ) : ℚ) /
        (q.den * Nat.pow 2 e.toNat : ℕ) = q / (2 : ℚ) ^ e := by
      have hden : (q.den : ℚ) ≠ 0 := by exact_mod_cast hden.ne'
      rw [two_zpow_eq]
      nth_rewrite 3 [← hcast]
      push_cast
      field_simp
    rw [hm, ← hquotient]
    exact hspec
  have hround : f.round q = m * (2 : ℚ) ^ e := by
    have hsign : ¬ q.num < 0 := not_lt.mpr (Rat.num_pos.mpr hq).le
    have hsignificand : f.significand q.num.natAbs q.den =
        if m = Nat.pow 2 f.precision then (Nat.pow 2 (f.precision - 1), e + 1) else (m, e) := by
      unfold significand
      rw [if_neg hnum.ne', ← he]
      dsimp only
      rw [← hm]
    unfold round
    rw [hsignificand]
    split_ifs with hcarry
    · -- a carry into one more bit moves the power of two
      have hpower : Nat.pow 2 f.precision = 2 * Nat.pow 2 (f.precision - 1) := by
        show 2 ^ f.precision = 2 * 2 ^ (f.precision - 1)
        rw [← pow_succ', Nat.sub_add_cancel hf]
      show scaled (Nat.pow 2 (f.precision - 1) : ℕ) (e + 1) = _
      rw [scaled_eq, hcarry, hpower, zpow_add₀ (by norm_num : (2 : ℚ) ≠ 0)]
      push_cast
      ring
    · exact scaled_eq m e
  have hmagnitude := two_zpow_magnitudeExponent_le hnum hden
  have hnext := lt_two_zpow_magnitudeExponent q.num.natAbs hden
  rw [hcast] at hmagnitude hnext
  unfold gridExponent at he
  have hbits : magnitudeExponent q.num.natAbs q.den + 1 ≤ e + f.precision := by omega
  have hlt : q < 2 ^ (e + f.precision) :=
    hnext.trans_le (zpow_le_zpow_right₀ (by norm_num) hbits)
  refine ⟨m, e, hround, hnearest, he ▸ le_max_right _ _, hlt, ?_⟩
  rcases max_choice (magnitudeExponent q.num.natAbs q.den - (f.precision - 1)) f.finest with h | h
  · refine Or.inr ?_
    rw [he, h, sub_add_cancel]
    exact hmagnitude
  · exact Or.inl (he.trans h)

theorem round_zero (f : Format) : f.round 0 = 0 := by
  show scaled 0 f.finest = 0
  rw [scaled_eq, Int.cast_zero, zero_mul]

/-! ## Single precision -/

/-- A positive number in single precision: its multiple of a power of two. -/
theorem exists_grid_binary32 {q : ℚ} (hq : 0 < q) :
    ∃ (m : ℕ) (e : ℤ), binary32.round q = m * (2 : ℚ) ^ e ∧ Nearest m (q / (2 : ℚ) ^ e) ∧
      -149 ≤ e ∧ q < 2 ^ (e + 24) ∧ (e = -149 ∨ (2 : ℚ) ^ (e + 23) ≤ q) := by
  obtain ⟨m, e, hround, hnearest, hfinest, hlt, hbits⟩ :=
    exists_grid (f := binary32) (by decide) hq
  exact ⟨m, e, hround, hnearest, hfinest, hlt, hbits⟩

/-- Rounding moves a number by half a unit in its last place. -/
theorem abs_round_sub_le {q : ℚ} (hq : 0 ≤ q) :
    |binary32.round q - q| ≤ q / 2 ^ 24 + 1 / 2 ^ 150 := by
  rcases hq.eq_or_lt with rfl | hq
  · rw [round_zero]
    norm_num
  obtain ⟨m, e, hround, hnearest, -, -, hbits⟩ := exists_grid_binary32 hq
  have hunit : (0 : ℚ) < 2 ^ e := zpow_pos (by norm_num) e
  have hhalf : |binary32.round q - q| ≤ 2 ^ e / 2 := by
    have hbelow := mul_le_mul_of_nonneg_right hnearest.below hunit.le
    have habove := mul_le_mul_of_nonneg_right hnearest.above hunit.le
    rw [add_mul, div_mul_cancel₀ q hunit.ne'] at hbelow
    rw [add_mul, div_mul_cancel₀ q hunit.ne'] at habove
    rw [hround, abs_le]
    constructor <;> linarith
  rcases hbits with rfl | hbits
  · have hpos : 0 < q / 2 ^ 24 := by positivity
    have hfinest : (2 : ℚ) ^ (-149 : ℤ) / 2 = 1 / 2 ^ 150 := by norm_num
    linarith
  · rw [zpow_add₀ (by norm_num : (2 : ℚ) ≠ 0)] at hbits
    have hbits : (2 : ℚ) ^ e / 2 ≤ q / 2 ^ 24 := by
      rw [div_le_div_iff₀ (by norm_num) (by norm_num)]
      norm_num at hbits ⊢
      linarith
    have hfinest : (0 : ℚ) < 1 / 2 ^ 150 := by positivity
    linarith

/-- A number of at most 24 bits is a multiple of every unit that a number in single precision below
2 ^ 24 may have. -/
theorem exists_multiple {e : ℤ} (he : e ≤ 0) (n : ℕ) : ∃ k : ℕ, (k : ℚ) * 2 ^ e = n := by
  obtain ⟨j, hj⟩ := Int.eq_ofNat_of_zero_le (Int.neg_nonneg_of_nonpos he)
  obtain rfl : e = -j := by omega
  refine ⟨n * 2 ^ j, ?_⟩
  push_cast
  rw [zpow_neg, zpow_natCast, mul_assoc, mul_inv_cancel₀ (by positivity), mul_one]

/-- A number that has 24 bits on a grid is not rounded below the least such multiple. -/
theorem two_zpow_le_of_nearest {q : ℚ} {m : ℕ} {e : ℤ} (hnearest : Nearest m (q / (2 : ℚ) ^ e))
    (hbits : (2 : ℚ) ^ (e + 23) ≤ q) : (2 : ℚ) ^ (e + 23) ≤ m * 2 ^ e := by
  have hunit : (0 : ℚ) < 2 ^ e := zpow_pos (by norm_num) e
  have hm : 2 ^ 23 ≤ m := by
    refine hnearest.le ?_
    rw [le_div_iff₀ hunit]
    exact (two_zpow_add e 23).symm.le.trans hbits
  calc (2 : ℚ) ^ (e + 23) = (2 ^ 23 : ℕ) * 2 ^ e := two_zpow_add e 23
    _ ≤ m * 2 ^ e := by
      gcongr

/-- Rounding does not fall below a whole number. -/
theorem le_round {n : ℕ} (hn : n ≤ 2 ^ 24) {q : ℚ} (h : (n : ℚ) ≤ q) :
    (n : ℚ) ≤ binary32.round q := by
  rcases ((Nat.cast_nonneg n).trans h).eq_or_lt with rfl | hq
  · rw [round_zero]
    exact h
  obtain ⟨m, e, hround, hnearest, -, -, hbits⟩ := exists_grid_binary32 hq
  have hunit : (0 : ℚ) < 2 ^ e := zpow_pos (by norm_num) e
  rw [hround]
  rcases le_or_gt e 0 with he | he
  · obtain ⟨k, hk⟩ := exists_multiple he n
    have hle : k ≤ m := hnearest.le (by rwa [le_div_iff₀ hunit, hk])
    rw [← hk]
    gcongr
  · -- a coarser unit leaves 24 bits, so that the number is at least 2 ^ 24
    have hbits : (2 : ℚ) ^ (e + 23) ≤ q := hbits.resolve_left (by omega)
    calc (n : ℚ) ≤ 2 ^ (24 : ℤ) := by exact_mod_cast hn
      _ ≤ 2 ^ (e + 23) := zpow_le_zpow_right₀ (by norm_num) (by omega)
      _ ≤ m * 2 ^ e := two_zpow_le_of_nearest hnearest hbits

/-- Rounding does not rise above a whole number. -/
theorem round_le {n : ℕ} (hn : n < 2 ^ 24) {q : ℚ} (hq : 0 ≤ q) (h : q ≤ n) :
    binary32.round q ≤ n := by
  rcases hq.eq_or_lt with rfl | hq
  · rw [round_zero]
    exact h
  obtain ⟨m, e, hround, hnearest, -, -, hbits⟩ := exists_grid_binary32 hq
  have hunit : (0 : ℚ) < 2 ^ e := zpow_pos (by norm_num) e
  have he : e ≤ 0 := by
    refine le_of_not_gt fun he => ?_
    have hbits : (2 : ℚ) ^ (e + 23) ≤ q := hbits.resolve_left (by omega)
    have hlarge : (2 : ℚ) ^ (24 : ℤ) ≤ 2 ^ (e + 23) :=
      zpow_le_zpow_right₀ (by norm_num) (by omega)
    have hn : (n : ℚ) < 2 ^ (24 : ℤ) := by exact_mod_cast hn
    linarith
  obtain ⟨k, hk⟩ := exists_multiple he n
  have hle : m ≤ k := hnearest.ge (by rwa [div_le_iff₀ hunit, hk])
  rw [hround, ← hk]
  gcongr

/-- A whole number of at most 24 bits is kept. -/
theorem round_natCast {n : ℕ} (hn : n < 2 ^ 24) : binary32.round n = n :=
  le_antisymm (round_le hn (Nat.cast_nonneg n) le_rfl) (le_round hn.le le_rfl)

theorem round_nonneg {q : ℚ} (hq : 0 ≤ q) : 0 ≤ binary32.round q := by
  have h := le_round (n := 0) (Nat.zero_le _) (by simpa using hq)
  simpa using h

theorem round_nonpos (f : Format) {q : ℚ} (hq : q ≤ 0) : f.round q ≤ 0 := by
  unfold round
  dsimp only
  split_ifs with hnegative
  · rw [scaled_eq]
    push_cast
    exact mul_nonpos_of_nonpos_of_nonneg (neg_nonpos.mpr (Nat.cast_nonneg _))
      (zpow_nonneg (by norm_num) _)
  · have hzero : q = 0 := le_antisymm hq (Rat.num_nonneg.mp (not_lt.mp hnegative))
    rw [hzero]
    exact (round_zero f).le

/-- Rounding keeps the order of two numbers. -/
theorem round_mono {p q : ℚ} (hp : 0 ≤ p) (hpq : p ≤ q) : binary32.round p ≤ binary32.round q := by
  rcases hpq.eq_or_lt with rfl | hlt
  · exact le_rfl
  rcases hp.eq_or_lt with rfl | hp
  · rw [round_zero]
    exact round_nonneg hpq
  obtain ⟨m, e, hround, hnearest, hfinest, habove, hbits⟩ := exists_grid_binary32 hp
  obtain ⟨n, f, hround', hnearest', hfinest', habove', hbits'⟩ :=
    exists_grid_binary32 (hp.trans hlt)
  have hunit : (0 : ℚ) < 2 ^ e := zpow_pos (by norm_num) e
  rw [hround, hround']
  -- the smaller number is not kept on a coarser grid
  have hef : e ≤ f := by
    rcases hbits with rfl | hbits
    · exact hfinest'
    · have hpowers : (2 : ℚ) ^ (e + 23) < 2 ^ (f + 24) := hbits.trans_lt (hlt.trans habove')
      have hexponents := (zpow_lt_zpow_iff_right₀ (by norm_num)).mp hpowers
      omega
  rcases hef.eq_or_lt with rfl | hcoarser
  · have hquotients : p / 2 ^ e < q / 2 ^ e := by gcongr
    have hmn : (m : ℚ) < (n + 1 : ℕ) := by
      push_cast
      linarith [hnearest.below, hnearest'.above]
    have hle : m ≤ n := Nat.lt_succ_iff.mp (by exact_mod_cast hmn)
    gcongr
  · have hm : m ≤ 2 ^ 24 := by
      refine hnearest.ge ?_
      rw [div_le_iff₀ hunit]
      exact habove.le.trans (two_zpow_add e 24).le
    calc (m : ℚ) * 2 ^ e ≤ (2 ^ 24 : ℕ) * 2 ^ e := by
          gcongr
      _ = 2 ^ (e + 24) := (two_zpow_add e 24).symm
      _ ≤ 2 ^ (f + 23) := zpow_le_zpow_right₀ (by norm_num) (by omega)
      _ ≤ n * 2 ^ f := two_zpow_le_of_nearest hnearest' (hbits'.resolve_left (by omega))

end Format

end BookingNotices.Numeric
