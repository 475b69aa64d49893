import BookingNotices.Numeric.Single
import BookingNotices.Proofs.Numeric.Rounding

/-!
# Lengths in single precision

* `Near`      : a finite number within one rounding of a rational that is not negative;
* `IsLength`  : a number that is not negative, or beyond the greatest finite one;
* `near_mul`, `near_div` : an operation on a length that gives a finite number gives one near to its
  exact result;
* `natCast_add`, `natCast_sub` : whole numbers of 24 bits are added and subtracted exactly;
* `Reaches`   : at least a whole number; a sum reaches what one of its parts does;
* `le_trans`, `lt_of_not_le` : the order, which is total but for what has no value;
* `ofRat_mono`, `mul_mono`, `div_mono` : an operation on two lengths keeps their order.
-/

namespace BookingNotices.Numeric.Single

open Format

/-- A finite number that is not negative, within one rounding of a rational. -/
def Near (a : Single) (q : ℚ) : Prop :=
  ∃ r, a = finite r ∧ 0 ≤ r ∧ |r - q| ≤ q / 2 ^ 24 + 1 / 2 ^ 150

/-- A number that is not negative, if it is finite. -/
def IsLength : Single → Prop
  | finite a => 0 ≤ a
  | infinite negative => negative = false
  | undefined => False

/-- A number that is at least a whole number. -/
def Reaches (a : Single) (n : ℕ) : Prop := finite n ≤ a

theorem Near.bounds {r q : ℚ} (h : (finite r).Near q) :
    0 ≤ r ∧ q - (q / 2 ^ 24 + 1 / 2 ^ 150) ≤ r ∧ r ≤ q + (q / 2 ^ 24 + 1 / 2 ^ 150) := by
  obtain ⟨r', hr, hnonneg, hclose⟩ := h
  cases hr
  obtain ⟨hlow, hhigh⟩ := abs_le.mp hclose
  exact ⟨hnonneg, by linarith, by linarith⟩

/-! ## Rounding -/

theorem overflow_eq : overflow = 2 ^ 128 := by
  unfold overflow
  norm_num

/-- A number that is not negative is rounded to one that is not, or lies beyond all. -/
theorem ofRat_of_nonneg {q : ℚ} (hq : 0 ≤ q) :
    ofRat q =
      if overflow ≤ binary32.round q then infinite false else finite (binary32.round q) := by
  have hnonneg := round_nonneg hq
  have hpos : (0 : ℚ) < overflow := by
    rw [overflow_eq]
    positivity
  have hnegative : ¬ binary32.round q ≤ -overflow := by linarith
  simp only [ofRat, if_neg hnegative]

theorem isLength_ofRat {q : ℚ} (hq : 0 ≤ q) : (ofRat q).IsLength := by
  rw [ofRat_of_nonneg hq]
  split_ifs
  · exact rfl
  · exact round_nonneg hq

/-- What is rounded to a finite number is near to it. -/
theorem near_ofRat {q : ℚ} (hq : 0 ≤ q) (h : ofRat q ≠ infinite false) : (ofRat q).Near q := by
  rw [ofRat_of_nonneg hq] at h ⊢
  split_ifs at h ⊢
  · exact absurd rfl h
  · exact ⟨_, rfl, round_nonneg hq, abs_round_sub_le hq⟩

/-- A number below 2 ^ 64 is rounded to a finite one. -/
theorem ofRat_of_le {q : ℚ} (hq : 0 ≤ q) (hle : q ≤ 2 ^ 64) :
    ofRat q = finite (binary32.round q) := by
  have hclose := (abs_le.mp (abs_round_sub_le hq)).2
  have hsmall : ¬ overflow ≤ binary32.round q := by
    rw [overflow_eq]
    norm_num at hclose hle ⊢
    linarith
  rw [ofRat_of_nonneg hq, if_neg hsmall]

theorem near_ofRat_of_le {q : ℚ} (hq : 0 ≤ q) (hle : q ≤ 2 ^ 64) : (ofRat q).Near q :=
  ⟨_, ofRat_of_le hq hle, round_nonneg hq, abs_round_sub_le hq⟩

/-- A whole number of at most 24 bits is its own single precision number. -/
theorem ofRat_natCast {n : ℕ} (hn : n < 2 ^ 24) : ofRat n = finite n := by
  have hle : (n : ℚ) ≤ 2 ^ 64 := by exact_mod_cast (by omega : n ≤ 2 ^ 64)
  rw [ofRat_of_le (Nat.cast_nonneg n) hle, round_natCast hn]

/-- A length is a number that is not negative, or lies beyond all. -/
theorem IsLength.finite_or_infinite {a : Single} (ha : a.IsLength) :
    (∃ q, 0 ≤ q ∧ a = finite q) ∨ a = infinite false := by
  cases a with
  | finite q => exact .inl ⟨q, ha, rfl⟩
  | infinite negative =>
    obtain rfl : negative = false := ha
    exact .inr rfl
  | undefined => exact ha.elim

theorem IsLength.ne_undefined {a : Single} (ha : a.IsLength) : a ≠ undefined := by
  rintro rfl
  exact ha

/-! ## Operations on lengths -/

section Operations

variable {a b : Single}

theorem mul_finite (q b : ℚ) : finite q * finite b = ofRat (q * b) := rfl

theorem add_finite (p q : ℚ) : finite p + finite q = ofRat (p + q) := rfl

theorem div_finite (q : ℚ) {b : ℚ} (hb : 0 < b) : finite q / finite b = ofRat (q / b) :=
  if_neg hb.ne'

theorem infinite_mul {b : ℚ} (hb : 0 < b) : infinite false * finite b = infinite false := by
  show (if b = 0 then undefined else infinite (false != decide (b < 0))) = _
  rw [if_neg hb.ne', decide_eq_false hb.not_gt]
  rfl

theorem infinite_div {s : Bool} {b : ℚ} (hb : 0 < b) : infinite s / finite b = infinite s := by
  show infinite (s != decide (b < 0)) = _
  rw [decide_eq_false hb.not_gt, Bool.bne_false]

theorem isLength_mul (ha : a.IsLength) {b : ℚ} (hb : 0 < b) : (a * finite b).IsLength := by
  obtain ⟨q, hq, rfl⟩ | rfl := ha.finite_or_infinite
  · exact isLength_ofRat (mul_nonneg hq hb.le)
  · rw [infinite_mul hb]
    exact rfl

theorem isLength_div (ha : a.IsLength) {b : ℚ} (hb : 0 < b) : (a / finite b).IsLength := by
  obtain ⟨q, hq, rfl⟩ | rfl := ha.finite_or_infinite
  · rw [div_finite q hb]
    exact isLength_ofRat (div_nonneg hq hb.le)
  · rw [infinite_div hb]
    exact rfl

theorem isLength_add (ha : a.IsLength) (hb : b.IsLength) : (a + b).IsLength := by
  obtain ⟨p, hp, rfl⟩ | rfl := ha.finite_or_infinite <;>
    obtain ⟨q, hq, rfl⟩ | rfl := hb.finite_or_infinite
  · exact isLength_ofRat (add_nonneg hp hq)
  all_goals exact rfl

/-- A product that is finite is near to the exact one, and its factor is finite. -/
theorem near_mul (ha : a.IsLength) {b : ℚ} (hb : 0 < b) (h : a * finite b ≠ infinite false) :
    ∃ q, a = finite q ∧ 0 ≤ q ∧ (a * finite b).Near (q * b) := by
  obtain ⟨q, hq, rfl⟩ | rfl := ha.finite_or_infinite
  · exact ⟨q, rfl, hq, near_ofRat (mul_nonneg hq hb.le) h⟩
  · exact absurd (infinite_mul hb) h

/-- A quotient that is finite is near to the exact one, and its dividend is finite. -/
theorem near_div (ha : a.IsLength) {b : ℚ} (hb : 0 < b) (h : a / finite b ≠ infinite false) :
    ∃ q, a = finite q ∧ 0 ≤ q ∧ (a / finite b).Near (q / b) := by
  obtain ⟨q, hq, rfl⟩ | rfl := ha.finite_or_infinite
  · rw [div_finite q hb] at h ⊢
    exact ⟨q, rfl, hq, near_ofRat (div_nonneg hq hb.le) h⟩
  · exact absurd (infinite_div hb) h

/-! ## Whole numbers -/

theorem natCast_add {m n : ℕ} (h : m + n < 2 ^ 24) :
    (finite m + finite n : Single) = finite ((m + n : ℕ) : ℚ) := by
  rw [add_finite, ← Nat.cast_add, ofRat_natCast h]

theorem natCast_mul {m n : ℕ} (h : m * n < 2 ^ 24) :
    (finite m * finite n : Single) = finite ((m * n : ℕ) : ℚ) := by
  rw [mul_finite, ← Nat.cast_mul, ofRat_natCast h]

theorem natCast_sub {m n : ℕ} (hle : n ≤ m) (h : m < 2 ^ 24) :
    (finite m - finite n : Single) = finite ((m - n : ℕ) : ℚ) := by
  show (ofRat (m + -(n : ℚ)) : Single) = _
  rw [← sub_eq_add_neg, ← Nat.cast_sub hle, ofRat_natCast (by omega)]

/-! ## What is reached -/

theorem reaches_finite {q : ℚ} {n : ℕ} : (finite q).Reaches n ↔ (n : ℚ) ≤ q := decide_eq_true_iff

theorem reaches_infinite (n : ℕ) : (infinite false).Reaches n := rfl

/-- Rounding does not fall below a whole number of 24 bits. -/
theorem reaches_ofRat {q : ℚ} {n : ℕ} (hn : n ≤ 2 ^ 24) (h : (n : ℚ) ≤ q) :
    (ofRat q).Reaches n := by
  rw [ofRat_of_nonneg ((Nat.cast_nonneg n).trans h)]
  split_ifs
  · exact reaches_infinite n
  · exact reaches_finite.mpr (le_round hn h)

/-- A sum reaches what its first part does. -/
theorem Reaches.add {n : ℕ} (h : a.Reaches n) (hn : n ≤ 2 ^ 24) (ha : a.IsLength)
    (hb : b.IsLength) : (a + b).Reaches n := by
  obtain ⟨p, hp, rfl⟩ | rfl := ha.finite_or_infinite <;>
    obtain ⟨q, hq, rfl⟩ | rfl := hb.finite_or_infinite
  · have hreach := reaches_finite.mp h
    exact reaches_ofRat hn (by linarith)
  all_goals exact reaches_infinite n

/-- A sum reaches what its second part does. -/
theorem Reaches.add_left {n : ℕ} (h : b.Reaches n) (hn : n ≤ 2 ^ 24) (ha : a.IsLength)
    (hb : b.IsLength) : (a + b).Reaches n := by
  obtain ⟨p, hp, rfl⟩ | rfl := ha.finite_or_infinite <;>
    obtain ⟨q, hq, rfl⟩ | rfl := hb.finite_or_infinite
  · have hreach := reaches_finite.mp h
    exact reaches_ofRat hn (by linarith)
  all_goals exact reaches_infinite n

end Operations

/-! ## The order -/

section Order

variable {a b c : Single}

@[simp] theorem finite_le {p q : ℚ} : finite p ≤ finite q ↔ p ≤ q := decide_eq_true_iff

@[simp] theorem finite_le_infinite {p : ℚ} {t : Bool} : finite p ≤ infinite t ↔ t = false := by
  cases t
  · exact iff_of_true rfl rfl
  · exact iff_of_false Bool.false_ne_true Bool.false_ne_true.symm

@[simp] theorem infinite_le_finite {s : Bool} {q : ℚ} : infinite s ≤ finite q ↔ s = true := by
  cases s
  · exact iff_of_false Bool.false_ne_true Bool.false_ne_true
  · exact iff_of_true rfl rfl

@[simp] theorem infinite_le_infinite {s t : Bool} :
    infinite s ≤ infinite t ↔ s = true ∨ t = false := by
  cases s <;> cases t <;> decide

@[simp] theorem not_undefined_le : ¬ undefined ≤ a := by
  cases a <;> exact Bool.false_ne_true

@[simp] theorem not_le_undefined : ¬ a ≤ undefined := by
  rcases a with _ | s | _
  · exact Bool.false_ne_true
  · cases s <;> exact Bool.false_ne_true
  · exact Bool.false_ne_true

protected theorem le_trans (hab : a ≤ b) (hbc : b ≤ c) : a ≤ c := by
  rcases a with p | s | _ <;> rcases b with q | t | _ <;> rcases c with r | u | _ <;>
    simp_all
  · exact hab.trans hbc
  · rcases hab with h | h <;> simp_all

theorem not_le_of_lt (h : a < b) : ¬ b ≤ a := fun hle => absurd hle (Bool.eq_false_iff.mp h.2)

/-- Of two numbers with a value one is less than the other, or at least it. -/
theorem lt_of_not_le (ha : a ≠ undefined) (hb : b ≠ undefined) (h : ¬ b ≤ a) : a < b := by
  have hle : a ≤ b := by
    rcases a with p | s | _ <;> rcases b with q | t | _ <;> simp_all
    exact h.le
  exact ⟨hle, Bool.eq_false_iff.mpr h⟩

/-- Everything that is at least a length is one. -/
theorem IsLength.of_le (ha : a.IsLength) (hab : a ≤ b) : b.IsLength := by
  obtain ⟨p, hp, rfl⟩ | rfl := ha.finite_or_infinite <;> rcases b with q | t | _ <;> simp_all
  · exact hp.trans hab
  · exact rfl

theorem IsLength.le_infinite (ha : a.IsLength) : a ≤ infinite false := by
  obtain ⟨p, -, rfl⟩ | rfl := ha.finite_or_infinite <;> simp

theorem ofRat_mono {p q : ℚ} (hp : 0 ≤ p) (hpq : p ≤ q) : ofRat p ≤ ofRat q := by
  have hround := round_mono hp hpq
  rw [ofRat_of_nonneg hp, ofRat_of_nonneg (hp.trans hpq)]
  split_ifs with h h'
  · simp
  · exact absurd (h.trans hround) h'
  · simp
  · exact finite_le.mpr hround

theorem mul_mono (ha : a.IsLength) (hab : a ≤ b) {c : ℚ} (hc : 0 < c) :
    a * finite c ≤ b * finite c := by
  obtain ⟨p, hp, rfl⟩ | rfl := ha.finite_or_infinite <;>
    obtain ⟨q, hq, rfl⟩ | rfl := (ha.of_le hab).finite_or_infinite
  · exact ofRat_mono (mul_nonneg hp hc.le) (mul_le_mul_of_nonneg_right (finite_le.mp hab) hc.le)
  · rw [infinite_mul hc]
    exact (isLength_mul ha hc).le_infinite
  · exact absurd (infinite_le_finite.mp hab) Bool.false_ne_true
  · exact (infinite_mul hc).symm ▸ infinite_le_infinite.mpr (.inr rfl)

theorem div_mono (ha : a.IsLength) (hab : a ≤ b) {c : ℚ} (hc : 0 < c) :
    a / finite c ≤ b / finite c := by
  obtain ⟨p, hp, rfl⟩ | rfl := ha.finite_or_infinite <;>
    obtain ⟨q, hq, rfl⟩ | rfl := (ha.of_le hab).finite_or_infinite
  · rw [div_finite p hc, div_finite q hc]
    exact ofRat_mono (div_nonneg hp hc.le) (div_le_div_of_nonneg_right (finite_le.mp hab) hc.le)
  · rw [infinite_div hc]
    exact (isLength_div ha hc).le_infinite
  · exact absurd (infinite_le_finite.mp hab) Bool.false_ne_true
  · exact (infinite_div hc).symm ▸ infinite_le_infinite.mpr (.inr rfl)

end Order

/-! ## Other factors -/

section Factors

variable {a : Single}

theorem ofRat_ne_undefined (q : ℚ) : ofRat q ≠ undefined := by
  unfold ofRat
  dsimp only
  split_ifs <;> nofun

theorem ofRat_nonpos {q : ℚ} (hq : q ≤ 0) : ofRat q ≤ finite 0 := by
  have hround := round_nonpos binary32 hq
  have hpos : (0 : ℚ) < overflow := by
    rw [overflow_eq]
    positivity
  have hlarge : ¬ overflow ≤ binary32.round q := by linarith
  simp only [ofRat, if_neg hlarge]
  split_ifs
  · simp
  · exact finite_le.mpr hround

/-- A length times a number that is not positive. -/
protected theorem mul_nonpos (ha : a.IsLength) {c : ℚ} (hc : c ≤ 0) :
    a * finite c ≤ finite 0 ∨ a * finite c = undefined := by
  obtain ⟨p, hp, rfl⟩ | rfl := ha.finite_or_infinite
  · exact .inl (ofRat_nonpos (mul_nonpos_of_nonneg_of_nonpos hp hc))
  · show (if c = 0 then undefined else infinite (false != decide (c < 0))) ≤ finite 0 ∨
      (if c = 0 then undefined else infinite (false != decide (c < 0))) = undefined
    rcases hc.eq_or_lt with rfl | hc
    · exact .inr (if_pos rfl)
    · rw [if_neg hc.ne, decide_eq_true hc]
      exact .inl rfl

protected theorem div_nonpos (ha : a ≤ finite 0) {c : ℚ} (hc : 0 < c) :
    a / finite c ≤ finite 0 := by
  rcases a with p | s | _
  · rw [div_finite p hc]
    exact ofRat_nonpos (div_nonpos_of_nonpos_of_nonneg (finite_le.mp ha) hc.le)
  · obtain rfl := infinite_le_finite.mp ha
    rw [infinite_div hc]
    exact rfl
  · exact absurd ha not_undefined_le

theorem undefined_div (b : Single) : undefined / b = undefined := by cases b <;> rfl

theorem mul_undefined (a : Single) : a * undefined = undefined := by cases a <;> rfl

/-- A length of something times an infinite number. -/
theorem mul_infinite (ha : a.IsLength) (h : a ≠ finite 0) (s : Bool) :
    a * infinite s = infinite s := by
  obtain ⟨p, hp, rfl⟩ | rfl := ha.finite_or_infinite
  · have hp : 0 < p := hp.lt_of_ne fun hzero => h (by rw [← hzero])
    show (if p = 0 then undefined else infinite (s != decide (p < 0))) = _
    rw [if_neg hp.ne', decide_eq_false hp.not_gt, Bool.bne_false]
  · show infinite (false != s) = _
    rw [Bool.false_bne]

theorem zero_mul_infinite (s : Bool) : finite 0 * infinite s = undefined := by
  show (if (0 : ℚ) = 0 then undefined else infinite (s != decide ((0 : ℚ) < 0))) = _
  rw [if_pos rfl]

theorem div_ne_undefined (ha : a ≠ undefined) {b : ℚ} (hb : 0 < b) : a / finite b ≠ undefined := by
  rcases a with p | s | _
  · rw [div_finite p hb]
    exact ofRat_ne_undefined _
  · rw [infinite_div hb]
    nofun
  · exact absurd rfl ha

end Factors

end BookingNotices.Numeric.Single
