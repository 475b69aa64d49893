import BookingNotices.Invoice.Metrics
import BookingNotices.Proofs.Numeric.Single
import Mathlib.Tactic.SplitIfs

/-!
# Widths in any size

* `millimetres_mono`       : more units are not narrower, as long as they are wide at all;
* `units_eq_span`          : the units that are counted of a text are all of them, if 32 bits hold
  them;
* `not_fits_of_exceeds`    : what has at least the units of a text that exceeds the room does not
  fit it, in whatever size, if 32 bits hold them;
* `millimetres_finite_ne`, `millimetres_infinite` : the sizes in which a text has a width;
* `fits_or_exceeds`        : a text that has one fits the room or exceeds it.

A size may be negative, infinite or without a value. In a size that is not positive nothing exceeds
a room, so that only lengths are compared.
-/

namespace BookingNotices.Invoice.Metrics

open Numeric Numeric.Single Format

variable {m : Metrics} {pen : Pen} {room : Single}

theorem pointsPerMm_eq : pointsPerMm = finite (5944683 / 2097152) := by decide +kernel

theorem unitsPerEm_eq : Single.ofNat unitsPerEm = finite 2048 :=
  ofRat_natCast (n := 2048) (by norm_num)

/-! ## Units -/

@[simp] theorem span_nil (weight : Weight) : m.span weight [] = 0 := rfl

@[simp] theorem span_append (weight : Weight) (as bs : List Char) :
    m.span weight (as ++ bs) = m.span weight as + m.span weight bs := by
  simp [span]

@[simp] theorem span_cons (weight : Weight) (c : Char) (cs : List Char) :
    m.span weight (c :: cs) = m.advance weight c + m.span weight cs := by
  simp [span]

/-- What is left out of a text does not make it wider. -/
theorem span_le_of_sublist {weight : Weight} {as bs : List Char} (h : as.Sublist bs) :
    m.span weight as ≤ m.span weight bs := by
  induction h with
  | slnil => exact le_rfl
  | cons c _ ih => exact ih.trans (by simp)
  | cons_cons c _ ih => simpa using ih

theorem units_nil (weight : Weight) : m.units weight [] = 0 := rfl

theorem units_lt (weight : Weight) (cs : List Char) : m.units weight cs < 2 ^ 32 :=
  Nat.mod_lt _ (by norm_num)

/-- All units of a text are counted if 32 bits hold them. -/
theorem units_eq_span {weight : Weight} {cs : List Char} (h : m.span weight cs < 2 ^ 32) :
    m.units weight cs = m.span weight cs :=
  Nat.mod_eq_of_lt h

/-! ## Ems -/

/-- So many units in ems. -/
def ems (units : ℕ) : Single := Single.ofNat units / finite 2048

theorem millimetres_eq (size : Single) (units : ℕ) :
    millimetres size units = ems units * size / finite (5944683 / 2097152) := by
  unfold millimetres ems
  rw [unitsPerEm_eq, pointsPerMm_eq]

theorem isLength_ems (units : ℕ) : (ems units).IsLength :=
  isLength_div (isLength_ofRat (Nat.cast_nonneg units)) (by norm_num)

theorem ems_mono {u v : ℕ} (h : u ≤ v) : ems u ≤ ems v :=
  div_mono (isLength_ofRat (Nat.cast_nonneg u))
    (ofRat_mono (Nat.cast_nonneg u) (by exact_mod_cast h)) (by norm_num)

/-- Units that move the pen are some part of an em. -/
theorem ems_ne_zero {u : ℕ} (hu : 0 < u) : ems u ≠ finite 0 := by
  have hone : ems 1 = finite (1 / 2048) := by decide +kernel
  have hle : finite (1 / 2048) ≤ ems u := hone ▸ ems_mono hu
  intro hzero
  rw [hzero, finite_le] at hle
  norm_num at hle

/-! ## Widths -/

theorem millimetres_infinite {u : ℕ} (hu : 0 < u) (s : Bool) :
    millimetres (infinite s) u = infinite s := by
  rw [millimetres_eq, mul_infinite (isLength_ems u) (ems_ne_zero hu), infinite_div (by norm_num)]

/-- In a finite size a text has a width, unless it is longer than any. -/
theorem millimetres_finite_ne {u : ℕ} (hu : u < 2 ^ 32) (points : ℚ) :
    millimetres (finite points) u ≠ undefined := by
  have hcount : (u : ℚ) ≤ 2 ^ 64 := by exact_mod_cast (by omega : u ≤ 2 ^ 64)
  obtain ⟨count, hcounted, hnonneg, hnear⟩ := near_ofRat_of_le (Nat.cast_nonneg u) hcount
  have hsmall : count / 2048 ≤ 2 ^ 64 := by
    have hhigh := (abs_le.mp hnear).2
    rw [div_le_iff₀ (by norm_num)]
    linarith
  have hems : ems u = finite (binary32.round (count / 2048)) := by
    unfold ems Single.ofNat
    rw [hcounted, div_finite _ (by norm_num), ofRat_of_le (by positivity) hsmall]
  rw [millimetres_eq, hems, mul_finite]
  exact div_ne_undefined (ofRat_ne_undefined _) (by norm_num)

/-- In a size that is not positive nothing is wide. -/
theorem not_wide_of_nonpos {points : ℚ} (hpoints : points ≤ 0) (u : ℕ) :
    ¬ finite 0 < millimetres (finite points) u := by
  rw [millimetres_eq]
  rcases Single.mul_nonpos (isLength_ems u) hpoints with h | h
  · exact fun hlt => not_le_of_lt hlt (Single.div_nonpos h (by norm_num))
  · rw [h, undefined_div]
    exact fun hlt => not_le_undefined hlt.1

/-- In no size anything is wide without units. -/
theorem not_wide_zero (size : Single) : ¬ finite 0 < millimetres size 0 := by
  have hzero : ems 0 = finite 0 := by decide +kernel
  rw [millimetres_eq, hzero]
  rcases size with points | s | _
  · rw [mul_finite, zero_mul]
    exact fun hlt => not_le_of_lt hlt (Single.div_nonpos (ofRat_nonpos le_rfl) (by norm_num))
  · rw [zero_mul_infinite, undefined_div]
    exact fun hlt => not_le_undefined hlt.1
  · exact fun hlt => not_le_undefined hlt.1

/-- More units are not narrower, as long as they are wide at all. -/
theorem millimetres_mono {size : Single} {u v : ℕ} (huv : u ≤ v)
    (hwide : finite 0 < millimetres size u) : millimetres size u ≤ millimetres size v := by
  rcases size with points | s | _
  · have hpoints : 0 < points := lt_of_not_ge fun h => not_wide_of_nonpos h u hwide
    rw [millimetres_eq, millimetres_eq]
    exact div_mono (isLength_mul (isLength_ems u) hpoints)
      (mul_mono (isLength_ems u) (ems_mono huv) hpoints) (by norm_num)
  · rcases Nat.eq_zero_or_pos u with rfl | hu
    · exact absurd hwide (not_wide_zero _)
    · rw [millimetres_infinite hu, millimetres_infinite (hu.trans_le huv)]
      exact infinite_le_infinite.mpr (by cases s <;> simp)
  · rw [millimetres_eq, mul_undefined, undefined_div] at hwide
    exact absurd hwide.1 not_le_undefined

theorem zero_eq : (0 : Single) = finite 0 := by decide +kernel

/-- What exceeds a room is wide. -/
theorem wide_of_exceeds (hroom : 0 ≤ room) {cs : List Char} (h : m.exceeds pen room cs) :
    finite 0 < m.width pen cs := by
  have hlt : room < m.width pen cs := of_decide_eq_true h
  rw [zero_eq] at hroom
  exact ⟨Single.le_trans hroom hlt.1,
    Bool.eq_false_iff.mpr fun hle => not_le_of_lt hlt (Single.le_trans hle hroom)⟩

/-- A text does not fit a room that one of no more units exceeds. -/
theorem not_fits_of_exceeds (hroom : 0 ≤ room) {as bs : List Char}
    (hle : m.span pen.weight as ≤ m.span pen.weight bs) (hspan : m.span pen.weight bs < 2 ^ 32)
    (h : m.exceeds pen room as) : ¬ m.fits pen room bs := by
  have hlt : room < m.width pen as := of_decide_eq_true h
  have hunits : m.units pen.weight as ≤ m.units pen.weight bs := by
    rwa [units_eq_span (hle.trans_lt hspan), units_eq_span hspan]
  have hmono : m.width pen as ≤ m.width pen bs := millimetres_mono hunits (wide_of_exceeds hroom h)
  exact fun hfits => not_le_of_lt hlt (Single.le_trans hmono (of_decide_eq_true hfits))

/-- The empty text exceeds no room. -/
theorem not_exceeds_nil (hroom : 0 ≤ room) : ¬ m.exceeds pen room [] := by
  intro h
  have hwide := wide_of_exceeds hroom h
  rw [width, units_nil] at hwide
  exact not_wide_zero pen.size hwide

/-- In a finite size every text has a width. -/
theorem width_ne_undefined {points : ℚ} (hsize : pen.size = finite points) (cs : List Char) :
    m.width pen cs ≠ undefined := by
  rw [width, hsize]
  exact millimetres_finite_ne (units_lt pen.weight cs) points

/-- A text that has a width fits the room or exceeds it. -/
theorem fits_or_exceeds (hroom : 0 ≤ room) {cs : List Char} (h : m.width pen cs ≠ undefined) :
    m.fits pen room cs ∨ m.exceeds pen room cs := by
  have hvalue : room ≠ undefined := by
    rintro rfl
    exact not_le_undefined hroom
  by_cases hle : m.width pen cs ≤ room
  · exact .inl (decide_eq_true hle)
  · exact .inr (decide_eq_true (lt_of_not_le hvalue h hle))

end BookingNotices.Invoice.Metrics
