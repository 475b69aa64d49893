import BookingNotices.Time.Calendar

/-!
# Days and dates

* `startOfYear`, `yearOfEra` : the first day of a year of an era, and the year of a day of it;
* `Date.exists_parts`   : a date in the parts from which it is put together;
* `Date.toDays_ofDays`  : the days to the date of a day are those days;
* `Date.isValid_ofDays` : the date of a day is one of the calendar.

An era has four hundred years, from March to February. The year of a day never goes back from one
day to the next, so that its values at the ends of the years settle it.
-/

namespace BookingNotices.Time

/-- The first day of a year of an era. -/
def startOfYear (y : Int) : Int := 365 * y + y / 4 - y / 100

/-- The year of a day of an era. -/
def yearOfEra (d : Int) : Int := (d - d / 1460 + d / 36524 - d / 146096) / 365

theorem yearOfEra_mono {a b : Int} (h : a ≤ b) (ha : 0 ≤ a) (hb : b < 146097) :
    yearOfEra a ≤ yearOfEra b := by
  have hcycles : a - a / 1460 ≤ b - b / 1460 := by omega
  have hcenturies : a / 36524 - a / 146096 ≤ b / 36524 - b / 146096 := by omega
  unfold yearOfEra
  omega

/-- The first day of a year belongs to it, and the day before does not. -/
theorem yearOfEra_startOfYear :
    ∀ y < 400, yearOfEra (startOfYear (y : Nat)) = y ∧
      (0 < y → yearOfEra (startOfYear (y : Nat) - 1) < y) := by
  decide +kernel

theorem yearOfEra_bounds {d : Int} (h0 : 0 ≤ d) (h1 : d < 146097) :
    0 ≤ yearOfEra d ∧ yearOfEra d < 400 := by
  unfold yearOfEra
  omega

/-- A day is of a year or a later one if it does not come before the year. -/
theorem le_yearOfEra_iff {d : Int} (h0 : 0 ≤ d) (h1 : d < 146097) {y : Nat} (hy : y < 400) :
    (y : Int) ≤ yearOfEra d ↔ startOfYear y ≤ d := by
  obtain ⟨hfirst, hbefore⟩ := yearOfEra_startOfYear y hy
  have hstart : 0 ≤ startOfYear y ∧ startOfYear y < 146097 := by
    unfold startOfYear
    omega
  constructor
  · intro h
    refine Int.not_lt.mp fun hearly => ?_
    have hpos : 0 < y := by
      rcases Nat.eq_zero_or_pos y with rfl | hpos
      · exact absurd h0 (Int.not_le.mpr hearly)
      · exact hpos
    have hmono := yearOfEra_mono (Int.le_sub_one_of_lt hearly) h0 (by omega)
    have hlt := hbefore hpos
    omega
  · intro h
    rw [← hfirst]
    exact yearOfEra_mono h hstart.1 h1

/-- The last day of a year of an era is the leap day of the calendar year that the next one is in,
if that is a leap year. -/
theorem startOfYear_succ (era : Int) {y : Int} (h0 : 0 ≤ y) (h1 : y < 399) :
    startOfYear (y + 1) =
      startOfYear y + (if isLeapYear (y + era * 400 + 1) then 366 else 365) := by
  unfold startOfYear isLeapYear
  by_cases h4 : (y + 1) % 4 = 0 <;> by_cases h100 : (y + 1) % 100 = 0 <;>
    simp <;> split <;> omega

namespace Date

/-- The date of a day of a year of an era. -/
def ofParts (era year dayOfYear : Int) : Date :=
  let monthFromMarch := (5 * dayOfYear + 2) / 153
  let month := if monthFromMarch < 10 then monthFromMarch + 3 else monthFromMarch - 9
  ⟨year + era * 400 + (if month ≤ 2 then 1 else 0), month.toNat,
    (dayOfYear - (153 * monthFromMarch + 2) / 5 + 1).toNat⟩

/-- Every day is a day of a year of an era, the 366th only where that is a leap day. -/
theorem exists_parts (days : Int) :
    ∃ era year dayOfYear : Int, (0 ≤ year ∧ year < 400) ∧
      (0 ≤ dayOfYear ∧ dayOfYear < if isLeapYear (year + era * 400 + 1) then 366 else 365) ∧
      days = era * 146097 + startOfYear year + dayOfYear - 719468 ∧
      ofDays days = ofParts era year dayOfYear := by
  have h0 : 0 ≤ (days + 719468) % 146097 := by omega
  have h1 : (days + 719468) % 146097 < 146097 := by omega
  obtain ⟨hnonneg, hlt⟩ := yearOfEra_bounds h0 h1
  obtain ⟨y, hy⟩ := Int.eq_ofNat_of_zero_le hnonneg
  refine ⟨(days + 719468) / 146097, y, (days + 719468) % 146097 - startOfYear y, by omega, ⟨?_, ?_⟩,
    by omega, ?_⟩
  · have hstart := (le_yearOfEra_iff h0 h1 (show y < 400 by omega)).mp (Int.le_of_eq hy.symm)
    omega
  · by_cases hlast : y < 399
    · have hnext := startOfYear_succ ((days + 719468) / 146097) (Int.natCast_nonneg y) (by omega)
      have hearly : ¬ startOfYear ((y + 1 : Nat) : Int) ≤ (days + 719468) % 146097 := fun h => by
        have hle := (le_yearOfEra_iff h0 h1 (show y + 1 < 400 by omega)).mpr h
        omega
      have hcast : ((y + 1 : Nat) : Int) = y + 1 := rfl
      rw [hcast, hnext] at hearly
      omega
    · obtain rfl : y = 399 := by omega
      have hleap :
          isLeapYear (((399 : Nat) : Int) + (days + 719468) / 146097 * 400 + 1) = true := by
        unfold isLeapYear
        simp
        omega
      rw [if_pos hleap]
      show _ - (365 * 399 + 399 / 4 - 399 / 100) < _
      omega
  · rw [← hy]
    rfl

/-- From March to December a date is of the year that its year of an era starts in. -/
theorem ofParts_of_lt {era y n m : Int} (hm : (5 * n + 2) / 153 = m) (hlt : m < 10) (h0 : 0 ≤ m) :
    ofParts era y n = ⟨y + era * 400, (m + 3).toNat, (n - (153 * m + 2) / 5 + 1).toNat⟩ := by
  have hlate : ¬ m + 3 ≤ 2 := by omega
  simp only [ofParts, hm, if_pos hlt, if_neg hlate, Int.add_zero]

/-- January and February are of the year after. -/
theorem ofParts_of_ge {era y n m : Int} (hm : (5 * n + 2) / 153 = m) (hge : ¬ m < 10)
    (h12 : m < 12) :
    ofParts era y n = ⟨y + era * 400 + 1, (m - 9).toNat, (n - (153 * m + 2) / 5 + 1).toNat⟩ := by
  have hearly : m - 9 ≤ 2 := by omega
  simp only [ofParts, hm, if_neg hge, if_pos hearly]

/-- The days to a date that is put together from a day of a year of an era. -/
theorem toDays_ofParts (era : Int) {y n : Int} (hy : 0 ≤ y ∧ y < 400) (hn : 0 ≤ n ∧ n < 366) :
    (ofParts era y n).toDays = era * 146097 + startOfYear y + n - 719468 := by
  obtain ⟨m, hm⟩ : ∃ m, (5 * n + 2) / 153 = m := ⟨_, rfl⟩
  have hmonth : 0 ≤ m ∧ m < 12 := by omega
  have hera : (y + era * 400) / 400 = era := by omega
  have hyear : (y + era * 400) % 400 = y := by omega
  have hday : (153 * m + 2) / 5 + ((n - (153 * m + 2) / 5 + 1).toNat : Int) - 1 = n := by omega
  by_cases hlt : m < 10
  · have hlate : ¬ (m + 3).toNat ≤ 2 := by omega
    have hfromMarch : (((m + 3).toNat : Int) + 9) % 12 = m := by omega
    rw [ofParts_of_lt hm hlt hmonth.1]
    simp only [toDays, startOfYear, if_neg hlate, hera, hyear, hfromMarch, hday]
    omega
  · have hearly : (m - 9).toNat ≤ 2 := by omega
    have hfromMarch : (((m - 9).toNat : Int) + 9) % 12 = m := by omega
    rw [ofParts_of_ge hm hlt hmonth.2]
    simp only [toDays, startOfYear, if_pos hearly, Int.add_sub_cancel, hera, hyear, hfromMarch,
      hday]
    omega

/-- The days to the date of a day are those days. -/
theorem toDays_ofDays (days : Int) : (ofDays days).toDays = days := by
  obtain ⟨era, y, n, hy, ⟨hn, hnlt⟩, rfl, hparts⟩ := exists_parts days
  rw [hparts, toDays_ofParts era hy ⟨hn, by split at hnlt <;> omega⟩]

/-- From March to December the months have as many days as the rule of five months gives them. -/
theorem daysInMonth_of_lt (year : Int) :
    ∀ m < 10, daysInMonth year (m + 3) = (153 * (m + 1) + 2) / 5 - (153 * m + 2) / 5
  | 0, _ | 1, _ | 2, _ | 3, _ | 4, _ | 5, _ | 6, _ | 7, _ | 8, _ | 9, _ => rfl

/-- A date that is put together from a day of a year of an era is one of the calendar. -/
theorem isValid_ofParts (era : Int) {y n : Int}
    (hn : 0 ≤ n ∧ n < if isLeapYear (y + era * 400 + 1) then 366 else 365) :
    (ofParts era y n).isValid := by
  have hlast : n < 366 := by
    have hlt := hn.2
    split at hlt <;> omega
  obtain ⟨m, hm⟩ : ∃ m, (5 * n + 2) / 153 = m := ⟨_, rfl⟩
  have hmonth : 0 ≤ m ∧ m < 12 := by omega
  by_cases hlt : m < 10
  · rw [ofParts_of_lt hm hlt hmonth.1]
    obtain ⟨m, rfl⟩ := Int.eq_ofNat_of_zero_le hmonth.1
    have hdays := daysInMonth_of_lt (y + era * 400) m (by omega)
    have hcast : ((m : Int) + 3).toNat = m + 3 := rfl
    have hfirst : (153 * (m : Int) + 2) / 5 = ((153 * m + 2) / 5 : Nat) := rfl
    have hnext : n < ((153 * (m + 1) + 2) / 5 : Nat) := by omega
    have hlater : (153 * m + 2) / 5 ≤ (153 * (m + 1) + 2) / 5 := by omega
    simp only [isValid, hcast, hdays, hfirst, Bool.and_eq_true, decide_eq_true_eq]
    omega
  · rw [ofParts_of_ge hm hlt hmonth.2]
    obtain rfl | rfl : m = 10 ∨ m = 11 := by omega
    · simp only [isValid, Bool.and_eq_true, decide_eq_true_eq]
      show _ ∧ _ ≤ 31
      omega
    · simp only [isValid, Bool.and_eq_true, decide_eq_true_eq]
      have hfebruary := hn.2
      show _ ∧ _ ≤ if isLeapYear (y + era * 400 + 1) then 29 else 28
      split at hfebruary
      · rename_i hleap
        rw [if_pos hleap]
        omega
      · rename_i hleap
        rw [if_neg hleap]
        omega

/-- The date of a day is one of the calendar. -/
theorem isValid_ofDays (days : Int) : (ofDays days).isValid := by
  obtain ⟨era, y, n, -, hn, -, hparts⟩ := exists_parts days
  rw [hparts]
  exact isValid_ofParts era hn

/-- Only the twelve months have days, and none has more than 31. -/
theorem daysInMonth_bounds (y : Int) :
    ∀ m, 0 < daysInMonth y m → (1 ≤ m ∧ m ≤ 12) ∧ daysInMonth y m ≤ 31
  | 0, h | _ + 13, h => absurd h (Nat.lt_irrefl 0)
  | 1, _ | 3, _ | 5, _ | 7, _ | 8, _ | 10, _ | 12, _ => ⟨by decide, Nat.le_refl 31⟩
  | 4, _ | 6, _ | 9, _ | 11, _ => ⟨by decide, Nat.le_succ 30⟩
  | 2, _ => by
    refine ⟨by decide, ?_⟩
    show (if isLeapYear y then 29 else 28) ≤ 31
    split <;> omega

/-- A date of the calendar has one of the twelve months, and a day that some month has. -/
theorem bounds_of_isValid {d : Date} (h : d.isValid) :
    (1 ≤ d.month ∧ d.month ≤ 12) ∧ (1 ≤ d.day ∧ d.day ≤ 31) := by
  obtain ⟨hfirst, hlast⟩ : 1 ≤ d.day ∧ d.day ≤ daysInMonth d.year d.month := by
    simpa [isValid] using h
  obtain ⟨hmonth, hdays⟩ := daysInMonth_bounds d.year d.month (by omega)
  exact ⟨hmonth, hfirst, Nat.le_trans hlast hdays⟩

/-- The days of the years of four digits lie well inside the calendar that instants are kept in. -/
theorem toDays_bounds {d : Date} (hyear : 0 ≤ d.year ∧ d.year ≤ 9999) (h : d.isValid) :
    -1000000 < d.toDays ∧ d.toDays < 4000000 := by
  obtain ⟨hmonth, hday⟩ := bounds_of_isValid h
  unfold toDays
  dsimp only
  split <;> omega

end Date

end BookingNotices.Time
