import BookingNotices.Proofs.Digits
import BookingNotices.Proofs.Time.Calendar
import BookingNotices.Time.Rfc3339
import Mathlib.Tactic.SplitIfs

/-!
# Instants read back

* `Spells`       : so many digits that spell a number (`Spells.padded`);
* `number_spelled`, `fraction_fractionText` : the fields of a text are read as what they spell;
* `Timestamp.Common` : an instant of a year of four digits, in a leap second only at the end of a
  minute;
* `readStrict_offsetText` : the text of such an instant is read as the instant, to the nanosecond.
-/

namespace BookingNotices.Time

open Text

namespace Rfc3339

/-! ## Digits -/

/-- These characters are so many digits, and spell the number. -/
structure Spells (width n : Nat) (ds : List Char) : Prop where
  length : ds.length = width
  digits : ∀ c ∈ ds, c.isDigit
  value : Nat.ofDigitChars 10 ds 0 = n

/-- A number that has no more digits than asked for is padded to exactly so many. -/
theorem Spells.padded {width n : Nat} (hwidth : 0 < width) (hn : n < Nat.pow 10 width) :
    Spells width n (padded width n).toList := by
  have hlen : (Nat.toDigits 10 n).length ≤ width :=
    (Nat.length_toDigits_le_iff (by decide) hwidth).mpr hn
  have htext : (Time.padded width n).toList =
      List.replicate (width - (Nat.toDigits 10 n).length) '0' ++ Nat.toDigits 10 n := by
    unfold Time.padded
    rw [String.toList_append, String.toList_ofList, Nat.toString_eq_ofList_toDigits,
      String.length_ofList, String.toList_ofList]
  rw [htext]
  constructor
  · simp
    omega
  · intro c hc
    rcases List.mem_append.mp hc with hc | hc
    · rw [List.eq_of_mem_replicate hc]
      rfl
    · exact Nat.isDigit_of_mem_toDigits (by decide) (by decide) hc
  · rw [Nat.ofDigitChars_append, Nat.ofDigitChars_replicate_zero, Nat.mul_zero,
      Nat.ofDigitChars_ten_toDigits]

theorem digit?_of_isDigit {c : Char} (h : c.isDigit) :
    Integer.digit? c = some (c.toNat - '0'.toNat) :=
  if_pos (Digits.isDigit_iff.mp h)

theorem digit?_of_not_isDigit {c : Char} (h : c.isDigit = false) : Integer.digit? c = none :=
  if_neg fun hbounds => Bool.false_ne_true (h.symm.trans (Digits.isDigit_iff.mpr hbounds))

/-- The text does not start with a digit. -/
def NoDigit (cs : List Char) : Prop := ∀ c ∈ cs.head?, c.isDigit = false

theorem NoDigit.nil : NoDigit [] := fun _ hc => nomatch hc

theorem NoDigit.cons {c : Char} (h : c.isDigit = false) (cs : List Char) : NoDigit (c :: cs) :=
  fun _ hd => Option.some.inj hd ▸ h

/-- All digits are read that there are, if they may be. -/
theorem digits_append {ds rest : List Char} (hds : ∀ c ∈ ds, c.isDigit) (hrest : NoDigit rest)
    {most n : Nat} (hmost : ds.length ≤ most) (hword : Nat.ofDigitChars 10 ds n < Nat.pow 2 63) :
    digits most n (ds ++ rest) = .ok (Nat.ofDigitChars 10 ds n, rest) := by
  induction ds generalizing most n with
  | nil =>
    cases most with
    | zero => rfl
    | succ most =>
      cases rest with
      | nil => rfl
      | cons c cs =>
        have hc := digit?_of_not_isDigit (hrest c rfl)
        simp only [List.nil_append, digits, hc, Nat.ofDigitChars_nil]
  | cons c ds ih =>
    obtain ⟨hc, hds⟩ := List.forall_mem_cons.mp hds
    obtain ⟨most, rfl⟩ := Nat.exists_eq_add_one_of_ne_zero (Nat.ne_zero_of_lt hmost)
    rw [Nat.ofDigitChars_cons, Nat.mul_comm] at hword ⊢
    have hfits : ¬ Nat.pow 2 63 ≤ n * 10 + (c.toNat - '0'.toNat) :=
      Nat.not_le.mpr (Nat.lt_of_le_of_lt (Digits.le_value ds _) hword)
    simp only [List.cons_append, digits, digit?_of_isDigit hc, if_neg hfits]
    exact ih hds (Nat.le_of_succ_le_succ hmost) hword

theorem length_le_bytesLeft (cs : List Char) : cs.length ≤ bytesLeft cs := by
  suffices h : ∀ n, n + cs.length ≤ cs.foldl (fun n c => n + c.utf8Size) n by
    simpa [bytesLeft] using h 0
  intro n
  induction cs generalizing n with
  | nil => exact Nat.le_refl n
  | cons c cs ih =>
    have hsize := c.utf8Size_pos
    have hstep := ih (n + c.utf8Size)
    rw [List.foldl_cons, List.length_cons]
    omega

/-- A number is read from digits that spell it. -/
theorem number_spelled {width n : Nat} {ds rest : List Char} (h : Spells width n ds)
    (hrest : NoDigit rest) {least most : Nat} (hleast : least ≤ width) (hmost : width ≤ most)
    (hword : n < Nat.pow 2 63) : number least most (ds ++ rest) = .ok (n, rest) := by
  have henough : ¬ bytesLeft (ds ++ rest) < least := by
    have hlen := length_le_bytesLeft (ds ++ rest)
    rw [List.length_append, h.length] at hlen
    omega
  have hdigits : (((ds ++ rest).take least).all fun c => (Integer.digit? c).isSome) = true := by
    rw [List.take_append_of_le_length (h.length ▸ hleast), List.all_eq_true]
    intro c hc
    rw [digit?_of_isDigit (h.digits c (List.mem_of_mem_take hc))]
    rfl
  have hread := digits_append (n := 0) h.digits hrest (h.length ▸ hmost) (h.value.symm ▸ hword)
  rw [h.value] at hread
  simp only [number, if_neg henough, hdigits, hread]
  rfl

/-- A field is read from digits that spell it, if its value is in its range. -/
theorem field_spelled {width n : Nat} {ds rest : List Char} (h : Spells width n ds)
    (hrest : NoDigit rest) {low high : Nat} (hlow : low ≤ n) (hhigh : n ≤ high)
    (hword : n < Nat.pow 2 63) : field width width low high (ds ++ rest) = .ok (n, rest) := by
  have hrange : ¬ (n < low ∨ high < n) := by omega
  unfold field
  rw [number_spelled h hrest (Nat.le_refl width) (Nat.le_refl width) hword]
  exact if_neg hrange

/-! ## The fraction -/

/-- No digits are left where none is. -/
theorem dropWhile_digits {rest : List Char} (hrest : NoDigit rest) :
    rest.dropWhile (fun c => (Integer.digit? c).isSome) = rest := by
  cases rest with
  | nil => rfl
  | cons c cs =>
    rw [List.dropWhile_cons_of_neg]
    rw [digit?_of_not_isDigit (hrest c rfl)]
    exact Bool.false_ne_true

/-- So many digits behind a point are read as nanoseconds. -/
theorem fraction_spelled {width n : Nat} {ds rest : List Char} (h : Spells width n ds)
    (hrest : NoDigit rest) (hpos : 1 ≤ width) (hnine : width ≤ 9) (hword : n < Nat.pow 2 63) :
    fraction ('.' :: (ds ++ rest)) = .ok (n * Nat.pow 10 (9 - width), rest) := by
  have hcount : (ds ++ rest).length - rest.length = width := by
    rw [List.length_append, h.length, Nat.add_sub_cancel]
  have hread := number_spelled h hrest hpos hnine hword
  simp only [fraction, hread, bind, Except.bind, hcount, dropWhile_digits hrest]

/-- A fraction starts with its point; where there is none, the sign of the offset follows. -/
theorem noDigit_fractionText (nanos : Nat) (cs : List Char) :
    NoDigit ((Timestamp.fractionText nanos).toList ++ '+' :: cs) := by
  have hpoint (s : String) : NoDigit (("." ++ s).toList ++ '+' :: cs) := by
    rw [String.toList_append]
    exact .cons (c := '.') rfl _
  unfold Timestamp.fractionText
  split_ifs
  · exact .cons (c := '+') rfl cs
  · exact hpoint _
  · exact hpoint _
  · exact hpoint _

/-- A fraction is read up to the character behind it; where there is none it is zero. -/
theorem fraction_fractionText {nanos : Nat} (hnanos : nanos < Timestamp.nanosPerSecond)
    {rest : List Char} (hrest : NoDigit rest) (hpoint : rest.head? ≠ some '.') :
    fraction ((Timestamp.fractionText nanos).toList ++ rest) = .ok (nanos, rest) := by
  unfold Timestamp.nanosPerSecond at hnanos
  -- the digits shown are those of the nanoseconds, less the zeros at their end
  have hshown {width n : Nat} (hwidth : 1 ≤ width ∧ width ≤ 9) (hn : n < 10 ^ width)
      (hvalue : n * Nat.pow 10 (9 - width) = nanos) :
      fraction (("." ++ padded width n).toList ++ rest) = .ok (nanos, rest) := by
    have hword : n < Nat.pow 2 63 := by
      refine Nat.lt_of_lt_of_le hn (Nat.le_trans (Nat.pow_le_pow_right (by decide) hwidth.2) ?_)
      decide
    have htext :
        ("." ++ padded width n).toList ++ rest = '.' :: ((padded width n).toList ++ rest) := by
      rw [String.toList_append]
      rfl
    rw [htext, fraction_spelled (.padded hwidth.1 hn) hrest hwidth.1 hwidth.2 hword, hvalue]
  unfold Timestamp.fractionText
  split_ifs with hzero hmillis hmicros
  · subst hzero
    show fraction rest = _
    unfold fraction
    split
    · exact absurd rfl hpoint
    · rfl
  · exact hshown (by decide) (by omega) (by show nanos / 1000000 * 1000000 = nanos; omega)
  · exact hshown (by decide) (by omega) (by show nanos / 1000 * 1000 = nanos; omega)
  · exact hshown (by decide) (by omega) (Nat.mul_one nanos)

/-! ## A whole text -/

theorem expect_cons (c : Char) (cs : List Char) : expect c (c :: cs) = .ok ((), cs) := if_pos rfl

/-- The fields of a text are those that its digits spell, if each is in its range. -/
theorem readStrict_spelled {y m d h n s : List Char} {year month day hour minute second nanos : Nat}
    (hyear : Spells 4 year y) (hmonth : Spells 2 month m) (hday : Spells 2 day d)
    (hhour : Spells 2 hour h) (hminute : Spells 2 minute n) (hsecond : Spells 2 second s)
    (hyearWord : year < 10000) (hmonths : 1 ≤ month ∧ month ≤ 12) (hdays : 1 ≤ day ∧ day ≤ 31)
    (hhours : hour ≤ 23) (hminutes : minute ≤ 59) (hseconds : second ≤ 60)
    (hnanos : nanos < Timestamp.nanosPerSecond) :
    readStrict (y ++ '-' :: (m ++ '-' :: (d ++ 'T' :: (h ++ ':' :: (n ++ ':' :: (s ++
        ((Timestamp.fractionText nanos).toList ++ "+00:00".toList))))))) =
      Fields.toTimestamp ⟨⟨year, month, day⟩, hour, minute, second, nanos, 0⟩ := by
  have hword : 10000 ≤ Nat.pow 2 63 := by decide
  have hyearRead cs := number_spelled hyear (NoDigit.cons (c := '-') rfl cs) (Nat.le_refl 4)
    (Nat.le_refl 4) (by omega)
  have hmonthRead cs := field_spelled hmonth (NoDigit.cons (c := '-') rfl cs) hmonths.1 hmonths.2
    (by omega)
  have hdayRead cs := field_spelled hday (NoDigit.cons (c := 'T') rfl cs) hdays.1 hdays.2 (by omega)
  have hhourRead cs := field_spelled hhour (NoDigit.cons (c := ':') rfl cs) (Nat.zero_le hour)
    hhours (by omega)
  have hminuteRead cs := field_spelled hminute (NoDigit.cons (c := ':') rfl cs) (Nat.zero_le minute)
    hminutes (by omega)
  have hsecondRead := field_spelled hsecond (noDigit_fractionText nanos "00:00".toList)
    (Nat.zero_le second) hseconds (by omega)
  have hfraction := fraction_fractionText hnanos (NoDigit.cons (c := '+') rfl "00:00".toList)
    (by decide)
  have hplus : "+00:00".toList = '+' :: "00:00".toList := rfl
  rw [hplus] at *
  simp only [readStrict, hyearRead, hmonthRead, hdayRead, hhourRead, hminuteRead, hsecondRead,
    hfraction, expect_cons, separator, bind, Except.bind, true_or, if_true]
  rfl

end Rfc3339

end BookingNotices.Time

namespace BookingNotices.Timestamp

open Time

/-- The date of an instant. -/
def date (t : Timestamp) : Date := Date.ofDays (t.seconds / 86400)

/-- An instant of a year of four digits. Its nanoseconds go beyond a second only in the last second
of a minute, as a leap second. -/
structure Common (t : Timestamp) : Prop where
  year : 0 ≤ t.date.year ∧ t.date.year ≤ 9999
  nanos : t.nanos < nanosPerSecond ∨
    (nanosPerSecond ≤ t.nanos ∧ t.nanos < 2 * nanosPerSecond) ∧ t.seconds % 60 = 59

variable {t : Timestamp}

theorem Common.inCalendar (h : t.Common) : inCalendar t.seconds = true := by
  have hbounds := Date.toDays_bounds h.year (Date.isValid_ofDays _)
  rw [date, Date.toDays_ofDays] at hbounds
  have hleast : leastSecond = -8334601228800 := by decide
  have hgreatest : greatestSecond = 8210266876799 := by decide
  unfold Timestamp.inCalendar
  rw [hleast, hgreatest, Bool.and_eq_true, decide_eq_true_eq, decide_eq_true_eq]
  omega

/-- The second of the day that an instant is in. -/
def secondOfDay (t : Timestamp) : Nat := (t.seconds % 86400).toNat

/-- The hours, minutes and seconds of an instant, from the days before it. -/
theorem seconds_eq (t : Timestamp) :
    t.seconds / 86400 * 86400 +
      ((t.secondOfDay / 3600 * 3600 + t.secondOfDay / 60 % 60 * 60 +
        t.secondOfDay % 60 : Nat) : Int) - 0 = t.seconds := by
  unfold secondOfDay
  omega

/-- The fields of an instant mean the instant. -/
theorem Common.toTimestamp_fields (h : t.Common) :
    Rfc3339.Fields.toTimestamp ⟨t.date, t.secondOfDay / 3600, t.secondOfDay / 60 % 60,
      t.secondOfDay % 60 + t.nanos / nanosPerSecond, t.nanos % nanosPerSecond, 0⟩ = .ok t := by
  have hcalendar : ¬ (t.date.year < Date.leastYear ∨ Date.greatestYear < t.date.year ∨
      (!t.date.isValid) = true) := by
    have hvalid : t.date.isValid = true := Date.isValid_ofDays _
    obtain ⟨hlow, hhigh⟩ := h.year
    rw [hvalid]
    unfold Date.leastYear Date.greatestYear
    simp only [Bool.not_true, Bool.false_eq_true, or_false]
    omega
  have hoffset : ¬ ((0 : Int) ≤ -86400 ∨ (86400 : Int) ≤ 0) := by decide
  have hdays : t.date.toDays = t.seconds / 86400 := Date.toDays_ofDays _
  have hsum := seconds_eq t
  rcases h.nanos with hplain | ⟨hleap, hlast⟩
  · have hzero : t.nanos / nanosPerSecond = 0 := Nat.div_eq_of_lt hplain
    have hsecond : ¬ t.secondOfDay % 60 = 60 := by omega
    simp only [Rfc3339.Fields.toTimestamp, if_neg hcalendar, if_neg hoffset, hzero, if_neg hsecond,
      Nat.mod_eq_of_lt hplain, hdays, Nat.add_zero, hsum, h.inCalendar, if_true]
  · -- a leap second is written as the sixtieth of its minute
    have hone : t.nanos / nanosPerSecond = 1 := by unfold nanosPerSecond at *; omega
    have hnanos : t.nanos % nanosPerSecond + nanosPerSecond = t.nanos := by
      unfold nanosPerSecond at *
      omega
    have hsecond : t.secondOfDay % 60 = 59 := by unfold secondOfDay; omega
    rw [hsecond] at hsum
    simp only [Rfc3339.Fields.toTimestamp, if_neg hcalendar, if_neg hoffset, hone, hsecond,
      hdays, hsum, h.inCalendar, hnanos, if_true]

/-- The text of an instant is read as the instant. -/
theorem readStrict_offsetText (h : t.Common) :
    Rfc3339.readStrict t.offsetText.toList = .ok t := by
  obtain ⟨hlow, hhigh⟩ := h.year
  obtain ⟨hmonth, hday⟩ :=
    Date.bounds_of_isValid (show t.date.isValid = true from Date.isValid_ofDays _)
  have hsecond : t.secondOfDay < 86400 := by unfold secondOfDay; omega
  have hleap : t.nanos / nanosPerSecond ≤ 1 := by
    have hnanos := h.nanos
    unfold nanosPerSecond at *
    omega
  have hyear : yearText t.date.year = padded 4 t.date.year.toNat := if_pos h.year
  have hcast : ((t.date.year.toNat : Nat) : Int) = t.date.year := Int.toNat_of_nonneg hlow
  have htext : t.offsetText.toList =
      (padded 4 t.date.year.toNat).toList ++ '-' :: ((padded 2 t.date.month).toList ++ '-' ::
      ((padded 2 t.date.day).toList ++ 'T' :: ((padded 2 (t.secondOfDay / 3600)).toList ++ ':' ::
      ((padded 2 (t.secondOfDay / 60 % 60)).toList ++ ':' ::
      ((padded 2 (t.secondOfDay % 60 + t.nanos / nanosPerSecond)).toList ++
      ((fractionText (t.nanos % nanosPerSecond)).toList ++ "+00:00".toList)))))) := by
    have hplain : t.plainText = yearText t.date.year ++ "-" ++ padded 2 t.date.month ++ "-" ++
        padded 2 t.date.day ++ "T" ++ padded 2 (t.secondOfDay / 3600) ++ ":" ++
        padded 2 (t.secondOfDay / 60 % 60) ++ ":" ++
        padded 2 (t.secondOfDay % 60 + t.nanos / nanosPerSecond) ++
        fractionText (t.nanos % nanosPerSecond) := rfl
    rw [← hyear, offsetText, hplain]
    simp only [String.toList_append, List.append_assoc, show "-".toList = ['-'] from rfl,
      show "T".toList = ['T'] from rfl, show ":".toList = [':'] from rfl, List.cons_append,
      List.nil_append]
  have hfields := Rfc3339.readStrict_spelled (n := (padded 2 (t.secondOfDay / 60 % 60)).toList)
    (.padded (by decide) (show t.date.year.toNat < 10 ^ 4 by omega))
    (.padded (by decide) (show t.date.month < 10 ^ 2 by omega))
    (.padded (by decide) (show t.date.day < 10 ^ 2 by omega))
    (.padded (by decide) (show t.secondOfDay / 3600 < 10 ^ 2 by omega))
    (.padded (by decide) (show t.secondOfDay / 60 % 60 < 10 ^ 2 by omega))
    (.padded (by decide) (show t.secondOfDay % 60 + t.nanos / nanosPerSecond < 10 ^ 2 by omega))
    (by omega) hmonth hday (by omega) (by omega) (by omega)
    (show t.nanos % nanosPerSecond < nanosPerSecond from Nat.mod_lt _ (by decide))
  rw [htext, hfields, hcast]
  exact h.toTimestamp_fields

end BookingNotices.Timestamp
