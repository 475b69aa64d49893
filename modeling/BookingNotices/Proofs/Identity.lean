import BookingNotices.Id
import BookingNotices.Proofs.Digits

/-!
# Identities read back

* `Text.trim_of_plain`         : a text without blanks stays as it is;
* `Text.Integer.read_toString` : an integer of a width reads back from its text;
* `NoticeId.read_toText`, `BookingId.read_toText` : so an identity reads back from its own.
-/

namespace BookingNotices

namespace Text

theorem isBlank_of_isDigit {c : Char} (h : c.isDigit) : isBlank c = false := by
  obtain ⟨hlow, hhigh⟩ := Digits.isDigit_iff.mp h
  have hlow : 48 ≤ c.toNat := hlow
  have hhigh : c.toNat ≤ 57 := hhigh
  unfold isBlank
  simp
  omega

theorem trimLeft_of_plain {cs : List Char} (h : ∀ c ∈ cs, isBlank c = false) :
    trimLeft cs = cs := by
  unfold trimLeft
  cases cs with
  | nil => rfl
  | cons c cs => rw [List.dropWhile_cons_of_neg (by simp [h c List.mem_cons_self])]

/-- A text without blanks has none to leave out at its ends. -/
theorem trim_of_plain {cs : List Char} (h : ∀ c ∈ cs, isBlank c = false) : trim cs = cs := by
  unfold trim
  rw [trimLeft_of_plain h, trimLeft_of_plain fun c hc => h c (List.mem_reverse.mp hc),
    List.reverse_reverse]

namespace Width

theorem least_nonpos (w : Width) : w.least ≤ 0 := by
  unfold least
  split
  · exact Int.neg_nonpos_of_nonneg (Int.natCast_nonneg _)
  · exact Int.le_refl 0

theorem greatest_nonneg (w : Width) : 0 ≤ w.greatest := by
  have hpos : 0 < Nat.pow 2 (if w.signed then w.bits - 1 else w.bits) := Nat.two_pow_pos _
  unfold greatest
  omega

theorem signed_of_least_neg {w : Width} (h : w.least < 0) : w.signed = true := by
  unfold least at h
  split at h
  · assumption
  · exact absurd h (by decide)

theorem holds_iff (w : Width) (n : Int) : w.holds n = true ↔ w.least ≤ n ∧ n ≤ w.greatest := by
  rw [holds, Bool.and_eq_true, decide_eq_true_eq, decide_eq_true_eq]

/-- A signed word of 64 bits is one of the integers of its width. -/
theorem holds_toInt (n : Int64) : i64.holds n.toInt = true :=
  (holds_iff _ _).mpr ⟨n.le_toInt, Int.le_sub_one_of_lt n.toInt_lt⟩

/-- A word of 32 bits is one of the integers of its width. -/
theorem holds_toNat (n : UInt32) : u32.holds (n.toNat : Int) = true := by
  have hlt := n.toNat_lt
  refine (holds_iff _ _).mpr ⟨Int.natCast_nonneg _, ?_⟩
  show (n.toNat : Int) ≤ 2 ^ 32 - 1
  omega

end Width

namespace Integer

/-- A number on one side of zero. -/
def signed (negative : Bool) (n : Nat) : Int := if negative then -n else n

theorem digit?_of_isDigit {c : Char} (h : c.isDigit) : digit? c = some (c.toNat - '0'.toNat) :=
  if_pos (Digits.isDigit_iff.mp h)

/-- Digits are read away from zero as long as their number fits. -/
theorem readDigits_of_holds {w : Width} {negative : Bool} {ds : List Char}
    (hds : ∀ c ∈ ds, c.isDigit) {n : Nat}
    (hholds : w.holds (signed negative (Nat.ofDigitChars 10 ds n)) = true) :
    readDigits w negative (signed negative n) ds =
      .ok (signed negative (Nat.ofDigitChars 10 ds n)) := by
  induction ds generalizing n with
  | nil => rfl
  | cons c ds ih =>
    obtain ⟨hc, hds⟩ := List.forall_mem_cons.mp hds
    rw [Nat.ofDigitChars_cons] at hholds ⊢
    have hgrow := Digits.le_value ds (10 * n + (c.toNat - '0'.toNat))
    have hnext : (if negative then signed negative n * 10 - (c.toNat - '0'.toNat : Nat)
        else signed negative n * 10 + (c.toNat - '0'.toNat : Nat)) =
        signed negative (10 * n + (c.toNat - '0'.toNat)) := by
      cases negative <;> simp [signed] <;> omega
    -- what is read so far lies between zero and the whole number, which fits
    have hfits : w.least ≤ signed negative (10 * n + (c.toNat - '0'.toNat)) ∧
        signed negative (10 * n + (c.toNat - '0'.toNat)) ≤ w.greatest := by
      have hleast := w.least_nonpos
      have hgreatest := w.greatest_nonneg
      obtain ⟨hlow, hhigh⟩ := (w.holds_iff _).mp hholds
      cases negative <;>
        simp only [signed, if_true, if_false, Bool.false_eq_true] at hlow hhigh ⊢ <;> omega
    have hstep : readDigits w negative (signed negative n) (c :: ds) =
        readDigits w negative (signed negative (10 * n + (c.toNat - '0'.toNat))) ds := by
      rw [readDigits, digit?_of_isDigit hc]
      dsimp only
      rw [hnext, if_neg (Int.not_lt.mpr hfits.1), if_neg (Int.not_lt.mpr hfits.2)]
    rw [hstep]
    exact ih hds hholds

/-- A text that starts with a digit has no sign. -/
theorem read_of_isDigit (w : Width) {c : Char} (h : c.isDigit) (cs : List Char) :
    read w (c :: cs) = readDigits w false 0 (c :: cs) := by
  unfold read
  split
  · rename_i heq; cases heq
  · rename_i heq; cases heq; exact absurd h (by decide)
  · rename_i heq; cases heq; exact absurd h (by decide)
  · rename_i heq; cases heq; exact absurd h (by decide)
  · rename_i heq; cases heq; exact absurd h (by decide)
  · rfl

/-- An integer of a width reads back from its text. -/
theorem read_toString {w : Width} {n : Int} (hn : w.holds n = true) :
    read w (toString n).toList = .ok n := by
  have hdigits (m : Nat) : ∀ c ∈ Nat.toDigits 10 m, c.isDigit := fun c hc =>
    Nat.isDigit_of_mem_toDigits (by decide) (by decide) hc
  have hread (negative : Bool) {m : Nat} (hm : signed negative m = n) :
      readDigits w negative 0 (Nat.toDigits 10 m) = .ok n := by
    have hvalue := Nat.ofDigitChars_ten_toDigits (n := m)
    have hall := @readDigits_of_holds w negative _ (hdigits m) 0
    rw [hvalue, hm] at hall
    have hzero : signed negative 0 = 0 := by cases negative <;> rfl
    rw [hzero] at hall
    exact hall hn
  rw [Digits.toList_toString]
  split
  · rename_i hnonneg
    obtain ⟨c, ds, hcs, hc⟩ := Digits.head n.toNat
    have hm : signed false n.toNat = n := Int.toNat_of_nonneg hnonneg
    rw [← hread false hm, hcs]
    exact read_of_isDigit w hc ds
  · rename_i hneg
    obtain ⟨c, ds, hcs, hc⟩ := Digits.head (-n).toNat
    have hm : signed true (-n).toNat = n := by
      simp only [signed, if_true]
      omega
    have hminus : w.signed = true := by
      have hlow := ((w.holds_iff n).mp hn).1
      exact Width.signed_of_least_neg (by omega)
    rw [← hread true hm, hcs]
    simp only [read, hminus, if_true]

end Integer

/-- The text of an integer has no blanks. -/
theorem trim_toString (n : Int) : trim (toString n).toList = (toString n).toList := by
  refine trim_of_plain fun c hc => ?_
  have hdigit {m : Nat} (h : c ∈ Nat.toDigits 10 m) : isBlank c = false :=
    isBlank_of_isDigit (Nat.isDigit_of_mem_toDigits (by decide) (by decide) h)
  rw [Digits.toList_toString] at hc
  split at hc
  · exact hdigit hc
  · rcases List.mem_cons.mp hc with rfl | hc
    · decide
    · exact hdigit hc

end Text

open Text

/-- The identity of a notice reads back from its text. -/
theorem NoticeId.read_toText (id : NoticeId) : read id.toText = .ok id := by
  have hread : Integer.read .i64 (trim id.toText.toList) = .ok id.toInt := by
    rw [toText, trim_toString, toInt, Integer.read_toString (Width.holds_toInt id.value)]
  show ((Integer.read .i64 (trim id.toText.toList)).mapError _).map ofInt = _
  rw [hread]
  show Except.ok (ofInt id.toInt) = _
  rw [ofInt, toInt, Int64.ofInt_toInt]

/-- The identity of a booking reads back from its text. -/
theorem BookingId.read_toText (id : BookingId) : read id.toText = .ok id := by
  have hread : Integer.read .u32 (trim id.toText.toList) = .ok (id.toNat : Int) := by
    show Integer.read .u32 (trim (toString (id.toNat : Int)).toList) = _
    rw [trim_toString, toNat, Integer.read_toString (Width.holds_toNat id.value)]
  show ((Integer.read .u32 (trim id.toText.toList)).mapError _).map ofInt = _
  rw [hread]
  show Except.ok (ofInt (id.toNat : Int)) = _
  rw [ofInt, Int.toNat_natCast, toNat, UInt32.ofNat_toNat]

end BookingNotices
