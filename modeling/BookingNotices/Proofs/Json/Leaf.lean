import BookingNotices.Json.Document
import BookingNotices.Json.Text
import BookingNotices.Proofs.Digits
import Mathlib.Tactic.SplitIfs

/-!
# Numbers and strings read back

* `Reads`  : a reader finds a value in some characters and leaves the rest, wherever it starts;
* `Ends`   : what may follow a value;
* `number_toDigits` : an integer of a machine word reads back from its digits;
* `string_quoted` : a string reads back from the text between its quotes.

A reader of digits takes as many as there are, so a number reads back only in front of a character
that cannot go on with it. A string ends at its own quote, and may stand in front of anything.
-/

namespace BookingNotices.Json

/-- The reader finds the value in these characters, at whatever place they start, and leaves the
rest. -/
def Reads {α : Type} (read : Reader α) (cs : List Char) (a : α) (rest : List Char) : Prop :=
  ∀ p, ∃ q, read ⟨cs, p⟩ = .ok (a, ⟨rest, q⟩)

/-- What may follow a value: nothing, a comma, or the closing bracket of what it is in. -/
inductive Ends : List Char → Prop where
  | nil : Ends []
  | comma (cs : List Char) : Ends (',' :: cs)
  | bracket (cs : List Char) : Ends (']' :: cs)
  | brace (cs : List Char) : Ends ('}' :: cs)

namespace Cursor

theorem advance_cons (c : Char) (cs : List Char) (p : Place) :
    ∃ q, advance ⟨c :: cs, p⟩ = ⟨cs, q⟩ := ⟨_, rfl⟩

/-! ## Digits -/

theorem isDigit_eq (c : Char) : isDigit c = c.isDigit := rfl

/-- Digits that fit a word are read up to the last one, with none dropped. -/
theorem integerDigits_append {ds rest : List Char} (hds : ∀ c ∈ ds, c.isDigit) (hrest : Ends rest)
    {fuel n : Nat} (hfuel : ds.length ≤ fuel) (hfits : Nat.ofDigitChars 10 ds n < significandLimit)
    (p : Place) :
    ∃ q, integerDigits fuel n ⟨ds ++ rest, p⟩ = (Nat.ofDigitChars 10 ds n, 0, ⟨rest, q⟩) := by
  induction ds generalizing fuel n p with
  | nil =>
    refine ⟨p, ?_⟩
    cases fuel with
    | zero => rfl
    | succ fuel => cases hrest <;> rfl
  | cons c ds ih =>
    obtain ⟨hc, hds⟩ := List.forall_mem_cons.mp hds
    obtain ⟨fuel, rfl⟩ : ∃ k, fuel = k + 1 :=
      Nat.exists_eq_succ_of_ne_zero (by simp at hfuel; omega)
    rw [Nat.ofDigitChars_cons, Nat.mul_comm] at hfits ⊢
    have hnext : n * 10 + digitValue c < significandLimit :=
      Nat.lt_of_le_of_lt (Digits.le_value ds _) hfits
    have hstep : integerDigits (fuel + 1) n ⟨c :: ds ++ rest, p⟩ =
        integerDigits fuel (n * 10 + digitValue c) (advance ⟨c :: (ds ++ rest), p⟩) := by
      simp only [integerDigits, List.cons_append, isDigit_eq, hc, if_true]
      rw [if_neg (by omega)]
    rw [hstep]
    exact ih hds (by simpa using hfuel) hfits _

/-! ## Numbers -/

/-- A whole number that fits a word, in front of what may follow a value. -/
theorem wholeEnd_of_ends {negative : Bool} {n : Nat} {rest : List Char} (hrest : Ends rest)
    (hnegative : negative = true → 0 < n ∧ n ≤ Nat.pow 2 63) (p : Place) :
    wholeEnd negative n 0 ⟨rest, p⟩ =
      .ok (.integer (if negative then -n else n), ⟨rest, p⟩) := by
  cases negative with
  | false => cases hrest <;> rfl
  | true =>
    have hword : (n = 0 || Nat.pow 2 63 < n) = false := by
      obtain ⟨hpos, hle⟩ := hnegative rfl
      simp only [Bool.or_eq_false_iff, decide_eq_false_iff_not]
      omega
    cases hrest <;> simp only [wholeEnd, hword] <;> rfl

/-- The digits of a number that fits a word are read as the number. -/
theorem number_toDigits (negative : Bool) {n : Nat} {rest : List Char} (hrest : Ends rest)
    (hn : n < significandLimit) (hnegative : negative = true → 0 < n ∧ n ≤ Nat.pow 2 63) :
    Reads (number negative) (Nat.toDigits 10 n ++ rest)
      (.integer (if negative then -n else n)) rest := by
  intro p
  by_cases hzero : n = 0
  · subst hzero
    have hcall : number negative ⟨Nat.toDigits 10 0 ++ rest, p⟩ =
        wholeEnd negative 0 0 (advance ⟨'0' :: rest, p⟩) := by
      cases hrest <;> rfl
    exact ⟨_, hcall.trans (wholeEnd_of_ends hrest hnegative _)⟩
  · obtain ⟨c, ds, hcs, hc⟩ := Digits.head_ne_zero hzero
    have hdigits : ∀ d ∈ c :: ds, d.isDigit := fun d hd =>
      Nat.isDigit_of_mem_toDigits (by decide) (by decide) (hcs ▸ hd)
    obtain ⟨hfirst, hdigits⟩ := List.forall_mem_cons.mp hdigits
    have hvalue : Nat.ofDigitChars 10 ds (digitValue c) = n := by
      have hall := Nat.ofDigitChars_ten_toDigits (n := n)
      rwa [hcs, Nat.ofDigitChars_cons, Nat.mul_zero, Nat.zero_add] at hall
    have hroom : ds.length ≤ (c :: (ds ++ rest)).length := by simp; omega
    obtain ⟨p', hadvance⟩ := advance_cons c (ds ++ rest) p
    obtain ⟨q, hread⟩ := integerDigits_append hdigits hrest hroom (hvalue.symm ▸ hn) p'
    have hcall : number negative ⟨c :: (ds ++ rest), p⟩ = wholeEnd negative n 0 ⟨rest, q⟩ := by
      rw [hvalue] at hread
      unfold number
      split
      · rename_i h
        cases h
      · rename_i h
        cases h
        exact absurd rfl hc
      · rename_i h
        cases h
        rw [if_pos (by rw [isDigit_eq]; exact hfirst), hadvance, hread]
    rw [hcs, List.cons_append]
    exact ⟨q, hcall.trans (wholeEnd_of_ends hrest hnegative q)⟩

/-! ## Strings -/

/-- How a character of a string is written. -/
inductive Written (c : Char) : List Char → Prop where
  | plain : c ≠ '"' → c ≠ '\\' → 32 ≤ c.toNat → Written c [c]
  | letter {l : Char} : l ≠ 'u' → simpleEscape? l = some c → Written c ['\\', l]
  | control : c.toNat < 32 → Written c ('\\' :: 'u' :: '0' :: '0' :: hexPair c.toNat)

theorem written_escapeChar (c : Char) : Written c (escapeChar c) := by
  have eq_of_toNat {d : Char} (h : c.toNat = d.toNat) : c = d := by
    rw [← Char.ofNat_toNat c, h, Char.ofNat_toNat]
  unfold escapeChar
  split_ifs with hquote hback hline hreturn htab hbackspace hfeed hcontrol
  · subst hquote; exact .letter (by decide) rfl
  · subst hback; exact .letter (by decide) rfl
  · subst hline; exact .letter (by decide) rfl
  · subst hreturn; exact .letter (by decide) rfl
  · subst htab; exact .letter (by decide) rfl
  · obtain rfl := eq_of_toNat (d := '\x08') hbackspace; exact .letter (by decide) rfl
  · obtain rfl := eq_of_toNat (d := '\x0c') hfeed; exact .letter (by decide) rfl
  · exact .control hcontrol
  · exact .plain hquote hback (Nat.le_of_not_lt hcontrol)

/-- The digits of a control character have its hexadecimal values, and are of one byte each. -/
theorem hexPair_eq : ∀ n < 32, ∃ a b, hexPair n = [a, b] ∧
    hexValue? a = some (n / 16) ∧ hexValue? b = some (n % 16) ∧ a.utf8Size = 1 ∧ b.utf8Size = 1 :=
  fun n hn => ⟨_, _, rfl, by revert n; decide⟩

/-- The number of a control character is read from its four digits. -/
theorem fourHex_hexPair {n : Nat} (hn : n < 32) (cs : List Char) (p : Place) :
    ∃ q, fourHex ⟨'0' :: '0' :: hexPair n ++ cs, p⟩ = .ok (n, ⟨cs, q⟩) := by
  obtain ⟨a, b, hpair, ha, hb, hasize, hbsize⟩ := hexPair_eq n hn
  rw [hpair]
  have henough : (fourBytesOn ⟨'0' :: '0' :: a :: b :: cs, p⟩).2 = true := by
    simp [fourBytesOn, hasize, hbsize, show '0'.utf8Size = 1 from rfl]
  have hvalue : ((0 * 16 + 0) * 16 + n / 16) * 16 + n % 16 = n := by omega
  refine ⟨(fourBytesOn ⟨'0' :: '0' :: a :: b :: cs, p⟩).1, ?_⟩
  show (if !(fourBytesOn ⟨'0' :: '0' :: a :: b :: cs, p⟩).2 then _ else _) = _
  rw [henough]
  simp only [ha, hb, hvalue, show hexValue? '0' = some 0 from rfl]
  rfl

/-- A control character is read from its escape. -/
theorem escape_hexPair {c : Char} (hc : c.toNat < 32) (cs : List Char) (p : Place) :
    ∃ q, escape ⟨'u' :: '0' :: '0' :: hexPair c.toNat ++ cs, p⟩ = .ok (c, ⟨cs, q⟩) := by
  obtain ⟨p', hadvance⟩ := advance_cons 'u' ('0' :: '0' :: hexPair c.toNat ++ cs) p
  obtain ⟨q, hread⟩ := fourHex_hexPair hc cs p'
  refine ⟨q, ?_⟩
  have hlow : ¬ (0xDC00 ≤ c.toNat ∧ c.toNat ≤ 0xDFFF) := by omega
  have hhigh : ¬ (0xD800 ≤ c.toNat ∧ c.toNat ≤ 0xDBFF) := by omega
  unfold escape
  simp only [List.cons_append] at hadvance hread ⊢
  simp only [hadvance, hread, Bool.and_eq_true, decide_eq_true_eq, if_neg hlow, if_neg hhigh,
    Char.ofNat_toNat]

/-- A character that a letter stands for is read from its escape. -/
theorem escape_letter {c l : Char} (hu : l ≠ 'u') (hl : simpleEscape? l = some c)
    (cs : List Char) (p : Place) : ∃ q, escape ⟨l :: cs, p⟩ = .ok (c, ⟨cs, q⟩) := by
  obtain ⟨q, hadvance⟩ := advance_cons l cs p
  refine ⟨q, ?_⟩
  unfold escape
  split
  · rename_i h
    cases h
  · rename_i h
    cases h
    exact absurd rfl hu
  · rename_i h
    cases h
    rw [hl, hadvance]

/-- One character of a string is read from its text. -/
theorem stringChars_escapeChar (c : Char) (cs : List Char) (fuel : Nat) (read : List Char)
    (p : Place) :
    ∃ q, stringChars (fuel + 1) read ⟨escapeChar c ++ cs, p⟩ =
      stringChars fuel (c :: read) ⟨cs, q⟩ := by
  -- behind a backslash the reader goes on where the escape ends
  have hescape {text : List Char} (h : ∀ p, ∃ q, escape ⟨text ++ cs, p⟩ = .ok (c, ⟨cs, q⟩)) :
      ∃ q, stringChars (fuel + 1) read ⟨'\\' :: text ++ cs, p⟩ =
        stringChars fuel (c :: read) ⟨cs, q⟩ := by
    obtain ⟨p', hadvance⟩ := advance_cons '\\' (text ++ cs) p
    obtain ⟨q, hq⟩ := h p'
    refine ⟨q, ?_⟩
    simp only [stringChars, List.cons_append, hadvance, hq]
  have hwritten := written_escapeChar c
  generalize escapeChar c = text at hwritten ⊢
  cases hwritten with
  | letter hu hl => exact hescape (escape_letter hu hl cs)
  | control hc => exact hescape (escape_hexPair hc cs)
  | plain hquote hback hc =>
    obtain ⟨q, hadvance⟩ := advance_cons c cs p
    refine ⟨q, ?_⟩
    have hprintable : ¬ c.toNat < 0x20 := Nat.not_lt.mpr hc
    rw [List.singleton_append, stringChars]
    simp only [if_neg hprintable, hadvance]

/-- The characters of a string are read up to the quote behind them. -/
theorem stringChars_append (cs rest read : List Char) {fuel : Nat} (hfuel : cs.length < fuel)
    (p : Place) :
    ∃ q, stringChars fuel read ⟨cs.flatMap escapeChar ++ '"' :: rest, p⟩ =
      .ok (read.reverse ++ cs, ⟨rest, q⟩) := by
  induction cs generalizing fuel read p with
  | nil =>
    obtain ⟨fuel, rfl⟩ : ∃ k, fuel = k + 1 :=
      Nat.exists_eq_succ_of_ne_zero (by simp at hfuel; omega)
    exact ⟨_, by rw [List.append_nil]; rfl⟩
  | cons c cs ih =>
    obtain ⟨fuel, rfl⟩ : ∃ k, fuel = k + 1 :=
      Nat.exists_eq_succ_of_ne_zero (by simp at hfuel; omega)
    rw [List.flatMap_cons, List.append_assoc]
    obtain ⟨p', hfirst⟩ :=
      stringChars_escapeChar c (cs.flatMap escapeChar ++ '"' :: rest) fuel read p
    obtain ⟨q, hrest⟩ := ih (c :: read) (by simpa using hfuel) p'
    refine ⟨q, ?_⟩
    rw [hfirst, hrest, List.reverse_cons, List.append_assoc, List.singleton_append]

theorem length_le_flatMap_escapeChar (cs : List Char) :
    cs.length ≤ (cs.flatMap escapeChar).length := by
  induction cs with
  | nil => exact Nat.le_refl 0
  | cons c cs ih =>
    have hpos : 0 < (escapeChar c).length := by
      have hwritten := written_escapeChar c
      generalize escapeChar c = text at hwritten ⊢
      cases hwritten <;> simp
    rw [List.flatMap_cons, List.length_append, List.length_cons]
    omega

/-- Behind its opening quote a string is read from its text. -/
theorem string_quoted (s : String) (rest : List Char) :
    Reads string (s.toList.flatMap escapeChar ++ '"' :: rest) s rest := by
  intro p
  have hfuel : s.toList.length < (s.toList.flatMap escapeChar ++ '"' :: rest).length + 1 := by
    have hlen := length_le_flatMap_escapeChar s.toList
    rw [List.length_append]
    omega
  obtain ⟨q, hread⟩ := stringChars_append s.toList rest [] hfuel p
  refine ⟨q, ?_⟩
  unfold string
  simp only [hread, List.reverse_nil, List.nil_append, String.ofList_toList]

end Cursor
end BookingNotices.Json
