import BookingNotices.Proofs.Invoice.Rows

/-!
# Heights on the page

* `Tracks`       : a height that is a whole number of millimetres, as long as it is on the page;
* `tracks_stack`, `tracks_row` : each line takes one step, each row as much as its longest column;
* `Tracks.limit_lt_iff` : the lower margin is passed by exactly the counted heights beyond it;
* `lineCount`, `Params.bottom` : where the page of an invoice ends, counted in lines.
-/

namespace BookingNotices.Invoice

open Numeric Numeric.Single

variable {m : Metrics}

/-! ## Heights -/

/-- A height that is a whole number of millimetres down to the lower margin, and lies below it from
there on, whatever is rounded. -/
structure Tracks (y : Single) (n : ℕ) : Prop where
  isLength : y.IsLength
  onPage : n ≤ 287 → y = finite n
  below : 287 < n → y.Reaches 288

theorem tracks_natCast (n : ℕ) : Tracks (finite n) n where
  isLength := Nat.cast_nonneg n
  onPage := fun _ => rfl
  below := fun hn => reaches_finite.mpr (by exact_mod_cast hn)

theorem tracks_literal {n : ℕ} (hn : n < 2 ^ 24) : Tracks (OfNat.ofNat n) n := by
  rw [literal_eq hn]
  exact tracks_natCast n

theorem Tracks.add {a b : Single} {k n : ℕ} (ha : Tracks a k) (hb : Tracks b n) :
    Tracks (a + b) (k + n) := by
  refine ⟨isLength_add ha.isLength hb.isLength, ?_, ?_⟩
  · intro hle
    rw [ha.onPage (by omega), hb.onPage (by omega), natCast_add (by omega)]
  · intro hlt
    by_cases hk : 287 < k
    · exact (ha.below hk).add (by norm_num) ha.isLength hb.isLength
    by_cases hn : 287 < n
    · exact (hb.below hn).add_left (by norm_num) ha.isLength hb.isLength
    rw [ha.onPage (by omega), hb.onPage (by omega), natCast_add (by omega)]
    exact reaches_finite.mpr (by exact_mod_cast hlt)

/-- Every line of a stack takes one step. -/
theorem tracks_stack {x width step : Single} {pen : Pen} {align : Align} {k : ℕ}
    (hstep : Tracks step k) {lines : List (List Char)} {y : Single} {n : ℕ} (hy : Tracks y n) :
    Tracks (stack m x width step pen align y lines).2 (n + k * lines.length) := by
  induction lines generalizing y n with
  | nil => exact hy
  | cons line lines ih =>
    have hrest := ih (hy.add hstep)
    rw [List.length_cons, Nat.mul_succ, Nat.add_comm (k * _), ← Nat.add_assoc]
    exact hrest

theorem finite_mul_infinite {b : ℚ} (hb : 0 < b) : finite b * infinite false = infinite false :=
  infinite_mul hb

theorem tracks_rowHeight_mul (count : ℕ) :
    Tracks (rowHeight * Single.ofNat count) (10 * count) := by
  have hlength : (Single.ofNat count).IsLength := isLength_ofRat (Nat.cast_nonneg count)
  have hten : (0 : ℚ) < (10 : ℕ) := by norm_num
  refine ⟨?_, fun hle => rowHeight_mul (by omega), ?_⟩
  · rw [rowHeight_eq]
    obtain ⟨q, hq, h⟩ | h := hlength.finite_or_infinite
    · rw [h]
      exact isLength_ofRat (mul_nonneg hten.le hq)
    · rw [h, finite_mul_infinite hten]
      exact rfl
  · intro hlt
    have hreach : (Single.ofNat count).Reaches 29 :=
      reaches_ofRat (by norm_num) (by exact_mod_cast (by omega : 29 ≤ count))
    rw [rowHeight_eq]
    obtain ⟨q, hq, h⟩ | h := hlength.finite_or_infinite
    · rw [h, reaches_finite] at hreach
      rw [h]
      refine reaches_ofRat (by norm_num) ?_
      push_cast at hreach ⊢
      linarith
    · rw [h, finite_mul_infinite hten]
      exact reaches_infinite 288

theorem tracks_row {columns : List Column} {y : Single} {n : ℕ} (hy : Tracks y n) :
    Tracks (row m y columns).2 (n + 10 * rowLines m columns) :=
  hy.add (tracks_rowHeight_mul _)

/-- The page is left exactly by the heights that are counted beyond the lower margin. -/
theorem Tracks.limit_lt_iff {y : Single} {n : ℕ} (hy : Tracks y n) : bottomLimit < y ↔ 287 < n := by
  have hlimit : bottomLimit = finite (287 : ℕ) := literal_eq (by norm_num)
  rw [hlimit]
  constructor
  · rintro ⟨-, habove⟩
    refine Nat.lt_of_not_le fun hle => ?_
    rw [hy.onPage hle] at habove
    exact absurd (by exact_mod_cast hle) (of_decide_eq_false habove)
  · intro hlt
    have hreach := hy.below hlt
    obtain ⟨q, -, rfl⟩ | rfl := hy.isLength.finite_or_infinite
    · rw [reaches_finite] at hreach
      push_cast at hreach
      refine ⟨decide_eq_true ?_, decide_eq_false ?_⟩
      · push_cast
        linarith
      · push_cast
        linarith
    · exact ⟨rfl, rfl⟩

/-! ## Lines of a page -/

/-- How many lines a text of the body takes in a room. -/
def lineCount (room : Single) (s : String) : ℕ := (Metrics.sans.wrap bodyPen room s.toList).length

/-- Where the page of an invoice ends, in millimetres. -/
def Params.bottom (p : Params) : ℕ :=
  62 + 10 * (lineCount 120 p.theater + lineCount 120 p.location) +
    5 * (lineCount 158 p.userName + lineCount 158 p.email) +
    10 * max (lineCount 93 p.item) (lineCount 28 p.price)

theorem Metrics.length_fill_pos {pen : Pen} {room : Single} (line : List Char)
    (pieces : List (List Char)) : 0 < (m.fill pen room line pieces).length := by
  induction pieces generalizing line with
  | nil => exact Nat.one_pos
  | cons piece rest ih =>
    unfold fill
    split_ifs
    · exact ih _
    · exact Nat.succ_pos _

/-- Every text takes a line. -/
theorem lineCount_pos (room : Single) (s : String) : 0 < lineCount room s := by
  unfold lineCount Metrics.wrap
  split
  · exact Nat.one_pos
  · exact Metrics.length_fill_pos _ _

theorem rowLines_headings : rowLines Metrics.sans headings = 1 := by decide +kernel

theorem rowLines_order (p : Params) :
    rowLines Metrics.sans (order p) = max (lineCount 93 p.item) (lineCount 28 p.price) := by
  have hitem : (itemColumn - 2 * padding : Single) = 93 := by
    rw [paddings_eq, itemColumn, literal_eq (n := 95) (by norm_num),
      natCast_sub (by norm_num) (by norm_num), literal_eq (n := 93) (by norm_num)]
  have hprice : (priceColumn - 2 * padding : Single) = 28 := by
    rw [paddings_eq, priceColumn, literal_eq (n := 30) (by norm_num),
      natCast_sub (by norm_num) (by norm_num), literal_eq (n := 28) (by norm_num)]
  have hcount : lineCount (countColumn - 2 * padding) "1" = 1 := by decide +kernel
  have hlines : rowLines Metrics.sans (order p) =
      [lineCount (itemColumn - 2 * padding) p.item, lineCount (countColumn - 2 * padding) "1",
        lineCount (priceColumn - 2 * padding) p.price,
        lineCount (priceColumn - 2 * padding) p.price].max?.getD 1 := rfl
  have hpos := lineCount_pos 93 p.item
  rw [hlines, hitem, hprice, hcount]
  simp only [List.max?_cons', List.foldl_cons, List.foldl_nil, Option.getD_some]
  omega

end BookingNotices.Invoice
