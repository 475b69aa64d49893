import BookingNotices.Proofs.Invoice.Wrap

/-!
# Where marks stand

* `Box`, `Mark.Within` : a part of the page, and the marks that lie in it up to a hundredth of a
  millimetre of rounding;
* `Mark.Counted`   : the marks of which all units are counted, so that they are as wide as measured;
* `within_textIn`  : a text that fits its room stands in the middle of its cell, or at its left;
* `within_stack`   : lines below one another keep to one column of the page.

Heights of cells are whole millimetres as long as they are on the page, so nothing is rounded but
the widths of texts and the places that depend on them.
-/

namespace BookingNotices.Invoice

open Numeric Numeric.Single

/-! ## Parts of the page -/

/-- A part of the page: its sides in millimetres from the left and from above. -/
structure Box where
  left : ℚ
  top : ℚ
  right : ℚ
  bottom : ℚ

/-- What rounding may move a mark by, in millimetres. -/
def slack : ℚ := 1 / 100

/-- The mark lies in a part of the page, up to rounding: a text with its baseline and, from left to
right, with its measured width; a border with all its sides. -/
def Mark.Within (m : Metrics) (b : Box) : Mark → Prop
  | .text x baseline pen s => ∃ left height : ℚ, x = finite left ∧ baseline = finite height ∧
      (b.left - slack ≤ left ∧ left + m.measure pen s.toList ≤ b.right + slack) ∧
      (b.top - slack ≤ height ∧ height ≤ b.bottom + slack)
  | .border cell => ∃ left top width height : ℚ,
      cell = ⟨finite left, finite top, finite width, finite height⟩ ∧
      (b.left - slack ≤ left ∧ left + width ≤ b.right + slack) ∧
      (b.top - slack ≤ top ∧ top + height ≤ b.bottom + slack)

/-- All units of the mark are counted: its measured width is that of its characters. -/
def Mark.Counted (m : Metrics) : Mark → Prop
  | .text _ _ pen s => m.units pen.weight s.toList = m.span pen.weight s.toList
  | .border _ => True

/-- One part of the page lies in another. -/
structure Box.Inside (a b : Box) : Prop where
  left : b.left ≤ a.left
  top : b.top ≤ a.top
  right : a.right ≤ b.right
  bottom : a.bottom ≤ b.bottom

variable {m : Metrics}

theorem Mark.Within.mono {a b : Box} {mark : Mark} (h : mark.Within m a) (hab : a.Inside b) :
    mark.Within m b := by
  obtain ⟨hleft, htop, hright, hbottom⟩ := hab
  cases mark with
  | text x baseline pen s =>
    obtain ⟨left, height, hx, hy, ⟨h₁, h₂⟩, h₃, h₄⟩ := h
    exact ⟨left, height, hx, hy, ⟨by linarith, by linarith⟩, by linarith, by linarith⟩
  | border cell =>
    obtain ⟨left, top, width, height, hcell, ⟨h₁, h₂⟩, h₃, h₄⟩ := h
    exact ⟨left, top, width, height, hcell, ⟨by linarith, by linarith⟩, by linarith, by linarith⟩

/-! ## A text in its cell -/

/-- A cell whose measures are whole millimetres, as high as a line. -/
def lineCell (x y width : ℕ) : Cell := ⟨finite x, finite y, finite width, rowHeight⟩

/-- How far a text is from the left side of its cell at least. -/
def Align.inset (align : Align) (width room : ℚ) : ℚ :=
  match align with
  | .left => 1
  | .center => (width - room) / 2

/-- The part of a cell that its text may take. -/
def textBox (x y width room : ℕ) (align : Align) : Box :=
  ⟨x + align.inset width room, y, x + align.inset width room + room, y + 10⟩

theorem textBox_inside {x y width room : ℕ} (hroom : room + 1 ≤ width) (align : Align) :
    (textBox x y width room align).Inside ⟨x, y, x + width, y + 10⟩ := by
  have hroomCast : (room : ℚ) + 1 ≤ width := by exact_mod_cast hroom
  have hinset : 0 ≤ align.inset width room ∧ align.inset width room + room ≤ width := by
    cases align with
    | left =>
      simp only [Align.inset]
      constructor <;> linarith
    | center =>
      simp only [Align.inset]
      constructor <;> linarith
  obtain ⟨hleft, hright⟩ := hinset
  refine ⟨?_, le_rfl, ?_, le_rfl⟩
  · show (x : ℚ) ≤ x + align.inset width room
    linarith
  · show x + align.inset width room + room ≤ (x : ℚ) + width
    linarith

theorem literal_eq {n : ℕ} (hn : n < 2 ^ 24) : (OfNat.ofNat n : Single) = finite n :=
  ofRat_natCast hn

theorem padding_eq : padding = finite (1 : ℕ) := literal_eq (by norm_num)

/-- What a text stands below the middle of its cell. -/
theorem drop_eq {pen : Pen} (hpen : Metrics.InSize pen) :
    ∃ drop : ℚ, baselineDrop * pen.size / pointsPerMm = finite drop ∧ 0 ≤ drop ∧ drop ≤ 3 / 2 := by
  rcases hpen with h | h <;> rw [h]
  · exact ⟨8877943 / 8388608, by decide +kernel, by norm_num, by norm_num⟩
  · exact ⟨2663383 / 2097152, by decide +kernel, by norm_num, by norm_num⟩

/-- The baseline of a text lies in the lower half of its cell. -/
theorem baseline_eq {pen : Pen} (hpen : Metrics.InSize pen) {y : ℕ} (hy : y ≤ 287) :
    ∃ height : ℚ, finite y + rowHeight / 2 + baselineDrop * pen.size / pointsPerMm =
      finite height ∧ (y : ℚ) + 4 ≤ height ∧ height ≤ y + 7 := by
  have hyCast : (y : ℚ) ≤ 287 := by exact_mod_cast hy
  have hyNonneg : (0 : ℚ) ≤ y := Nat.cast_nonneg y
  have hmiddle : finite y + rowHeight / 2 = finite ((y + 5 : ℕ) : ℚ) := by
    have hhalf : (rowHeight / 2 : Single) = finite (5 : ℕ) := by decide +kernel
    rw [hhalf, natCast_add (by omega)]
  obtain ⟨drop, hdrop, hnonneg, hle⟩ := drop_eq hpen
  obtain ⟨height, hheight, -, hnear⟩ :=
    near_ofRat_of_le (q := ((y + 5 : ℕ) : ℚ) + drop) (by positivity) (by push_cast; linarith)
  obtain ⟨hlow, hhigh⟩ := abs_le.mp hnear
  refine ⟨height, ?_, ?_, ?_⟩
  · rw [hmiddle, hdrop, add_finite, hheight]
  · push_cast at hlow
    norm_num at hlow ⊢
    linarith
  · push_cast at hhigh
    norm_num at hhigh ⊢
    linarith

/-- Where a text in the middle of its cell starts: at half of what its width leaves free. -/
theorem center_eq {x width : ℕ} (hx : x ≤ 200) (hwidth : width ≤ 190) {w : ℚ} (hw : 0 ≤ w)
    (hle : w ≤ width) :
    ∃ left : ℚ, finite x + (finite width - finite w) / 2 = finite left ∧
      |left - (x + (width - w) / 2)| ≤ 1 / 1000 := by
  have hxCast : (x : ℚ) ≤ 200 := by exact_mod_cast hx
  have hwidthCast : (width : ℚ) ≤ 190 := by exact_mod_cast hwidth
  have hxNonneg : (0 : ℚ) ≤ x := Nat.cast_nonneg x
  obtain ⟨free, hfree, hfreeNonneg, hfreeNear⟩ :=
    near_ofRat_of_le (q := width - w) (by linarith) (by linarith)
  obtain ⟨hfreeLow, hfreeHigh⟩ := abs_le.mp hfreeNear
  have hfreeLe : free ≤ 191 := by
    norm_num at hfreeHigh ⊢
    linarith
  obtain ⟨half, hhalf, hhalfNonneg, hhalfNear⟩ :=
    near_ofRat_of_le (q := free / 2) (by positivity) (by linarith)
  obtain ⟨hhalfLow, hhalfHigh⟩ := abs_le.mp hhalfNear
  have hhalfLe : half ≤ 96 := by
    norm_num at hhalfHigh ⊢
    linarith
  obtain ⟨left, hleft, -, hleftNear⟩ :=
    near_ofRat_of_le (q := x + half) (by positivity) (by linarith)
  obtain ⟨hleftLow, hleftHigh⟩ := abs_le.mp hleftNear
  refine ⟨left, ?_, abs_le.mpr ?_⟩
  · have hdifference : (finite width - finite w : Single) = finite free := by
      rw [← hfree, sub_eq_add_neg]
      rfl
    have htwo : (2 : Single) = finite 2 := by decide +kernel
    rw [hdifference, htwo, div_finite free (by norm_num), hhalf, add_finite, hleft]
  · norm_num at hfreeLow hfreeHigh hhalfLow hhalfHigh hleftLow hleftHigh ⊢
    constructor <;> linarith

/-- A text that fits its room lies in the middle of its cell, or at its left. -/
theorem within_textIn {pen : Pen} (hpen : Metrics.InSize pen) {x y width room : ℕ} (hx : x ≤ 199)
    (hy : y ≤ 287) (hwidth : width ≤ 190) (hroom : room ≤ width) {cs : List Char}
    (hfits : m.fits pen (finite room) cs) (align : Align) :
    ∀ mark ∈ textIn m (lineCell x y width) pen cs align,
      mark.Within m (textBox x y width room align) := by
  intro mark hmark
  unfold textIn at hmark
  split_ifs at hmark with hempty
  · cases hmark
  rw [List.mem_singleton] at hmark
  have hroomCast : (room : ℚ) ≤ width := by exact_mod_cast hroom
  have hwidthCast : (width : ℚ) ≤ 190 := by exact_mod_cast hwidth
  obtain ⟨w, hw, hwNonneg, hwLe, hwNear⟩ := Metrics.near_width hpen (by linarith) hfits
  obtain ⟨hwLow, hwHigh⟩ := abs_le.mp hwNear
  obtain ⟨height, hheight, hheightLow, hheightHigh⟩ := baseline_eq hpen hy
  have hvertical : (y : ℚ) - slack ≤ height ∧ height ≤ y + 10 + slack := by
    unfold slack
    constructor <;> linarith
  subst hmark
  cases align with
  | left =>
    have hleft : finite x + padding = finite ((x + 1 : ℕ) : ℚ) := by
      rw [padding_eq, natCast_add (by omega)]
    refine ⟨_, height, hleft, hheight, ?_, hvertical⟩
    simp only [textBox, Align.inset, String.toList_ofList, slack]
    push_cast
    constructor <;> linarith
  | center =>
    obtain ⟨left, hleft, hleftNear⟩ :=
      center_eq (show x ≤ 200 by omega) hwidth hwNonneg (hwLe.trans hroomCast)
    obtain ⟨hleftLow, hleftHigh⟩ := abs_le.mp hleftNear
    refine ⟨left, height, ?_, hheight, ?_, hvertical⟩
    · show finite x + (finite width - m.width pen cs) / 2 = _
      rw [hw, hleft]
    · simp only [textBox, Align.inset, String.toList_ofList, slack]
      constructor <;> linarith

theorem counted_textIn {cell : Cell} {pen : Pen} {text : List Char} {align : Align}
    (h : m.span pen.weight text < 2 ^ 32) :
    ∀ mark ∈ textIn m cell pen text align, mark.Counted m := by
  intro mark hmark
  unfold textIn at hmark
  split_ifs at hmark
  · cases hmark
  · rw [List.mem_singleton.mp hmark, Mark.Counted, String.toList_ofList]
    exact Metrics.units_eq_span h

/-! ## Lines below one another -/

/-- Lines that fit their room keep to one part of the page. -/
theorem within_stack {pen : Pen} (hpen : Metrics.InSize pen) {x width room step : ℕ} (hx : x ≤ 199)
    (hwidth : width ≤ 190) (hroom : room ≤ width) (align : Align) {lines : List (List Char)}
    (hfits : ∀ l ∈ lines, m.fits pen (finite room) l) {y : ℕ} (hy : y + step * lines.length ≤ 287) :
    ∀ mark ∈ (stack m (finite x) (finite width) (finite step) pen align (finite y) lines).1,
      mark.Within m ⟨x + align.inset width room, y, x + align.inset width room + room,
        y + step * lines.length + 10⟩ := by
  induction lines generalizing y with
  | nil => exact fun _ hmark => nomatch hmark
  | cons line lines ih =>
    obtain ⟨hline, hlines⟩ := List.forall_mem_cons.mp hfits
    rw [List.length_cons, Nat.mul_succ] at hy
    have hnext : (finite y + finite step : Single) = finite ((y + step : ℕ) : ℚ) :=
      natCast_add (by omega)
    have hlength : ((line :: lines).length : ℚ) = lines.length + 1 := by
      push_cast [List.length_cons]
      rfl
    have hstep : (0 : ℚ) ≤ step * lines.length := by positivity
    have hstepNonneg : (0 : ℚ) ≤ step := Nat.cast_nonneg step
    intro mark hmark
    unfold stack at hmark
    rw [hnext] at hmark
    rcases List.mem_append.mp hmark with hmark | hmark
    · refine (within_textIn hpen hx (by omega) hwidth hroom hline align mark hmark).mono ?_
      refine ⟨le_rfl, le_rfl, le_rfl, ?_⟩
      show (y : ℚ) + 10 ≤ y + step * ((line :: lines).length : ℚ) + 10
      rw [hlength]
      linarith
    · refine (ih hlines (by omega) mark hmark).mono ⟨le_rfl, ?_, le_rfl, ?_⟩
      · show (y : ℚ) ≤ ((y + step : ℕ) : ℚ)
        push_cast
        linarith
      · show ((y + step : ℕ) : ℚ) + step * lines.length + 10 ≤
          y + step * ((line :: lines).length : ℚ) + 10
        rw [hlength]
        push_cast
        linarith

theorem counted_stack {x width step y : Single} {pen : Pen} {align : Align}
    {lines : List (List Char)} (h : ∀ l ∈ lines, m.span pen.weight l < 2 ^ 32) :
    ∀ mark ∈ (stack m x width step pen align y lines).1, mark.Counted m := by
  induction lines generalizing y with
  | nil => exact fun _ hmark => nomatch hmark
  | cons line lines ih =>
    obtain ⟨hline, hlines⟩ := List.forall_mem_cons.mp h
    intro mark hmark
    rcases List.mem_append.mp hmark with hmark | hmark
    · exact counted_textIn hline mark hmark
    · exact ih hlines mark hmark

end BookingNotices.Invoice
