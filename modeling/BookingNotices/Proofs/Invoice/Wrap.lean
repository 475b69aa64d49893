import BookingNotices.Invoice.Layout
import BookingNotices.Proofs.Invoice.Lines

/-!
# Lines fit their room

* `Metrics.measure` : the exact width of a text in millimetres, as its units are counted;
* `near_width`      : a text that fits is as wide as it is measured, but for a thousandth;
* `fits_of_mem_wrap` : if every character alone fits the room, so does every line of a text;
* `fits_of_mem_wrap_sans` : in the faces of invoices every character fits five millimetres;
* `span_lt_of_mem_wrap_sans` : all units of a line are counted, if those of its text can be.
-/

namespace BookingNotices.Invoice

open Numeric Numeric.Single

namespace Metrics

/-- The exact width of a text in millimetres, as its units are counted. -/
def measure (m : Metrics) (pen : Pen) (cs : List Char) : ℚ :=
  match pen.size with
  | .finite points => m.units pen.weight cs / unitsPerEm * points * (254 / 10) / 72
  | _ => 0

/-- One of the two sizes that invoices are set in. -/
def InSize (pen : Pen) : Prop := pen.size = finite 10 ∨ pen.size = finite 12

variable {m : Metrics} {pen : Pen}

theorem measure_eq (hpen : InSize pen) (cs : List Char) :
    ∃ s : ℚ, (s = 10 ∨ s = 12) ∧ pen.size = finite s ∧
      m.measure pen cs = m.units pen.weight cs / 2048 * s * (254 / 10) / 72 := by
  obtain ⟨s, hs, hsize⟩ : ∃ s : ℚ, (s = 10 ∨ s = 12) ∧ pen.size = finite s := by
    rcases hpen with h | h
    · exact ⟨10, .inl rfl, h⟩
    · exact ⟨12, .inr rfl, h⟩
  refine ⟨s, hs, hsize, ?_⟩
  unfold measure
  rw [hsize]
  rfl

theorem isLength_width (hpen : InSize pen) (cs : List Char) : (m.width pen cs).IsLength := by
  obtain ⟨s, hs, hpos⟩ : ∃ s : ℚ, pen.size = finite s ∧ 0 < s := by
    rcases hpen with h | h
    · exact ⟨10, h, by norm_num⟩
    · exact ⟨12, h, by norm_num⟩
  rw [width, hs, millimetres_eq]
  exact isLength_div (isLength_mul (isLength_ems _) hpos) (by norm_num)

/-- The width of so many units, when it is finite: four roundings and one of the factor. -/
theorem near_millimetres {s : ℚ} (hs : s = 10 ∨ s = 12) {units : ℕ} {w : ℚ} (hw : w ≤ 200)
    (h : millimetres (finite s) units = finite w) :
    0 ≤ w ∧ |w - units / 2048 * s * (254 / 10) / 72| ≤ 1 / 1000 := by
  have hpos : 0 < s := by rcases hs with rfl | rfl <;> norm_num
  unfold millimetres at h
  rw [unitsPerEm_eq, pointsPerMm_eq] at h
  have hcount : (Single.ofNat units).IsLength := isLength_ofRat (Nat.cast_nonneg _)
  have hem := isLength_div hcount (b := 2048) (by norm_num)
  obtain ⟨points, hpoints, -, hlast⟩ :=
    near_div (isLength_mul hem hpos) (b := 5944683 / 2097152) (by norm_num) (by rw [h]; nofun)
  obtain ⟨ems, hems, -, hscaled⟩ := near_mul hem hpos (by rw [hpoints]; nofun)
  obtain ⟨count, hcounted, -, hdivided⟩ :=
    near_div hcount (b := 2048) (by norm_num) (by rw [hems]; nofun)
  have hfirst : (Single.ofNat units).Near units :=
    near_ofRat (Nat.cast_nonneg _) (by show Single.ofNat units ≠ _; rw [hcounted]; nofun)
  rw [hcounted] at hfirst
  rw [hems] at hdivided
  rw [hpoints] at hscaled
  rw [h] at hlast
  obtain ⟨-, hlow₁, hhigh₁⟩ := hfirst.bounds
  obtain ⟨-, hlow₂, hhigh₂⟩ := hdivided.bounds
  obtain ⟨-, hlow₃, hhigh₃⟩ := hscaled.bounds
  obtain ⟨hnonneg, hlow₄, hhigh₄⟩ := hlast.bounds
  refine ⟨hnonneg, abs_le.mpr ?_⟩
  rcases hs with rfl | rfl
  · norm_num at *
    constructor <;> linarith
  · norm_num at *
    constructor <;> linarith

/-- A text that fits is as wide as it is measured, but for a thousandth of a millimetre. -/
theorem near_width (hpen : InSize pen) {cs : List Char} {room : ℚ} (hroom : room ≤ 200)
    (h : m.fits pen (finite room) cs) :
    ∃ w, m.width pen cs = finite w ∧ 0 ≤ w ∧ w ≤ room ∧ |w - m.measure pen cs| ≤ 1 / 1000 := by
  have hle : m.width pen cs ≤ finite room := of_decide_eq_true h
  obtain ⟨w, hw⟩ : ∃ w, m.width pen cs = finite w := by
    obtain ⟨w, -, hw⟩ | hinfinite := (isLength_width (m := m) hpen cs).finite_or_infinite
    · exact ⟨w, hw⟩
    · rw [hinfinite] at hle
      exact absurd hle Bool.false_ne_true
  have hwroom : w ≤ room := by
    rw [hw] at hle
    exact of_decide_eq_true hle
  obtain ⟨s, hs, hsize, hmeasure⟩ := measure_eq (m := m) hpen cs
  have hwidth : millimetres (finite s) (m.units pen.weight cs) = finite w := hsize ▸ hw
  have hnear := near_millimetres hs (hwroom.trans hroom) hwidth
  rw [← hmeasure] at hnear
  exact ⟨w, hw, hnear.1, hwroom, hnear.2⟩

/-! ## Texts that fit -/

/-- A text of at most an em is not wider than five millimetres. -/
theorem millimetres_le {s : ℚ} (hs : s = 10 ∨ s = 12) {units : ℕ} (hunits : units ≤ unitsPerEm)
    {room : ℚ} (hroom : 5 ≤ room) : millimetres (finite s) units ≤ finite room := by
  have hpos : 0 < s := by rcases hs with rfl | rfl <;> norm_num
  have hunits : (units : ℚ) ≤ 2048 := by exact_mod_cast hunits
  have hunitsNonneg : (0 : ℚ) ≤ units := Nat.cast_nonneg _
  have hcount : Single.ofNat units = finite units :=
    ofRat_natCast (Nat.lt_of_le_of_lt (by exact_mod_cast hunits) (by norm_num : 2048 < 2 ^ 24))
  obtain ⟨ems, hems, hemsNonneg, hemsNear⟩ :=
    near_ofRat_of_le (q := units / 2048) (by positivity) (by linarith)
  have hemsLe : ems ≤ 1 + 1 / 1000 := by
    have := (abs_le.mp hemsNear).2
    norm_num at this ⊢
    linarith
  obtain ⟨points, hpoints, hpointsNonneg, hpointsNear⟩ :=
    near_ofRat_of_le (q := ems * s) (by positivity) (by rcases hs with rfl | rfl <;> linarith)
  have hpointsLe : points ≤ 12 + 1 / 10 := by
    have := (abs_le.mp hpointsNear).2
    rcases hs with rfl | rfl <;> norm_num at this ⊢ <;> linarith
  obtain ⟨w, hw, -, hwNear⟩ :=
    near_ofRat_of_le (q := points / (5944683 / 2097152)) (by positivity) (by linarith)
  have hwLe : w ≤ room := by
    have := (abs_le.mp hwNear).2
    norm_num at this ⊢
    linarith
  unfold millimetres
  rw [unitsPerEm_eq, pointsPerMm_eq, hcount, div_finite _ (by norm_num), hems, mul_finite, hpoints,
    div_finite _ (by norm_num), hw]
  exact decide_eq_true hwLe

variable {room : ℚ}

/-- A text of at most an em fits every room that is not too narrow. -/
theorem fits_of_units_le (hpen : InSize pen) (hroom : 5 ≤ room) {cs : List Char}
    (h : m.units pen.weight cs ≤ unitsPerEm) : m.fits pen (finite room) cs := by
  unfold fits width
  rcases hpen with hsize | hsize <;> rw [hsize]
  · exact decide_eq_true (millimetres_le (.inl rfl) h hroom)
  · exact decide_eq_true (millimetres_le (.inr rfl) h hroom)

theorem room_nonneg (hroom : 5 ≤ room) : 0 ≤ finite room := by
  rw [zero_eq, finite_le]
  linarith

/-! ## Lines -/

section Lines

variable (hpen : InSize pen) (hroom : 5 ≤ room)
  (hadvance : ∀ c, m.advance pen.weight c ≤ unitsPerEm)

include hpen hroom hadvance

theorem fits_singleton (c : Char) : m.fits pen (finite room) [c] :=
  fits_of_units_le hpen hroom ((Nat.mod_le _ _).trans (hadvance c))

theorem fits_of_fits_or_single {cs : List Char}
    (h : m.fits pen (finite room) cs ∨ cs.length = 1) : m.fits pen (finite room) cs := by
  rcases h with hfits | hsingle
  · exact hfits
  · obtain ⟨c, rfl⟩ := List.length_eq_one_iff.mp hsingle
    exact fits_singleton hpen hroom hadvance c

/-- The pieces of a text, and the lines that they are put into, fit the room. -/
theorem fits_of_mem_pieces (text : List Char) :
    ∀ p ∈ m.pieces pen (finite room) text, m.fits pen (finite room) p := by
  have hwidth : ∀ cs, cs.Sublist text → m.width pen cs ≠ undefined :=
    fun cs _ => (isLength_width hpen cs).ne_undefined
  intro p hp
  exact fits_of_fits_or_single hpen hroom hadvance
    (fits_or_single_of_mem_pieces (room_nonneg hroom) hwidth p hp)

theorem fits_of_mem_wrap (text : List Char) :
    ∀ l ∈ m.wrap pen (finite room) text, m.fits pen (finite room) l := by
  have hwidth : ∀ cs, cs.Sublist text → m.width pen cs ≠ undefined :=
    fun cs _ => (isLength_width hpen cs).ne_undefined
  intro l hl
  exact fits_of_fits_or_single hpen hroom hadvance
    (fits_or_single_of_mem_wrap (room_nonneg hroom) hwidth l hl)

end Lines

/-! ### Their units -/

section Units

variable (hpen : InSize pen) (hroom : room ≤ 200)

include hpen hroom

/-- What fits the page, and is counted as it is, has few units. -/
theorem span_le_of_fits {cs : List Char} (hspan : m.span pen.weight cs < 2 ^ 32)
    (h : m.fits pen (finite room) cs) : m.span pen.weight cs ≤ 2 ^ 17 := by
  obtain ⟨w, -, -, hw, hnear⟩ := near_width hpen hroom h
  obtain ⟨s, hs, -, hmeasure⟩ := measure_eq (m := m) hpen cs
  obtain ⟨hlow, -⟩ := abs_le.mp hnear
  have hnonneg : (0 : ℚ) ≤ m.span pen.weight cs := Nat.cast_nonneg _
  have hle : (m.span pen.weight cs : ℚ) ≤ 2 ^ 17 := by
    rw [hmeasure, units_eq_span hspan] at hlow
    rcases hs with rfl | rfl <;> linarith
  exact_mod_cast hle

variable (hblank : m.advance pen.weight ' ' ≤ unitsPerEm)

include hblank

/-- A line has few units: it fits with each piece that is put into it, or is one piece. -/
theorem span_le_of_mem_fill {line : List Char} {pieces : List (List Char)}
    (hline : m.span pen.weight line ≤ 2 ^ 17)
    (hpieces : ∀ p ∈ pieces, m.span pen.weight p ≤ 2 ^ 17) :
    ∀ l ∈ m.fill pen (finite room) line pieces, m.span pen.weight l ≤ 2 ^ 17 := by
  induction pieces generalizing line with
  | nil =>
    intro l hl
    exact List.mem_singleton.mp hl ▸ hline
  | cons piece rest ih =>
    obtain ⟨hpiece, hrest⟩ := List.forall_mem_cons.mp hpieces
    unfold fill
    split_ifs with hfits
    · have hjoined : m.span pen.weight (line ++ ' ' :: piece) < 2 ^ 32 := by
        unfold unitsPerEm at hblank
        rw [span_append, span_cons]
        omega
      exact ih (span_le_of_fits hpen hroom hjoined hfits) hrest
    · intro l hl
      rcases List.mem_cons.mp hl with rfl | hl
      · exact hline
      · exact ih hpiece hrest l hl

end Units

/-- If 32 bits hold the units of a text, they hold those of its lines. -/
theorem span_lt_of_mem_wrap (hpen : InSize pen) (hroom : 5 ≤ room) (hpage : room ≤ 200)
    (hadvance : ∀ c, m.advance pen.weight c ≤ unitsPerEm) {text : List Char}
    (hspan : m.span pen.weight text < 2 ^ 32) :
    ∀ l ∈ m.wrap pen (finite room) text, m.span pen.weight l < 2 ^ 32 := by
  have hpieces : ∀ p ∈ m.pieces pen (finite room) text, m.span pen.weight p ≤ 2 ^ 17 := by
    intro p hp
    have hpiece : m.span pen.weight p < 2 ^ 32 :=
      (span_le_of_sublist (sublist_of_mem_pieces hp)).trans_lt hspan
    exact span_le_of_fits hpen hpage hpiece (fits_of_mem_pieces hpen hroom hadvance text p hp)
  intro l hl
  unfold wrap at hl
  cases hcut : m.pieces pen (finite room) text with
  | nil =>
    rw [hcut, List.mem_singleton] at hl
    rw [hl]
    exact Nat.zero_lt_of_lt hspan
  | cons piece rest =>
    rw [hcut] at hl hpieces
    obtain ⟨hpiece, hrest⟩ := List.forall_mem_cons.mp hpieces
    have hle := span_le_of_mem_fill hpen hpage (hadvance ' ') hpiece hrest l hl
    omega

/-! ## The faces of invoices -/

/-- No character of the regular face is wider than an em. -/
theorem regularAdvance_le (c : Char) : regularAdvance c ≤ unitsPerEm := by
  by_cases hascii : c.toNat < 0x7F
  · have hall : ∀ n < 0x7F, regularAdvance (Char.ofNat n) ≤ unitsPerEm := by decide +kernel
    have hchar := hall c.toNat hascii
    rwa [Char.ofNat_toNat] at hchar
  · have hother : ¬ (0x20 ≤ c.toNat ∧ c.toNat ≤ 0x7E) := by omega
    have hmark : 1255 + 20 * (c.toNat % 7) ≤ 2048 := by omega
    unfold regularAdvance unitsPerEm
    simp only [if_neg hother]
    split_ifs <;> omega

/-- The lines of a text in the body fit the room that it is wrapped to. -/
theorem fits_of_mem_wrap_sans {room : ℚ} (hroom : 5 ≤ room) (text : List Char) :
    ∀ l ∈ sans.wrap bodyPen (finite room) text, sans.fits bodyPen (finite room) l :=
  fits_of_mem_wrap (.inl (ofRat_natCast (n := 10) (by norm_num))) hroom regularAdvance_le text

/-- All units of the lines of a text in the body are counted, if those of the text can be. -/
theorem span_lt_of_mem_wrap_sans {room : ℚ} (hroom : 5 ≤ room) (hpage : room ≤ 200)
    {text : List Char} (hspan : sans.span .regular text < 2 ^ 32) :
    ∀ l ∈ sans.wrap bodyPen (finite room) text, sans.span .regular l < 2 ^ 32 :=
  span_lt_of_mem_wrap (.inl (ofRat_natCast (n := 10) (by norm_num))) hroom hpage regularAdvance_le
    hspan

end Metrics

end BookingNotices.Invoice
