import BookingNotices.Proofs.Invoice.Marks

/-!
# Rows of the table

* `Panel`       : a border with the texts that belong into it;
* `rowPanels`   : a row as its panels, which leave the marks of the row;
* `Spans`       : columns of whole millimetres that end at the right margin at most;
* `sound_rowPanels` : the panels of such a row keep to its place, and their texts to their own
  borders;
* `shown_panelsOf` : a panel shows the lines of its column.

The lines of a column stand in the middle of the row: above them is half of what they leave free,
which are whole millimetres because a line takes ten of them.
-/

namespace BookingNotices.Invoice

open Numeric Numeric.Single

variable {m : Metrics}

/-! ## Panels -/

/-- A border with the texts that belong into it. -/
structure Panel where
  cell : Cell
  texts : List Mark

/-- The millimetres of a finite length. -/
def lengthOf : Single → ℚ
  | .finite q => q
  | _ => 0

/-- The part of the page that a border is around. -/
def Cell.box (c : Cell) : Box :=
  ⟨lengthOf c.x, lengthOf c.y, lengthOf c.x + lengthOf c.width, lengthOf c.y + lengthOf c.height⟩

/-- What a text says; a border says nothing. -/
def Mark.shown? : Mark → Option String
  | .text _ _ _ s => some s
  | .border _ => none

namespace Panel

/-- A panel as marks: its border first. -/
def marks (panel : Panel) : List Mark := .border panel.cell :: panel.texts

/-- What the texts of a panel say. -/
def shown (panel : Panel) : List String := panel.texts.filterMap Mark.shown?

/-- All marks of a panel lie in a part of the page, its texts in its own border. -/
structure Sound (m : Metrics) (b : Box) (panel : Panel) : Prop where
  marks : ∀ mark ∈ panel.marks, mark.Within m b
  texts : ∀ mark ∈ panel.texts, mark.Within m panel.cell.box

theorem Sound.mono {a b : Box} {panel : Panel} (h : panel.Sound m a) (hab : a.Inside b) :
    panel.Sound m b :=
  ⟨fun mark hmark => (h.marks mark hmark).mono hab, h.texts⟩

/-- A border of whole millimetres that its texts keep to. -/
theorem sound_of_texts {x y width height : ℕ} {texts : List Mark}
    (h : ∀ mark ∈ texts, mark.Within m ⟨x, y, x + width, y + height⟩) :
    Sound m ⟨x, y, x + width, y + height⟩
      ⟨⟨finite x, finite y, finite width, finite height⟩, texts⟩ := by
  refine ⟨?_, h⟩
  intro mark hmark
  rcases List.mem_cons.mp hmark with rfl | hmark
  · refine ⟨x, y, width, height, rfl, ?_, ?_⟩
    all_goals
      unfold slack
      constructor <;> linarith
  · exact h mark hmark

end Panel

/-! ## Columns -/

/-- The texts of a column in a row of a height. -/
def columnTexts (m : Metrics) (x y height : Single) (c : Column) : List Mark :=
  let lines := c.lines m
  let top := y + (height - rowHeight * Single.ofNat lines.length) / 2
  lines.zipIdx.flatMap fun (line, i) =>
    textIn m ⟨x, top + rowHeight * Single.ofNat i, c.width, rowHeight⟩ bodyPen line c.align

/-- The panels of a row from left to right. -/
def panelsOf (m : Metrics) (y height : Single) : Single → List Column → List Panel
  | _, [] => []
  | x, c :: cs =>
    ⟨⟨x, y, c.width, height⟩, columnTexts m x y height c⟩ :: panelsOf m y height (x + c.width) cs

/-- A row leaves the marks of its panels. -/
theorem columnsMarks_eq (y height x : Single) (columns : List Column) :
    columnsMarks m y height x columns = (panelsOf m y height x columns).flatMap Panel.marks := by
  induction columns generalizing x with
  | nil => rfl
  | cons c cs ih =>
    rw [columnsMarks, panelsOf, List.flatMap_cons, ih]
    rfl

theorem rowHeight_eq : rowHeight = finite (10 : ℕ) := literal_eq (by norm_num)

theorem rowHeight_mul {n : ℕ} (hn : n ≤ 28) :
    rowHeight * Single.ofNat n = finite ((10 * n : ℕ) : ℚ) := by
  have hcount : Single.ofNat n = finite n := ofRat_natCast (by omega)
  rw [rowHeight_eq, hcount, natCast_mul (by omega)]

theorem natCast_half {n : ℕ} (hn : n < 2 ^ 24) :
    (finite ((2 * n : ℕ) : ℚ) / 2 : Single) = finite n := by
  have htwo : (2 : Single) = finite 2 := by decide +kernel
  have hhalf : ((2 * n : ℕ) : ℚ) / 2 = n := by
    push_cast
    ring
  rw [htwo, div_finite _ (by norm_num), hhalf, ofRat_natCast hn]

theorem bodyPen_inSize : Metrics.InSize bodyPen := .inl (literal_eq (by norm_num))

/-- The texts of a column lie in its border. -/
theorem within_columnTexts {c : Column} {x y width count : ℕ} (hwidth : c.width = finite width)
    (hroom : 2 ≤ width) (hwide : width ≤ 190) (hx : x ≤ 199)
    (hfits : ∀ l ∈ c.lines m, m.fits bodyPen (finite ((width - 2 : ℕ) : ℚ)) l)
    (hcount : (c.lines m).length ≤ count) (hy : y + 10 * count ≤ 287) :
    ∀ mark ∈ columnTexts m (finite x) (finite y) (finite ((10 * count : ℕ) : ℚ)) c,
      mark.Within m ⟨x, y, x + width, y + (10 * count : ℕ)⟩ := by
  set free := count - (c.lines m).length with hfree
  have htop : (finite y + (finite ((10 * count : ℕ) : ℚ) -
      rowHeight * Single.ofNat (c.lines m).length) / 2 : Single) =
        finite ((y + 5 * free : ℕ) : ℚ) := by
    have hdifference : 10 * count - 10 * (c.lines m).length = 2 * (5 * free) := by omega
    rw [rowHeight_mul (by omega), natCast_sub (by omega) (by omega), hdifference,
      natCast_half (by omega), natCast_add (by omega)]
  intro mark hmark
  obtain ⟨⟨line, i⟩, hline, hmark⟩ := List.mem_flatMap.mp hmark
  obtain ⟨-, hi, -⟩ := List.mem_zipIdx hline
  have hlineMem : line ∈ c.lines m := List.fst_mem_of_mem_zipIdx hline
  rw [Nat.zero_add] at hi
  have hplace : (finite ((y + 5 * free : ℕ) : ℚ) + rowHeight * Single.ofNat i : Single) =
      finite ((y + 5 * free + 10 * i : ℕ) : ℚ) := by
    rw [rowHeight_mul (by omega), natCast_add (by omega)]
  change mark ∈ textIn m ⟨finite x, _ + rowHeight * Single.ofNat i, c.width, rowHeight⟩ bodyPen line
    c.align at hmark
  rw [htop, hplace, hwidth] at hmark
  have htopLe : (y : ℚ) ≤ ((y + 5 * free + 10 * i : ℕ) : ℚ) := by
    exact_mod_cast (by omega : y ≤ y + 5 * free + 10 * i)
  have hbottomLe : ((y + 5 * free + 10 * i : ℕ) : ℚ) + 10 ≤ (y : ℚ) + (10 * count : ℕ) := by
    exact_mod_cast (by omega : y + 5 * free + 10 * i + 10 ≤ y + 10 * count)
  have hwithin := within_textIn bodyPen_inSize hx (by omega) hwide (Nat.sub_le width 2)
    (hfits line hlineMem) c.align mark hmark
  exact (hwithin.mono (textBox_inside (by omega) c.align)).mono
    ⟨le_rfl, htopLe, le_rfl, hbottomLe⟩

/-! ## What a row says -/

/-- The lines of a column that are not empty. -/
def Column.said (m : Metrics) (c : Column) : List String :=
  ((c.lines m).filter fun line => !line.isEmpty).map String.ofList

theorem shown_textIn (cell : Cell) (pen : Pen) (line : List Char) (align : Align) :
    (textIn m cell pen line align).filterMap Mark.shown? =
      if line.isEmpty then [] else [String.ofList line] := by
  unfold textIn
  split_ifs <;> rfl

/-- The texts of a column are its lines from top to bottom. -/
theorem shown_columnTexts (x y height : Single) (c : Column) :
    (columnTexts m x y height c).filterMap Mark.shown? = c.said m := by
  unfold columnTexts Column.said
  simp only [List.filterMap_flatMap, shown_textIn]
  rw [← List.flatMap_map Prod.fst fun line : List Char =>
    if line.isEmpty then [] else [String.ofList line], List.zipIdx_map_fst]
  induction c.lines m with
  | nil => rfl
  | cons line lines ih =>
    rw [List.flatMap_cons, ih]
    cases line with
    | nil => rfl
    | cons _ _ => rfl

/-- Every panel of a row says what its column does. -/
theorem shown_panelsOf (y height x : Single) (columns : List Column) :
    (panelsOf m y height x columns).map Panel.shown = columns.map (Column.said m) := by
  induction columns generalizing x with
  | nil => rfl
  | cons c cs ih =>
    rw [panelsOf, List.map_cons, List.map_cons, ih]
    exact congrArg (· :: _) (shown_columnTexts x y height c)

/-! ## Rows -/

/-- Columns of whole millimetres from a place on, each with room for any character, that end at the
right margin at most. -/
inductive Spans : ℕ → List Column → Prop
  | nil {x : ℕ} (hx : x ≤ 200) : Spans x []
  | cons {x width : ℕ} {c : Column} {cs : List Column} (hwidth : c.width = finite width)
      (hroom : 7 ≤ width) (hrest : Spans (x + width) cs) : Spans x (c :: cs)

theorem Spans.start_le {x : ℕ} {columns : List Column} (h : Spans x columns) : x ≤ 200 := by
  induction h with
  | nil hx => exact hx
  | cons hwidth hroom hrest ih => omega

theorem paddings_eq : (2 * padding : Single) = finite (2 : ℕ) := by
  rw [padding_eq, literal_eq (n := 2) (by norm_num), natCast_mul (by norm_num)]

/-- The room of a column between its paddings. -/
theorem room_eq {c : Column} {width : ℕ} (hwidth : c.width = finite width) (hroom : 2 ≤ width)
    (hwide : width ≤ 200) :
    (c.width - 2 * padding : Single) = finite ((width - 2 : ℕ) : ℚ) := by
  rw [hwidth, paddings_eq, natCast_sub (by omega) (by omega)]

/-- The lines of a column fit between the paddings of its border. -/
theorem fits_of_mem_lines {c : Column} {width : ℕ} (hwidth : c.width = finite width)
    (hroom : 7 ≤ width) (hwide : width ≤ 200) :
    ∀ l ∈ c.lines Metrics.sans,
      Metrics.sans.fits bodyPen (finite ((width - 2 : ℕ) : ℚ)) l := by
  unfold Column.lines
  rw [room_eq hwidth (by omega) hwide]
  refine Metrics.fits_of_mem_wrap_sans ?_ c.text.toList
  exact_mod_cast (by omega : 5 ≤ width - 2)

/-- The panels of a row on the page keep to the place of the row, and their texts to their own
borders. -/
theorem sound_panelsOf {columns : List Column} {x y count : ℕ} (hspans : Spans x columns)
    (hx : 10 ≤ x) (hcount : ∀ c ∈ columns, (c.lines Metrics.sans).length ≤ count)
    (hy : y + 10 * count ≤ 287) :
    ∀ panel ∈ panelsOf Metrics.sans (finite y) (finite ((10 * count : ℕ) : ℚ)) (finite x) columns,
      panel.Sound Metrics.sans ⟨10, y, 200, y + (10 * count : ℕ)⟩ := by
  induction hspans with
  | nil => exact fun _ hpanel => nomatch hpanel
  | @cons x width c cs hwidth hroom hrest ih =>
    obtain ⟨hhead, htail⟩ := List.forall_mem_cons.mp hcount
    have hend := hrest.start_le
    have hnext : (finite x + c.width : Single) = finite ((x + width : ℕ) : ℚ) := by
      rw [hwidth, natCast_add (by omega)]
    intro panel hpanel
    rw [panelsOf, hnext] at hpanel
    rcases List.mem_cons.mp hpanel with rfl | hpanel
    · have htexts := within_columnTexts (x := x) hwidth (by omega) (by omega) (by omega)
        (fits_of_mem_lines hwidth hroom (by omega)) hhead hy
      rw [hwidth]
      refine (Panel.sound_of_texts htexts).mono ⟨?_, le_rfl, ?_, le_rfl⟩
      · show (10 : ℚ) ≤ x
        exact_mod_cast hx
      · show (x : ℚ) + width ≤ 200
        exact_mod_cast hend
    · exact ih (by omega) htail panel hpanel

/-- All units of the texts of a row are counted, if those of its columns can be. -/
theorem counted_panelsOf {columns : List Column} {start : ℕ} (hspans : Spans start columns)
    (h : ∀ c ∈ columns, Metrics.sans.span .regular c.text.toList < 2 ^ 32) {y height x : Single} :
    ∀ panel ∈ panelsOf Metrics.sans y height x columns, ∀ mark ∈ panel.texts,
      mark.Counted Metrics.sans := by
  induction hspans generalizing x with
  | nil => exact fun _ hpanel => nomatch hpanel
  | @cons start width c cs hwidth hroom hrest ih =>
    obtain ⟨hcolumn, hcolumns⟩ := List.forall_mem_cons.mp h
    have hend := hrest.start_le
    have hlines : ∀ l ∈ c.lines Metrics.sans, Metrics.sans.span .regular l < 2 ^ 32 := by
      unfold Column.lines
      rw [room_eq hwidth (by omega) (by omega)]
      refine Metrics.span_lt_of_mem_wrap_sans ?_ ?_ hcolumn
      · exact_mod_cast (by omega : 5 ≤ width - 2)
      · exact_mod_cast (by omega : width - 2 ≤ 200)
    intro panel hpanel
    rcases List.mem_cons.mp hpanel with rfl | hpanel
    · intro mark hmark
      obtain ⟨⟨line, i⟩, hline, hmark⟩ := List.mem_flatMap.mp hmark
      exact counted_textIn (hlines line (List.fst_mem_of_mem_zipIdx hline)) mark hmark
    · exact ih hcolumns panel hpanel

/-- The number of lines that a row is high. -/
def rowLines (m : Metrics) (columns : List Column) : ℕ :=
  (columns.map fun c => (c.lines m).length).max?.getD 1

theorem length_lines_le {columns : List Column} :
    ∀ c ∈ columns, (c.lines m).length ≤ rowLines m columns := by
  intro c hc
  have hmem : (c.lines m).length ∈ columns.map fun c => (c.lines m).length :=
    List.mem_map_of_mem hc
  unfold rowLines
  cases hmax : (columns.map fun c => (c.lines m).length).max? with
  | none =>
    rw [List.max?_eq_none_iff.mp hmax] at hmem
    cases hmem
  | some count => exact (List.max?_eq_some_iff.mp hmax).2 _ hmem

/-- A row as its panels, as high as its lines. -/
def rowPanels (m : Metrics) (y : Single) (columns : List Column) : List Panel :=
  panelsOf m y (rowHeight * Single.ofNat (rowLines m columns)) margin columns

/-- A row leaves the marks of its panels. -/
theorem row_fst (y : Single) (columns : List Column) :
    (row m y columns).1 = (rowPanels m y columns).flatMap Panel.marks :=
  columnsMarks_eq _ _ _ columns

theorem margin_eq : margin = finite (10 : ℕ) := literal_eq (by norm_num)

/-- The panels of a row on the page are sound. -/
theorem sound_rowPanels {columns : List Column} (hspans : Spans 10 columns) {y : ℕ}
    (hy : y + 10 * rowLines Metrics.sans columns ≤ 287) :
    ∀ panel ∈ rowPanels Metrics.sans (finite y) columns,
      panel.Sound Metrics.sans ⟨10, y, 200, y + (10 * rowLines Metrics.sans columns : ℕ)⟩ := by
  intro panel hpanel
  unfold rowPanels at hpanel
  rw [rowHeight_mul (by omega), margin_eq] at hpanel
  exact sound_panelsOf hspans le_rfl length_lines_le hy panel hpanel

end BookingNotices.Invoice
