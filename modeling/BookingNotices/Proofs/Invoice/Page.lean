import BookingNotices.Proofs.Invoice.Heights

/-!
# The page of an invoice

* `page_eq`      : the parts of the page, each from the height at which the one before ends;
* `within_centered`, `within_labelled`, `within_wide` : where the texts outside the table stand;
* `OnPage`       : what keeps to the page, to the left of the ticket's code and to its border;
* `counted_page` : 32 bits hold the units of every line, if they hold those of every text;
* `layout_onPage` : an invoice is laid out unless it is too long, and then keeps to its page.

The first two texts are wrapped to 120 millimetres in the middle of the page, which leaves the place
of the ticket's code free. All that follows starts below it, since each of them takes a line.
-/

namespace BookingNotices.Invoice

open Numeric Numeric.Single

variable {m : Metrics}

/-! ## Parts of a page -/

theorem contentWidth_eq : contentWidth = finite (190 : ℕ) := literal_eq (by norm_num)

/-- A mark that is no border. -/
def Mark.IsText (mark : Mark) : Prop := mark.shown?.isSome

theorem isText_textIn {cell : Cell} {pen : Pen} {text : List Char} {align : Align} :
    ∀ mark ∈ textIn m cell pen text align, mark.IsText := by
  intro mark hmark
  unfold textIn at hmark
  split_ifs at hmark
  · cases hmark
  · rw [List.mem_singleton.mp hmark]
    exact rfl

theorem isText_stack {x width step y : Single} {pen : Pen} {align : Align}
    {lines : List (List Char)} :
    ∀ mark ∈ (stack m x width step pen align y lines).1, mark.IsText := by
  induction lines generalizing y with
  | nil => exact fun _ hmark => nomatch hmark
  | cons line lines ih =>
    intro mark hmark
    rcases List.mem_append.mp hmark with hmark | hmark
    · exact isText_textIn mark hmark
    · exact ih mark hmark

/-- The lines of a text in a room that is given in whole millimetres. -/
theorem length_wrap_sans {room : Single} {n : ℕ} (hroom : room = finite n) (text : String) :
    (Metrics.sans.wrap bodyPen (finite n) text.toList).length = lineCount room text := by
  rw [← hroom]
  rfl

/-- Lines of the body keep to one part of the page. -/
theorem within_body {x y width room step : ℕ} {roomLength : Single}
    (hroomLength : roomLength = finite room) (hx : x ≤ 199) (hwidth : width ≤ 190)
    (hle : room ≤ width) (hroom : 5 ≤ room) (align : Align) {text : String}
    (hy : y + step * lineCount roomLength text ≤ 277) :
    ∀ mark ∈ (stack Metrics.sans (finite x) (finite width) (finite step) bodyPen align (finite y)
        (Metrics.sans.wrap bodyPen roomLength text.toList)).1,
      mark.Within Metrics.sans
        ⟨x + align.inset width room, y, x + align.inset width room + room, 287⟩ := by
  rw [← length_wrap_sans hroomLength] at hy
  rw [hroomLength]
  have hfits : ∀ l ∈ Metrics.sans.wrap bodyPen (finite room) text.toList,
      Metrics.sans.fits bodyPen (finite room) l :=
    Metrics.fits_of_mem_wrap_sans (by exact_mod_cast hroom) text.toList
  have hbottom : (y : ℚ) +
      step * (Metrics.sans.wrap bodyPen (finite room) text.toList).length + 10 ≤ 287 := by
    exact_mod_cast Nat.add_le_add_right hy 10
  intro mark hmark
  have hwithin := within_stack bodyPen_inSize hx hwidth hle align hfits (by omega) mark hmark
  exact hwithin.mono ⟨le_rfl, le_rfl, le_rfl, hbottom⟩

/-- A centered text keeps to the middle of the page. -/
theorem within_centered {y : ℕ} {text : String} (hy : y + 10 * lineCount 120 text ≤ 277) :
    ∀ mark ∈ (centered Metrics.sans (finite y) bodyPen text).1,
      mark.Within Metrics.sans ⟨45, y, 165, 287⟩ := by
  intro mark hmark
  unfold centered at hmark
  rw [margin_eq, contentWidth_eq, rowHeight_eq] at hmark
  have hwithin := within_body (literal_eq (n := 120) (by norm_num)) (by norm_num) (by norm_num)
    (by norm_num) (by norm_num) .center hy mark hmark
  refine hwithin.mono ⟨?_, le_rfl, ?_, le_rfl⟩
  · norm_num [Align.inset]
  · norm_num [Align.inset]

theorem valueWidth_eq : contentWidth - labelWidth = finite (160 : ℕ) := by
  have hlabelWidth : labelWidth = finite (30 : ℕ) := literal_eq (by norm_num)
  rw [contentWidth_eq, hlabelWidth, natCast_sub (by norm_num) (by norm_num)]

theorem valueRoom_eq : (finite (160 : ℕ) - 2 * padding : Single) = finite (158 : ℕ) := by
  rw [paddings_eq, natCast_sub (by norm_num) (by norm_num)]

/-- A label and the text beside it keep to the page. -/
theorem within_labelled {y : ℕ} {label value : String}
    (hlabel : Metrics.sans.fits labelPen (finite (28 : ℕ)) label.toList)
    (hy : y + 5 * lineCount 158 value ≤ 277) :
    ∀ mark ∈ (labelled Metrics.sans (finite y) label value).1,
      mark.Within Metrics.sans ⟨10, y, 200, 287⟩ := by
  have hlabelPen : Metrics.InSize labelPen := .inl (literal_eq (by norm_num))
  have hliteral : (158 : Single) = finite (158 : ℕ) := literal_eq (by norm_num)
  have hlabelWidth : labelWidth = finite (30 : ℕ) := literal_eq (by norm_num)
  have hx : margin + labelWidth = finite (40 : ℕ) := by
    rw [margin_eq, hlabelWidth, natCast_add (by norm_num)]
  have hstep : labelLine = finite (5 : ℕ) := literal_eq (by norm_num)
  have hyCast : (y : ℚ) + 10 ≤ 287 := by exact_mod_cast (by omega : y + 10 ≤ 287)
  intro mark hmark
  rcases List.mem_append.mp hmark with hmark | hmark
  · rw [margin_eq, hlabelWidth] at hmark
    have hwithin := within_textIn hlabelPen (by norm_num) (by omega) (by norm_num) (by norm_num)
      hlabel .left mark hmark
    refine (hwithin.mono (textBox_inside (by norm_num) .left)).mono ⟨?_, le_rfl, ?_, hyCast⟩
    · norm_num
    · norm_num
  · rw [hx, valueWidth_eq, valueRoom_eq, hstep, ← hliteral] at hmark
    have hwithin := within_body hliteral (by norm_num) (by norm_num) (by norm_num) (by norm_num)
      .left hy mark hmark
    refine hwithin.mono ⟨?_, le_rfl, ?_, le_rfl⟩
    · norm_num [Align.inset]
    · norm_num [Align.inset]

/-- A text over the whole width of the page keeps to its line. -/
theorem within_wide {pen : Pen} (hpen : Metrics.InSize pen) {y : ℕ} (hy : y ≤ 287)
    {text : List Char} {room : ℕ} (hfits : Metrics.sans.fits pen (finite room) text)
    (hroom : room ≤ 150) (align : Align) :
    ∀ mark ∈ textIn Metrics.sans ⟨margin, finite y, contentWidth, rowHeight⟩ pen text align,
      mark.Within Metrics.sans (textBox 10 y 190 room align) := by
  rw [margin_eq, contentWidth_eq]
  exact within_textIn hpen (by norm_num) hy (by norm_num) (by omega) hfits align

/-! ## The heights of the parts -/

section Heights

variable (m) (p : Params)

def theaterTop : Single := margin + 12

def locationTop : Single := (centered m theaterTop bodyPen p.theater).2

def customerTop : Single := (centered m (locationTop m p) bodyPen p.location).2 + 5

def emailTop : Single := (labelled m (customerTop m p) "Customer:" p.userName).2

def tableTop : Single := (labelled m (emailTop m p) "Email:" p.email).2 + 5

def namesTop : Single := tableTop m p + rowHeight

def orderTop : Single := (row m (namesTop m p) headings).2

def thanksTop : Single := (row m (orderTop m p) (order p)).2

/-- The title and the place of the show, beside the ticket's code. -/
def headMarks : List Mark :=
  textIn m ⟨margin, margin, contentWidth, rowHeight⟩ titlePen "Movie Ticket Invoice".toList .left ++
    (centered m theaterTop bodyPen p.theater).1 ++
    (centered m (locationTop m p) bodyPen p.location).1

/-- Whom the invoice is for. -/
def customerMarks : List Mark :=
  (labelled m (customerTop m p) "Customer:" p.userName).1 ++
    (labelled m (emailTop m p) "Email:" p.email).1

/-- The title of the table. -/
def titlePanel : Panel :=
  let cell : Cell := ⟨margin, tableTop m p, contentWidth, rowHeight⟩
  ⟨cell, textIn m cell labelPen "Order Details".toList .center⟩

/-- The title of the table, the names of its columns, and the order. -/
def tablePanels : List Panel :=
  titlePanel m p ::
    (rowPanels m (namesTop m p) headings ++ rowPanels m (orderTop m p) (order p))

def thanksMarks : List Mark :=
  textIn m ⟨margin, thanksTop m p, contentWidth, rowHeight⟩ footerPen "Thank you!".toList .center

/-- The page is made of these parts. -/
theorem page_eq :
    page m p = (headMarks m p ++ customerMarks m p ++ (tablePanels m p).flatMap Panel.marks ++
      thanksMarks m p, thanksTop m p + rowHeight) := by
  have hpage : page m p = (headMarks m p ++
      (labelled m (customerTop m p) "Customer:" p.userName).1 ++
      (labelled m (emailTop m p) "Email:" p.email).1 ++ (titlePanel m p).marks ++
      (row m (namesTop m p) headings).1 ++ (row m (orderTop m p) (order p)).1 ++ thanksMarks m p,
      thanksTop m p + rowHeight) := by
    simp only [headMarks, titlePanel, thanksMarks, thanksTop, orderTop, namesTop, tableTop,
      emailTop, customerTop, locationTop, theaterTop]
    rfl
  rw [hpage, row_fst, row_fst, customerMarks, tablePanels, List.flatMap_cons, List.flatMap_append]
  simp only [List.append_assoc]

end Heights

/-! ### In millimetres -/

section Millimetres

variable (p : Params)

theorem tracks_theaterTop : Tracks theaterTop 22 := by
  have hten : Tracks margin 10 := tracks_literal (by norm_num)
  exact hten.add (tracks_literal (n := 12) (by norm_num))

/-- A centered text takes ten millimetres a line. -/
theorem tracks_centered {y : Single} {n : ℕ} (hy : Tracks y n) (text : String) :
    Tracks (centered Metrics.sans y bodyPen text).2 (n + 10 * lineCount 120 text) :=
  tracks_stack (tracks_literal (n := 10) (by norm_num)) hy

/-- A labelled text takes five millimetres a line. -/
theorem tracks_labelled {y : Single} {n : ℕ} (hy : Tracks y n) (label value : String) :
    Tracks (labelled Metrics.sans y label value).2 (n + 5 * lineCount 158 value) := by
  have hroom : (contentWidth - labelWidth - 2 * padding : Single) = 158 := by
    rw [valueWidth_eq, valueRoom_eq, literal_eq (n := 158) (by norm_num)]
  have hstep : Tracks labelLine 5 := tracks_literal (by norm_num)
  unfold labelled
  simp only [hroom]
  exact tracks_stack hstep hy

theorem tracks_locationTop :
    Tracks (locationTop Metrics.sans p) (22 + 10 * lineCount 120 p.theater) :=
  tracks_centered tracks_theaterTop p.theater

/-- The height at which the customer's name begins, in millimetres. -/
def Params.customerHeight : ℕ := 27 + 10 * (lineCount 120 p.theater + lineCount 120 p.location)

theorem tracks_customerTop : Tracks (customerTop Metrics.sans p) p.customerHeight := by
  have hfive : Tracks (5 : Single) 5 := tracks_literal (by norm_num)
  have hsum := (tracks_centered (tracks_locationTop p) p.location).add hfive
  have hcount : 22 + 10 * lineCount 120 p.theater + 10 * lineCount 120 p.location + 5 =
      p.customerHeight := by
    unfold Params.customerHeight
    omega
  exact hcount ▸ hsum

theorem tracks_emailTop :
    Tracks (emailTop Metrics.sans p) (p.customerHeight + 5 * lineCount 158 p.userName) :=
  tracks_labelled (tracks_customerTop p) "Customer:" p.userName

/-- The height at which the table begins, in millimetres. -/
def Params.tableHeight : ℕ :=
  p.customerHeight + 5 * (lineCount 158 p.userName + lineCount 158 p.email) + 5

theorem tracks_tableTop : Tracks (tableTop Metrics.sans p) p.tableHeight := by
  have hfive : Tracks (5 : Single) 5 := tracks_literal (by norm_num)
  have hsum := (tracks_labelled (tracks_emailTop p) "Email:" p.email).add hfive
  have hcount : p.customerHeight + 5 * lineCount 158 p.userName + 5 * lineCount 158 p.email + 5 =
      p.tableHeight := by
    unfold Params.tableHeight
    omega
  exact hcount ▸ hsum

theorem tracks_rowHeight : Tracks rowHeight 10 := tracks_literal (by norm_num)

theorem tracks_namesTop : Tracks (namesTop Metrics.sans p) (p.tableHeight + 10) :=
  (tracks_tableTop p).add tracks_rowHeight

theorem tracks_orderTop : Tracks (orderTop Metrics.sans p) (p.tableHeight + 20) := by
  have hrow : Tracks (orderTop Metrics.sans p)
      (p.tableHeight + 10 + 10 * rowLines Metrics.sans headings) := tracks_row (tracks_namesTop p)
  rw [rowLines_headings] at hrow
  exact hrow

theorem tracks_thanksTop : Tracks (thanksTop Metrics.sans p)
    (p.tableHeight + 20 + 10 * rowLines Metrics.sans (order p)) :=
  tracks_row (tracks_orderTop p)

theorem bottom_eq : p.bottom = p.tableHeight + 30 + 10 * rowLines Metrics.sans (order p) := by
  rw [rowLines_order]
  unfold Params.bottom Params.tableHeight Params.customerHeight
  omega

/-- The page ends where it is counted to. -/
theorem tracks_page : Tracks (page Metrics.sans p).2 p.bottom := by
  have hend := (tracks_thanksTop p).add tracks_rowHeight
  have hcount : p.tableHeight + 20 + 10 * rowLines Metrics.sans (order p) + 10 = p.bottom := by
    rw [bottom_eq]
    omega
  rw [page_eq]
  exact hcount ▸ hend

end Millimetres

/-! ## What keeps to the page -/

/-- All units of each text that is wrapped can be counted. -/
def Params.Countable (p : Params) : Prop :=
  ∀ text ∈ [p.theater, p.location, p.userName, p.email, p.item, p.price],
    Metrics.sans.span .regular text.toList < 2 ^ 32

/-- All marks lie on the page, those beside the ticket's code to the left of it, and the table is
panels whose texts lie in their own borders: its title, and the columns' lines. The measured widths
are those of all characters, if all units of each text can be counted. -/
structure OnPage (p : Params) (marks : List Mark) : Prop where
  counted : p.Countable → ∀ mark ∈ marks, mark.Counted Metrics.sans
  inside : ∀ mark ∈ marks, mark.Within Metrics.sans ⟨10, 10, 200, 287⟩
  clear : ∀ x baseline pen s, Mark.text x baseline pen s ∈ marks → baseline < 45 →
    (Mark.text x baseline pen s).Within Metrics.sans ⟨10, 10, 165, 287⟩
  table : ∃ (above below : List Mark) (panels : List Panel),
    marks = above ++ panels.flatMap Panel.marks ++ below ∧
    (∀ mark ∈ above ++ below, mark.IsText) ∧
    (∀ panel ∈ panels, ∀ mark ∈ panel.texts, mark.Within Metrics.sans panel.cell.box) ∧
    panels.map Panel.shown =
      ["Order Details"] :: (headings ++ order p).map (Column.said Metrics.sans)

section Parts

variable {p : Params} (hp : p.bottom ≤ 287)

include hp

theorem tableHeight_le :
    p.tableHeight + 30 + 10 * rowLines Metrics.sans (order p) ≤ 287 := by
  rw [← bottom_eq]
  exact hp

theorem within_headMarks :
    ∀ mark ∈ headMarks Metrics.sans p, mark.Within Metrics.sans ⟨10, 10, 165, 287⟩ := by
  have htable := tableHeight_le hp
  unfold Params.tableHeight Params.customerHeight at htable
  have htitlePen : Metrics.InSize titlePen := .inr (literal_eq (n := 12) (by norm_num))
  have hfits : Metrics.sans.fits titlePen (finite (150 : ℕ)) "Movie Ticket Invoice".toList := by
    decide +kernel
  have htitle := within_wide htitlePen (y := 10) (by norm_num) hfits (by norm_num) .left
  rw [← margin_eq] at htitle
  have htheaterTop : theaterTop = finite (22 : ℕ) := tracks_theaterTop.onPage (by norm_num)
  have hlocationTop := (tracks_locationTop p).onPage (by omega)
  intro mark hmark
  rcases List.mem_append.mp hmark with hmark | hlocation
  · rcases List.mem_append.mp hmark with hmark | htheater
    · refine (htitle mark hmark).mono ⟨?_, ?_, ?_, ?_⟩
      all_goals norm_num [textBox, Align.inset]
    · rw [htheaterTop] at htheater
      refine (within_centered (by omega) mark htheater).mono ⟨?_, ?_, le_rfl, le_rfl⟩
      all_goals norm_num
  · rw [hlocationTop] at hlocation
    refine (within_centered (by omega) mark hlocation).mono ⟨?_, ?_, le_rfl, le_rfl⟩
    · norm_num
    · show (10 : ℚ) ≤ (22 + 10 * lineCount 120 p.theater : ℕ)
      exact_mod_cast (by omega : 10 ≤ 22 + 10 * lineCount 120 p.theater)

omit hp in
/-- What follows the place of the show starts below the ticket's code. -/
theorem le_customerHeight (p : Params) : 47 ≤ p.customerHeight := by
  have htheater := lineCount_pos 120 p.theater
  have hlocation := lineCount_pos 120 p.location
  unfold Params.customerHeight
  omega

theorem within_customerMarks :
    ∀ mark ∈ customerMarks Metrics.sans p, mark.Within Metrics.sans ⟨10, 47, 200, 287⟩ := by
  have htable := tableHeight_le hp
  have hstart := le_customerHeight p
  unfold Params.tableHeight at htable
  have hcustomerTop := (tracks_customerTop p).onPage (by omega)
  have hemailTop := (tracks_emailTop p).onPage (by omega)
  have hcustomer : Metrics.sans.fits labelPen (finite (28 : ℕ)) "Customer:".toList := by
    decide +kernel
  have hemail : Metrics.sans.fits labelPen (finite (28 : ℕ)) "Email:".toList := by decide +kernel
  intro mark hmark
  rcases List.mem_append.mp hmark with hmark | hmark
  · rw [hcustomerTop] at hmark
    refine (within_labelled hcustomer (by omega) mark hmark).mono ⟨le_rfl, ?_, le_rfl, le_rfl⟩
    show (47 : ℚ) ≤ p.customerHeight
    exact_mod_cast hstart
  · rw [hemailTop] at hmark
    refine (within_labelled hemail (by omega) mark hmark).mono ⟨le_rfl, ?_, le_rfl, le_rfl⟩
    show (47 : ℚ) ≤ (p.customerHeight + 5 * lineCount 158 p.userName : ℕ)
    exact_mod_cast (by omega : 47 ≤ p.customerHeight + 5 * lineCount 158 p.userName)

omit hp in
/-- The columns of the table take the whole width of the page. -/
theorem spans_columns (item count unit total : String) (a b c d : Align) :
    Spans 10 [⟨itemColumn, item, a⟩, ⟨countColumn, count, b⟩, ⟨priceColumn, unit, c⟩,
      ⟨priceColumn, total, d⟩] := by
  have hitem : itemColumn = finite (95 : ℕ) := literal_eq (by norm_num)
  have hcount : countColumn = finite (35 : ℕ) := literal_eq (by norm_num)
  have hprice : priceColumn = finite (30 : ℕ) := literal_eq (by norm_num)
  exact .cons hitem (by norm_num) <| .cons hcount (by norm_num) <| .cons hprice (by norm_num) <|
    .cons hprice (by norm_num) <| .nil (by norm_num)

omit hp in
/-- The panels of a row below the ticket's code keep to the page. -/
theorem sound_row_of_le {columns : List Column} (hspans : Spans 10 columns) {y : ℕ} (hy : 47 ≤ y)
    (hbottom : y + 10 * rowLines Metrics.sans columns ≤ 287) :
    ∀ panel ∈ rowPanels Metrics.sans (finite y) columns,
      panel.Sound Metrics.sans ⟨10, 47, 200, 287⟩ := by
  intro panel hpanel
  refine (sound_rowPanels hspans hbottom panel hpanel).mono ⟨le_rfl, ?_, le_rfl, ?_⟩
  · show (47 : ℚ) ≤ y
    exact_mod_cast hy
  · show (y : ℚ) + (10 * rowLines Metrics.sans columns : ℕ) ≤ 287
    exact_mod_cast hbottom

theorem sound_tablePanels :
    ∀ panel ∈ tablePanels Metrics.sans p, panel.Sound Metrics.sans ⟨10, 47, 200, 287⟩ := by
  have htable := tableHeight_le hp
  have hstart := le_customerHeight p
  have hle : 47 ≤ p.tableHeight := by
    unfold Params.tableHeight
    omega
  have htableTop := (tracks_tableTop p).onPage (by omega)
  have hnamesTop := (tracks_namesTop p).onPage (by omega)
  have horderTop := (tracks_orderTop p).onPage (by omega)
  have hlabelPen : Metrics.InSize labelPen := .inl (literal_eq (by norm_num))
  have hfits : Metrics.sans.fits labelPen (finite (150 : ℕ)) "Order Details".toList := by
    decide +kernel
  intro panel hpanel
  rcases List.mem_cons.mp hpanel with rfl | hpanel
  · have htexts : ∀ mark ∈ textIn Metrics.sans
        ⟨margin, tableTop Metrics.sans p, contentWidth, rowHeight⟩ labelPen "Order Details".toList
        .center, mark.Within Metrics.sans
          ⟨(10 : ℕ), p.tableHeight, (10 : ℕ) + (190 : ℕ), p.tableHeight + (10 : ℕ)⟩ := by
      rw [htableTop]
      intro mark hmark
      exact (within_wide hlabelPen (by omega) hfits (by norm_num) .center mark hmark).mono
        (textBox_inside (by norm_num) .center)
    have hsound := Panel.sound_of_texts htexts
    unfold titlePanel
    simp only
    rw [margin_eq, htableTop, contentWidth_eq, rowHeight_eq]
    rw [margin_eq, htableTop, contentWidth_eq, rowHeight_eq] at hsound
    refine hsound.mono ⟨?_, ?_, ?_, ?_⟩
    · norm_num
    · show (47 : ℚ) ≤ p.tableHeight
      exact_mod_cast hle
    · norm_num
    · show (p.tableHeight : ℚ) + (10 : ℕ) ≤ 287
      exact_mod_cast (by omega : p.tableHeight + 10 ≤ 287)
  rcases List.mem_append.mp hpanel with hpanel | hpanel
  · rw [hnamesTop] at hpanel
    have hspans : Spans 10 headings := spans_columns _ _ _ _ _ _ _ _
    have hlines := rowLines_headings
    exact sound_row_of_le hspans (by omega) (by omega) panel hpanel
  · rw [horderTop] at hpanel
    have hspans : Spans 10 (order p) := spans_columns _ _ _ _ _ _ _ _
    exact sound_row_of_le hspans (by omega) (by omega) panel hpanel

theorem within_thanksMarks :
    ∀ mark ∈ thanksMarks Metrics.sans p, mark.Within Metrics.sans ⟨10, 47, 200, 287⟩ := by
  have htable := tableHeight_le hp
  have hstart := le_customerHeight p
  have hle : 47 ≤ p.tableHeight := by
    unfold Params.tableHeight
    omega
  have hthanksTop := (tracks_thanksTop p).onPage (by omega)
  have hfooterPen : Metrics.InSize footerPen := .inl (literal_eq (by norm_num))
  have hfits : Metrics.sans.fits footerPen (finite (150 : ℕ)) "Thank you!".toList := by
    decide +kernel
  intro mark hmark
  unfold thanksMarks at hmark
  rw [hthanksTop] at hmark
  have hwithin := within_wide hfooterPen (by omega) hfits (by norm_num) .center mark hmark
  refine (hwithin.mono (textBox_inside (by norm_num) .center)).mono ⟨?_, ?_, ?_, ?_⟩
  · norm_num
  · show (47 : ℚ) ≤ (p.tableHeight + 20 + 10 * rowLines Metrics.sans (order p) : ℕ)
    exact_mod_cast (by omega : 47 ≤ p.tableHeight + 20 + 10 * rowLines Metrics.sans (order p))
  · norm_num
  · show ((p.tableHeight + 20 + 10 * rowLines Metrics.sans (order p) : ℕ) : ℚ) + 10 ≤ 287
    exact_mod_cast
      (by omega : p.tableHeight + 20 + 10 * rowLines Metrics.sans (order p) + 10 ≤ 287)

end Parts

/-- A text below the ticket's code does not stand beside it. -/
theorem not_beside_code {b : Box} (hb : 47 ≤ b.top) {x baseline : Single} {pen : Pen} {s : String}
    (h : (Mark.text x baseline pen s).Within m b) : ¬ baseline < 45 := by
  obtain ⟨-, height, -, rfl, -, htop, -⟩ := h
  have hliteral : (45 : Single) = finite (45 : ℕ) := literal_eq (by norm_num)
  rw [hliteral]
  rintro ⟨hle, -⟩
  have hheight : height ≤ (45 : ℕ) := of_decide_eq_true hle
  unfold slack at htop
  push_cast at hheight
  linarith

/-- The parts above the table are texts. -/
theorem isText_above (p : Params) :
    ∀ mark ∈ headMarks m p ++ customerMarks m p, mark.IsText := by
  have hlabelled : ∀ y label value, ∀ mark ∈ (labelled m y label value).1, mark.IsText := by
    intro y label value mark hmark
    rcases List.mem_append.mp hmark with hmark | hmark
    · exact isText_textIn mark hmark
    · exact isText_stack mark hmark
  intro mark hmark
  rcases List.mem_append.mp hmark with hmark | hmark
  · rcases List.mem_append.mp hmark with hmark | hmark
    · rcases List.mem_append.mp hmark with hmark | hmark
      · exact isText_textIn mark hmark
      · exact isText_stack mark hmark
    · exact isText_stack mark hmark
  · rcases List.mem_append.mp hmark with hmark | hmark
    · exact hlabelled _ _ _ mark hmark
    · exact hlabelled _ _ _ mark hmark

/-- The panels of the table say its title, and what its columns do. -/
theorem shown_tablePanels (p : Params) :
    (tablePanels m p).map Panel.shown =
      ["Order Details"] :: (headings ++ order p).map (Column.said m) := by
  have htitle : (titlePanel m p).shown = ["Order Details"] := by
    have hnonempty : ¬ "Order Details".toList.isEmpty := by decide +kernel
    unfold titlePanel Panel.shown
    rw [shown_textIn, if_neg hnonempty, String.ofList_toList]
  rw [tablePanels, List.map_cons, List.map_append, List.map_append, rowPanels, rowPanels,
    shown_panelsOf, shown_panelsOf, htitle]

/-! ### What is counted -/

section Counted

variable {p : Params}

theorem counted_labelled {y : Single} {label value : String}
    (hlabel : Metrics.sans.span labelPen.weight label.toList < 2 ^ 32)
    (hvalue : Metrics.sans.span .regular value.toList < 2 ^ 32) :
    ∀ mark ∈ (labelled Metrics.sans y label value).1, mark.Counted Metrics.sans := by
  intro mark hmark
  rcases List.mem_append.mp hmark with hmark | hmark
  · exact counted_textIn hlabel mark hmark
  · refine counted_stack ?_ mark hmark
    rw [valueWidth_eq, valueRoom_eq]
    exact Metrics.span_lt_of_mem_wrap_sans (by norm_num) (by norm_num) hvalue

theorem counted_centered {y : Single} {text : String}
    (h : Metrics.sans.span .regular text.toList < 2 ^ 32) :
    ∀ mark ∈ (centered Metrics.sans y bodyPen text).1, mark.Counted Metrics.sans := by
  have hroom : centeredRoom = finite (120 : ℕ) := literal_eq (by norm_num)
  unfold centered
  rw [hroom]
  exact counted_stack (Metrics.span_lt_of_mem_wrap_sans (by norm_num) (by norm_num) h)

theorem counted_headMarks (h : p.Countable) :
    ∀ mark ∈ headMarks Metrics.sans p, mark.Counted Metrics.sans := by
  have htitle : Metrics.sans.span titlePen.weight "Movie Ticket Invoice".toList < 2 ^ 32 := by
    decide +kernel
  intro mark hmark
  rcases List.mem_append.mp hmark with hmark | hlocation
  · rcases List.mem_append.mp hmark with hmark | htheater
    · exact counted_textIn htitle mark hmark
    · exact counted_centered (h p.theater (by simp)) mark htheater
  · exact counted_centered (h p.location (by simp)) mark hlocation

theorem counted_customerMarks (h : p.Countable) :
    ∀ mark ∈ customerMarks Metrics.sans p, mark.Counted Metrics.sans := by
  intro mark hmark
  rcases List.mem_append.mp hmark with hmark | hmark
  · exact counted_labelled (by decide +kernel) (h p.userName (by simp)) mark hmark
  · exact counted_labelled (by decide +kernel) (h p.email (by simp)) mark hmark

theorem counted_tablePanels (h : p.Countable) :
    ∀ panel ∈ tablePanels Metrics.sans p, ∀ mark ∈ panel.texts, mark.Counted Metrics.sans := by
  have htitle : Metrics.sans.span labelPen.weight "Order Details".toList < 2 ^ 32 := by
    decide +kernel
  have hheadings : ∀ c ∈ headings, Metrics.sans.span .regular c.text.toList < 2 ^ 32 := by
    decide +kernel
  have horder : ∀ c ∈ order p, Metrics.sans.span .regular c.text.toList < 2 ^ 32 := by
    have hcount : Metrics.sans.span .regular "1".toList < 2 ^ 32 := by decide +kernel
    have hitem := h p.item (by simp)
    have hprice := h p.price (by simp)
    unfold order
    exact List.forall_mem_cons.mpr ⟨hitem, List.forall_mem_cons.mpr ⟨hcount,
      List.forall_mem_cons.mpr ⟨hprice, List.forall_mem_singleton.mpr hprice⟩⟩⟩
  intro panel hpanel
  rcases List.mem_cons.mp hpanel with rfl | hpanel
  · unfold titlePanel
    dsimp only
    exact counted_textIn htitle
  · rcases List.mem_append.mp hpanel with hpanel | hpanel
    · exact counted_panelsOf (spans_columns _ _ _ _ _ _ _ _) hheadings panel hpanel
    · exact counted_panelsOf (spans_columns _ _ _ _ _ _ _ _) horder panel hpanel

/-- All units of the page are counted. -/
theorem counted_page (h : p.Countable) :
    ∀ mark ∈ (page Metrics.sans p).1, mark.Counted Metrics.sans := by
  have hthanks : Metrics.sans.span footerPen.weight "Thank you!".toList < 2 ^ 32 := by
    decide +kernel
  rw [page_eq]
  intro mark hmark
  rcases List.mem_append.mp hmark with hmark | hmark
  · rcases List.mem_append.mp hmark with hmark | hmark
    · rcases List.mem_append.mp hmark with hmark | hmark
      · exact counted_headMarks h mark hmark
      · exact counted_customerMarks h mark hmark
    · obtain ⟨panel, hpanel, hmark⟩ := List.mem_flatMap.mp hmark
      rcases List.mem_cons.mp hmark with rfl | hmark
      · exact trivial
      · exact counted_tablePanels h panel hpanel mark hmark
  · exact counted_textIn hthanks mark hmark

end Counted

/-- A page that ends above the lower margin keeps to itself. -/
theorem onPage_page {p : Params} (hp : p.bottom ≤ 287) : OnPage p (page Metrics.sans p).1 := by
  have hhead := within_headMarks hp
  have hcustomer := within_customerMarks hp
  have hpanels := sound_tablePanels hp
  have hthanks := within_thanksMarks hp
  have hparts : ∀ mark ∈ headMarks Metrics.sans p ++ customerMarks Metrics.sans p ++
      (tablePanels Metrics.sans p).flatMap Panel.marks ++ thanksMarks Metrics.sans p,
      mark ∈ headMarks Metrics.sans p ∨ mark.Within Metrics.sans ⟨10, 47, 200, 287⟩ := by
    intro mark hmark
    rcases List.mem_append.mp hmark with hmark | hmark
    · rcases List.mem_append.mp hmark with hmark | hmark
      · exact (List.mem_append.mp hmark).imp_right (hcustomer mark)
      · obtain ⟨panel, hpanel, hmark⟩ := List.mem_flatMap.mp hmark
        exact .inr ((hpanels panel hpanel).marks mark hmark)
    · exact .inr (hthanks mark hmark)
  refine ⟨counted_page, ?_, ?_, ?_⟩
  all_goals rw [page_eq]
  · intro mark hmark
    rcases hparts mark hmark with hmark | hwithin
    · refine (hhead mark hmark).mono ⟨le_rfl, le_rfl, ?_, le_rfl⟩
      norm_num
    · refine hwithin.mono ⟨le_rfl, ?_, le_rfl, le_rfl⟩
      norm_num
  · intro x baseline pen s hmark hbeside
    rcases hparts _ hmark with hmark | hwithin
    · exact hhead _ hmark
    · exact absurd hbeside (not_beside_code le_rfl hwithin)
  · refine ⟨headMarks Metrics.sans p ++ customerMarks Metrics.sans p, thanksMarks Metrics.sans p,
      tablePanels Metrics.sans p, rfl, ?_, fun panel hpanel => (hpanels panel hpanel).texts,
      shown_tablePanels p⟩
    intro mark hmark
    rcases List.mem_append.mp hmark with hmark | hmark
    · exact isText_above p mark hmark
    · exact isText_textIn mark hmark

/-- An invoice is laid out unless its lines take it beyond the lower margin; then all of it keeps to
the page, to the left of the ticket's code and to the borders of the table. -/
theorem layout_onPage (p : Params) :
    (layout Metrics.sans p = .error .overflow ↔ 287 < p.bottom) ∧
      (p.bottom ≤ 287 → ∃ marks, layout Metrics.sans p = .ok marks ∧ OnPage p marks) := by
  have hlayout : layout Metrics.sans p =
      if 287 < p.bottom then .error .overflow else .ok (page Metrics.sans p).1 := by
    show (if bottomLimit < (page Metrics.sans p).2 then Except.error Problem.overflow
      else .ok (page Metrics.sans p).1) = _
    simp only [(tracks_page p).limit_lt_iff]
  rw [hlayout]
  constructor
  · split_ifs with hlong
    · exact iff_of_true rfl hlong
    · exact iff_of_false nofun hlong
  · intro hp
    rw [if_neg (by omega)]
    exact ⟨_, rfl, onPage_page hp⟩

/-- An invoice whose description of the ticket takes a second line. -/
def plainInvoice : Params where
  booking := .ofInt 42
  userName := "an"
  email := "an@example.com"
  amount := 500000
  currency := "VND"
  movie := "Dune (Part Two)"
  seat := "C12"
  theater := "Galaxy"
  location := "District 1"
  screen := "Screen 3"
  start := 1700000000000
  finish := 1700007200000

theorem plainInvoice_onPage :
    plainInvoice.bottom = 112 ∧
      ∃ marks, layout Metrics.sans plainInvoice = .ok marks ∧ OnPage plainInvoice marks := by
  have hbottom : plainInvoice.bottom = 112 := by decide +kernel
  exact ⟨hbottom, (layout_onPage plainInvoice).2 (by omega)⟩

end BookingNotices.Invoice
