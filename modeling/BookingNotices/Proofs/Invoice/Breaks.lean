import BookingNotices.Proofs.Invoice.Wrap

/-!
# No line too many

* `crowded_of_run` : pieces among which some are too many for a line are too many themselves;
* `wrap_optimal`   : in a finite size every break is forced, and no other way to put the pieces into
  lines takes fewer, if 32 bits hold the units of all pieces and of the blanks between them;
* `wrap_breaks_needlessly` : what a width that is no number, that is beyond all numbers, or of which
  units are not counted does to this.
-/

namespace BookingNotices.Invoice.Metrics

open Numeric Numeric.Single Text

variable {m : Metrics} {pen : Pen} {room : Single} {points : ℚ}

/-! ## Pieces in one line -/

theorem crowded_iff {pieces : List (List Char)} :
    m.crowded pen room pieces ↔ ¬ m.width pen (inLine pieces) ≤ room := by
  unfold crowded fits
  rw [Bool.not_eq_true', decide_eq_false_iff_not]

/-- Pieces that are too many for a line exceed the room. -/
theorem exceeds_of_crowded (hroom : 0 ≤ room) (hsize : pen.size = finite points)
    {pieces : List (List Char)} (h : m.crowded pen room pieces) :
    m.exceeds pen room (inLine pieces) := by
  refine (fits_or_exceeds hroom (width_ne_undefined hsize _)).resolve_left ?_
  simpa [crowded] using h

/-- Pieces among which some are too many for a line are too many themselves. -/
theorem crowded_of_run (hroom : 0 ≤ room) (hsize : pen.size = finite points)
    {run cut : List (List Char)} (hcut : run.Sublist cut)
    (hspan : m.span pen.weight (inLine cut) < 2 ^ 32) (h : m.crowded pen room run) :
    m.crowded pen room cut := by
  have hexceeds := exceeds_of_crowded hroom hsize h
  simpa [crowded] using not_fits_of_exceeds hroom (span_inLine_le hcut) hspan hexceeds

/-! ## Breaks -/

/-- A break inside a word is forced. -/
theorem forced_splitWord (word : List Char) :
    (m.splitWord pen room word).IsChain fun piece next =>
      ∃ c, next.head? = some c ∧ room < m.width pen (piece ++ [c]) := by
  unfold splitWord
  split_ifs
  · exact .singleton word
  · cases word with
    | nil => exact .nil
    | cons c cs =>
      dsimp only
      rw [splitFrom_eq]
      refine (forced_greedily (m.exceeds pen room) [c] cs).imp ?_
      rintro piece next ⟨c, hc, hexceeds⟩
      exact ⟨c, hc, of_decide_eq_true hexceeds⟩

/-- The next line is begun because its first piece is too much for the one before. -/
theorem isChain_of_forced (hroom : 0 ≤ room) (hsize : pen.size = finite points)
    {groups : List (List (List Char))} (hforced : Forced (m.crowded pen room) groups)
    (hgroups : [] ∉ groups) :
    groups.IsChain fun group next => ∃ piece, next.head? = some piece ∧
      room < m.width pen (inLine group ++ ' ' :: piece) := by
  induction groups with
  | nil => exact .nil
  | cons g rest ih =>
    have hg : g ≠ [] := (List.ne_of_not_mem_cons hgroups).symm
    cases rest with
    | nil => exact .singleton g
    | cons h rest =>
      obtain ⟨⟨piece, hpiece, hcrowded⟩, hrest⟩ := List.isChain_cons_cons.mp hforced
      refine List.isChain_cons_cons.mpr
        ⟨⟨piece, hpiece, ?_⟩, ih hrest (List.not_mem_of_not_mem_cons hgroups)⟩
      rw [← inLine_concat hg]
      exact of_decide_eq_true (exceeds_of_crowded hroom hsize hcrowded)

/-- In a finite size every break of a text that is not blank is forced: a piece exceeds the room
with the first character of the next one, and a line with the first piece of the next one. And no
way to put the pieces into lines that fit the room, or are one piece, takes fewer lines, if 32 bits
hold the units of all pieces with a blank between each two. -/
theorem wrap_optimal (m : Metrics) (pen : Pen) (hsize : pen.size = finite points)
    (hroom : 0 ≤ room) {text : List Char} (htext : ∃ c ∈ text, isBlank c = false) :
    (∀ word ∈ words text, (m.splitWord pen room word).IsChain fun piece next =>
      ∃ c, next.head? = some c ∧ room < m.width pen (piece ++ [c])) ∧
    (∃ groups : List (List (List Char)), groups.flatten = m.pieces pen room text ∧ [] ∉ groups ∧
      m.wrap pen room text = groups.map inLine ∧
      groups.IsChain fun group next => ∃ piece, next.head? = some piece ∧
        room < m.width pen (inLine group ++ ' ' :: piece)) ∧
    (m.span pen.weight (inLine (m.pieces pen room text)) < 2 ^ 32 →
      ∀ cuts : List (List (List Char)), cuts.flatten = m.pieces pen room text →
        (∀ cut ∈ cuts, m.width pen (inLine cut) ≤ room ∨ cut.length = 1) →
        (m.wrap pen room text).length ≤ cuts.length) := by
  have hsolid : ink text ≠ [] := by
    obtain ⟨c, hc, hsolid⟩ := htext
    intro hempty
    rw [ink_eq_nil.mp hempty c hc] at hsolid
    cases hsolid
  have hgroups := flatten_groups m pen room text
  have hforced := forced_groups m pen room text
  have hnonempty := nil_not_mem_groups m pen room text
  have hlines := wrap_eq_map m pen room hsolid
  refine ⟨fun word _ => forced_splitWord word, ⟨m.groups pen room text, hgroups, hnonempty, hlines,
    isChain_of_forced hroom hsize hforced hnonempty⟩, ?_⟩
  intro hspan cuts hcuts hfits
  rw [hlines, List.length_map]
  have hfront : cuts.flatten = [] ++ (m.groups pen room text).flatten := hcuts.trans hgroups.symm
  refine hforced.length_le hnonempty hfront ?_
  intro cut hcut run hwithin hrun hcrowded
  have hcutSpan : m.span pen.weight (inLine cut) < 2 ^ 32 :=
    (span_inLine_le (hcuts ▸ List.sublist_flatten_of_mem hcut)).trans_lt hspan
  rcases hfits cut hcut with hcutFits | hsingle
  · exact crowded_iff.mp (crowded_of_run hroom hsize hwithin.sublist hcutSpan hcrowded) hcutFits
  · have hle := hwithin.length_le
    omega

/-- A word that is broken between two others takes a third line. -/
theorem long_word_takes_three_lines :
    (0 ≤ (13 : Single) ∧ (10 : Single) = finite 10 ∧
      (∃ c ∈ "to mmmmm us".toList, isBlank c = false) ∧
      sans.span .regular (inLine (sans.pieces ⟨.regular, 10⟩ 13 "to mmmmm us".toList)) < 2 ^ 32) ∧
    ∀ cuts : List (List (List Char)),
      cuts.flatten = ["to".toList, "mmm".toList, "mm".toList, "us".toList] →
      (∀ cut ∈ cuts, sans.width ⟨.regular, 10⟩ (inLine cut) ≤ 13 ∨ cut.length = 1) →
      3 ≤ cuts.length := by
  have hroom : 0 ≤ (13 : Single) := by decide +kernel
  have hsize : (10 : Single) = finite 10 := ofRat_natCast (n := 10) (by norm_num)
  have htext : ∃ c ∈ "to mmmmm us".toList, isBlank c = false := ⟨'t', by decide +kernel, rfl⟩
  have hspan : sans.span .regular
      (inLine (sans.pieces ⟨.regular, 10⟩ 13 "to mmmmm us".toList)) < 2 ^ 32 := by
    decide +kernel
  have hpieces : sans.pieces ⟨.regular, 10⟩ 13 "to mmmmm us".toList =
      ["to".toList, "mmm".toList, "mm".toList, "us".toList] := by
    decide +kernel
  have hlines : (sans.wrap ⟨.regular, 10⟩ 13 "to mmmmm us".toList).length = 3 := by decide +kernel
  obtain ⟨-, -, hoptimal⟩ := wrap_optimal sans ⟨.regular, 10⟩ hsize hroom htext
  replace hoptimal := hoptimal hspan
  rw [hpieces, hlines] at hoptimal
  exact ⟨⟨hroom, hsize, htext, hspan⟩, hoptimal⟩

/-! ### Breaks that need not be -/

/-- Metrics in which nothing moves the pen. -/
def weightless : Metrics where
  advance _ _ := 0

/-- Two words of the widest characters, and a third that is longer by one. -/
def heavyText (n : ℕ) : List Char :=
  strokes (n + 1) ++ '\n' :: (strokes (n + 1) ++ '\n' :: strokes (n + 2))

theorem span_heavyText (n : ℕ) : heavy.span .regular (heavyText n) = (3 * n + 4) * 65535 := by
  have hend : heavy.advance .regular '\n' = 0 := rfl
  unfold heavyText
  simp only [span_append, span_cons, span_heavy (end_not_mem_strokes _), length_strokes, hend]
  omega

theorem pieces_heavyText {n : ℕ} (hfirst : heavyWidth (n + 1) ≤ room)
    (hlast : heavyWidth (n + 2) ≤ room) :
    heavy.pieces ⟨.regular, 10⟩ room (heavyText n) =
      [strokes (n + 1), strokes (n + 1), strokes (n + 2)] := by
  have hwords : words (heavyText n) = [strokes (n + 1), strokes (n + 1), strokes (n + 2)] := by
    unfold heavyText
    rw [words_append_cons (strokes_solid _) (strokes_ne_nil n) rfl,
      words_append_cons (strokes_solid _) (strokes_ne_nil n) rfl, words_strokes]
  have hfits := fits_strokes.mpr hfirst
  rw [pieces, hwords, List.flatMap_cons, List.flatMap_cons, List.flatMap_singleton,
    splitWord_of_fits hfits, splitWord_of_fits (fits_strokes.mpr hlast)]
  rfl

/-- No two of the words are put into one line. -/
theorem wrap_heavyText {n : ℕ} (hlast : heavyWidth (n + 2) ≤ room)
    (hfirst : heavyWidth (n + 1) ≤ room) (hjoined : room < heavyWidth (2 * n + 3))
    (hbehind : room < heavyWidth (2 * n + 4)) :
    heavy.wrap ⟨.regular, 10⟩ room (heavyText n) =
      [strokes (n + 1), strokes (n + 1), strokes (n + 2)] := by
  have hsecond : ¬ heavy.fits ⟨.regular, 10⟩ room (strokes (n + 1) ++ ' ' :: strokes (n + 1)) := by
    rw [fits, width_joined, decide_eq_true_eq, show n + 1 + (n + 1) + 1 = 2 * n + 3 by omega]
    exact not_le_of_lt hjoined
  have hthird : ¬ heavy.fits ⟨.regular, 10⟩ room (strokes (n + 1) ++ ' ' :: strokes (n + 2)) := by
    rw [fits, width_joined, decide_eq_true_eq, show n + 1 + (n + 2) + 1 = 2 * n + 4 by omega]
    exact not_le_of_lt hbehind
  rw [wrap, pieces_heavyText hfirst hlast]
  dsimp only
  rw [fill, if_neg hsecond, fill, if_neg hthird, fill]

/-- In one line they have the width of what is left of their units. -/
theorem width_heavyText (n : ℕ) :
    heavy.width ⟨.regular, 10⟩ (inLine [strokes (n + 1), strokes (n + 1), strokes (n + 2)]) =
      heavyWidth (3 * n + 6) := by
  rw [inLine_cons_cons, inLine_cons_cons, inLine_singleton, width_heavy]
  · simp only [List.length_append, List.length_cons, length_strokes]
    congr 1
    omega
  · simp [end_not_mem_strokes]

/-- What breaks a line that would not have to be broken. A line that has no width does not fit, and
is not too wide: in a size without a value, or an infinite one where nothing moves the pen. A line
that is not too wide does not fit where its width is beyond the numbers in between. And units that
are not counted let words fit into one line of which no two do. -/
theorem wrap_breaks_needlessly :
    (∀ size, (∀ points, size ≠ finite points) →
      weightless.wrap ⟨.regular, size⟩ 50 "to us".toList = ["to".toList, "us".toList] ∧
        ¬ 50 < weightless.width ⟨.regular, size⟩ "to us".toList) ∧
    (sans.measure ⟨.regular, finite (2 ^ 127)⟩ "to us".toList ≤ 2 ^ 127 ∧
      sans.wrap ⟨.regular, finite (2 ^ 127)⟩ (finite (2 ^ 127)) "to us".toList =
        ["to".toList, "us".toList]) ∧
    (heavy.span .regular (heavyText 21844) < 2 ^ 32 ∧
      (heavy.wrap ⟨.regular, 10⟩ (heavyWidth 21846) (heavyText 21844)).length = 3 ∧
      heavy.width ⟨.regular, 10⟩
        (inLine (heavy.pieces ⟨.regular, 10⟩ (heavyWidth 21846) (heavyText 21844))) ≤
          heavyWidth 21846) := by
  have hfirst : heavyWidth (21844 + 1) ≤ heavyWidth 21846 := by decide +kernel
  have hlast : heavyWidth (21844 + 2) ≤ heavyWidth 21846 := by decide +kernel
  refine ⟨?_, by decide +kernel, ?_, ?_, ?_⟩
  · intro size hsize
    rcases size with points | s | _
    · exact absurd rfl (hsize points)
    · cases s <;> decide +kernel
    · decide +kernel
  · rw [span_heavyText]
    norm_num
  · rw [wrap_heavyText hlast hfirst (by decide +kernel) (by decide +kernel)]
    rfl
  · rw [pieces_heavyText hfirst hlast, width_heavyText]
    decide +kernel

end BookingNotices.Invoice.Metrics
