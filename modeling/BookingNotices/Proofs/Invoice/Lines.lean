import BookingNotices.Invoice.Wrap
import BookingNotices.Proofs.Invoice.Greedy
import BookingNotices.Proofs.Invoice.Width

/-!
# Lines of a text

* `splitFrom_eq`, `wrap_eq_map` : a word is cut into pieces greedily, and the pieces into lines
  (`groups`);
* `flatten_pieces`, `ink_wrap` : the pieces, and the lines, say what the text does but for its
  blanks;
* `fits_or_single_of_mem_wrap` : a line fits its room, or is one character;
* `Laid`      : how words stand in lines: a space only between two words, a break inside a word only
  where what is left of it does not fit;
* `laid_wrap` : the words of a text are laid into its lines, in every size, if 32 bits hold the
  units of all pieces and of the blanks between them;
* `wrap_sets_text` : all of it.

The pieces of a word go through `fill` as whole words do. That no space comes between two of them is
because the room is exceeded by a piece with the first character of the next one already, unless the
units of the two are counted from zero again (`wrap_strokes`).
-/

namespace BookingNotices.Invoice.Metrics

open Numeric Numeric.Single Text

variable {m : Metrics} {pen : Pen} {room : Single}

/-! ## Pieces -/

section Pieces

variable (m pen room)

theorem splitFrom_eq (piece word : List Char) :
    m.splitFrom pen room piece word = greedily (m.exceeds pen room) piece word := by
  induction word generalizing piece with
  | nil => rfl
  | cons c cs ih => rw [splitFrom, greedily, ih, ih]

/-- A word is its pieces one after another. -/
theorem flatten_splitWord (word : List Char) : (m.splitWord pen room word).flatten = word := by
  unfold splitWord
  split_ifs
  · exact List.flatten_singleton
  · cases word with
    | nil => rfl
    | cons c cs =>
      dsimp only
      rw [splitFrom_eq, flatten_greedily, List.singleton_append]

theorem splitWord_ne_nil {word : List Char} (hword : word ≠ []) :
    m.splitWord pen room word ≠ [] := by
  intro h
  have hflatten := flatten_splitWord m pen room word
  rw [h] at hflatten
  exact hword hflatten.symm

theorem nil_not_mem_splitWord {word : List Char} (hword : word ≠ []) :
    [] ∉ m.splitWord pen room word := by
  unfold splitWord
  split_ifs
  · simpa using hword.symm
  · cases word with
    | nil => exact absurd rfl hword
    | cons c cs =>
      dsimp only
      rw [splitFrom_eq]
      exact nil_not_mem_greedily _ (List.cons_ne_nil c []) cs

/-- The pieces of a text are its characters that are not blank. -/
theorem flatten_pieces (text : List Char) : (m.pieces pen room text).flatten = ink text := by
  rw [← flatten_words]
  unfold pieces
  induction words text with
  | nil => rfl
  | cons w ws ih =>
    rw [List.flatMap_cons, List.flatten_append, ih, flatten_splitWord, List.flatten_cons]

theorem pieces_eq_nil {text : List Char} : m.pieces pen room text = [] ↔ ink text = [] := by
  rw [← words_eq_nil]
  constructor
  · intro h
    refine List.eq_nil_iff_forall_not_mem.mpr fun w hw => ?_
    exact splitWord_ne_nil m pen room (ne_nil_of_mem_words hw) (List.flatMap_eq_nil_iff.mp h w hw)
  · intro h
    rw [pieces, h, List.flatMap_nil]

theorem nil_not_mem_pieces (text : List Char) : [] ∉ m.pieces pen room text := by
  intro h
  obtain ⟨word, hword, hpiece⟩ := List.mem_flatMap.mp h
  exact nil_not_mem_splitWord m pen room (ne_nil_of_mem_words hword) hpiece

variable {m pen room}

/-- What fits with the piece begun goes into it. -/
theorem splitFrom_append (hroom : 0 ≤ room) {piece word : List Char}
    (hfits : m.fits pen room (piece ++ word)) (hspan : m.span pen.weight (piece ++ word) < 2 ^ 32)
    (rest : List Char) :
    m.splitFrom pen room piece (word ++ rest) = m.splitFrom pen room (piece ++ word) rest := by
  induction word generalizing piece with
  | nil => rw [List.append_nil, List.nil_append]
  | cons c cs ih =>
    have hword : piece ++ [c] ++ cs = piece ++ c :: cs := List.append_cons piece c cs |>.symm
    have hle : m.span pen.weight (piece ++ [c]) ≤ m.span pen.weight (piece ++ c :: cs) := by
      rw [← hword, span_append _ (piece ++ [c])]
      exact Nat.le_add_right _ _
    have hwithin : ¬ m.exceeds pen room (piece ++ [c]) :=
      fun hexceeds => not_fits_of_exceeds hroom hle hspan hexceeds hfits
    rw [List.cons_append, splitFrom, if_neg hwithin, ih (hword ▸ hfits) (hword ▸ hspan), hword]

theorem splitWord_of_fits {word : List Char} (h : m.fits pen room word) :
    m.splitWord pen room word = [word] :=
  if_pos h

theorem sublist_of_mem_pieces {text p : List Char} (h : p ∈ m.pieces pen room text) :
    p.Sublist text := by
  have hink : p.Sublist (ink text) := flatten_pieces m pen room text ▸ List.sublist_flatten_of_mem h
  exact hink.trans List.filter_sublist

/-- A piece fits the room, is one character, or does not exceed the room. -/
theorem mem_splitWord {word p : List Char} (h : p ∈ m.splitWord pen room word) :
    m.fits pen room p ∨ p.length = 1 ∨ ¬ m.exceeds pen room p := by
  unfold splitWord at h
  split_ifs at h with hfits
  · exact .inl (List.mem_singleton.mp h ▸ hfits)
  · cases word with
    | nil => cases h
    | cons c cs =>
      dsimp only at h
      rw [splitFrom_eq] at h
      rcases mem_greedily h with rfl | h
      · exact .inr (.inl rfl)
      · exact .inr h

end Pieces

/-! ## Lines -/

section Lines

/-- Pieces in one line. -/
def inLine (pieces : List (List Char)) : List Char := [' '].intercalate pieces

@[simp] theorem inLine_singleton (piece : List Char) : inLine [piece] = piece :=
  List.intercalate_singleton

@[simp] theorem inLine_cons_cons (piece next : List Char) (rest : List (List Char)) :
    inLine (piece :: next :: rest) = piece ++ ' ' :: inLine (next :: rest) := by
  rw [inLine, List.intercalate_cons_cons, List.append_assoc]
  rfl

theorem inLine_concat {pieces : List (List Char)} (h : pieces ≠ []) (piece : List Char) :
    inLine (pieces ++ [piece]) = inLine pieces ++ ' ' :: piece := by
  induction pieces with
  | nil => exact absurd rfl h
  | cons first rest ih =>
    cases rest with
    | nil => simp
    | cons next rest =>
      rw [List.cons_append, List.cons_append, inLine_cons_cons, ← List.cons_append,
        ih (List.cons_ne_nil next rest), inLine_cons_cons, List.append_assoc, List.cons_append]

theorem ink_inLine (pieces : List (List Char)) : ink (inLine pieces) = ink pieces.flatten := by
  have hspace : isBlank ' ' = true := rfl
  induction pieces with
  | nil => rfl
  | cons first rest ih =>
    cases rest with
    | nil => simp
    | cons next rest =>
      rw [inLine_cons_cons, ink_append, ink_cons, if_pos hspace, ih, ← ink_append,
        List.flatten_cons (l := first)]

theorem infix_inLine {pieces : List (List Char)} {piece : List Char} (h : piece ∈ pieces) :
    piece <:+: inLine pieces := by
  induction pieces with
  | nil => cases h
  | cons first rest ih =>
    cases rest with
    | nil => rw [List.mem_singleton.mp h, inLine_singleton]
    | cons next rest =>
      rw [inLine_cons_cons]
      rcases List.mem_cons.mp h with rfl | h
      · exact (List.prefix_append piece _).isInfix
      · refine (ih h).trans (List.IsSuffix.isInfix ?_)
        exact (List.suffix_cons ' ' _).trans (List.suffix_append first _)

/-- A line of pieces that are not empty is not empty. -/
theorem inLine_ne_nil {pieces : List (List Char)} (hpieces : pieces ≠ []) (hempty : [] ∉ pieces) :
    inLine pieces ≠ [] := by
  obtain ⟨piece, rest, rfl⟩ := List.exists_cons_of_ne_nil hpieces
  intro h
  have hpiece : piece <:+: inLine (piece :: rest) := infix_inLine List.mem_cons_self
  rw [h, List.infix_nil] at hpiece
  exact hempty (hpiece ▸ List.mem_cons_self)

/-- The pieces of a line and the blanks between them move the pen. -/
theorem span_inLine (weight : Weight) (pieces : List (List Char)) :
    m.span weight (inLine pieces) =
      m.span weight pieces.flatten + (pieces.length - 1) * m.advance weight ' ' := by
  induction pieces with
  | nil => simp [inLine]
  | cons first rest ih =>
    cases rest with
    | nil => simp
    | cons next rest =>
      have hblanks : (first :: next :: rest).length - 1 = ((next :: rest).length - 1) + 1 := rfl
      rw [inLine_cons_cons, span_append, span_cons, ih, List.flatten_cons (l := first),
        span_append, hblanks, Nat.succ_mul]
      omega

/-- Pieces without blanks between them are not wider than the line that begins with them. -/
theorem span_flatten_le (weight : Weight) (front behind : List (List Char)) :
    m.span weight front.flatten ≤ m.span weight (inLine (front ++ behind)) := by
  rw [span_inLine, List.flatten_append, span_append]
  omega

/-- Some pieces of a line are not wider than all of them. -/
theorem span_inLine_le {weight : Weight} {run pieces : List (List Char)}
    (h : run.Sublist pieces) :
    m.span weight (inLine run) ≤ m.span weight (inLine pieces) := by
  rw [span_inLine, span_inLine]
  have hflatten : m.span weight run.flatten ≤ m.span weight pieces.flatten :=
    span_le_of_sublist h.flatten
  have hblanks := Nat.mul_le_mul_right (m.advance weight ' ') (Nat.sub_le_sub_right h.length_le 1)
  omega

/-- Whether pieces are too many for a line. -/
def crowded (m : Metrics) (pen : Pen) (room : Single) (pieces : List (List Char)) : Bool :=
  !m.fits pen room (inLine pieces)

variable (m pen room)

theorem fill_eq_map {group : List (List Char)} (hgroup : group ≠ []) (pieces : List (List Char)) :
    m.fill pen room (inLine group) pieces =
      (greedily (m.crowded pen room) group pieces).map inLine := by
  induction pieces generalizing group with
  | nil => rfl
  | cons piece rest ih =>
    have hsingle := ih (List.cons_ne_nil piece [])
    have hconcat := ih (List.concat_ne_nil piece group)
    rw [inLine_concat hgroup] at hconcat
    rw [inLine_singleton] at hsingle
    rw [fill, greedily, crowded, inLine_concat hgroup, hconcat, hsingle]
    cases m.fits pen room (inLine group ++ ' ' :: piece) <;> rfl

/-- The pieces of a text, line by line. -/
def groups (m : Metrics) (pen : Pen) (room : Single) (text : List Char) : List (List (List Char)) :=
  match m.pieces pen room text with
  | [] => []
  | piece :: rest => greedily (m.crowded pen room) [piece] rest

theorem wrap_of_blank {text : List Char} (h : ink text = []) : m.wrap pen room text = [[]] := by
  unfold wrap
  rw [(pieces_eq_nil m pen room).mpr h]

/-- The lines of a text that is not blank are its pieces, group by group. -/
theorem wrap_eq_map {text : List Char} (h : ink text ≠ []) :
    m.wrap pen room text = (m.groups pen room text).map inLine := by
  obtain ⟨piece, rest, hpieces⟩ :=
    List.exists_cons_of_ne_nil fun hnil => h ((pieces_eq_nil m pen room).mp hnil)
  have hfill := fill_eq_map m pen room (List.cons_ne_nil piece []) rest
  rw [inLine_singleton] at hfill
  unfold wrap groups
  rw [hpieces]
  exact hfill

theorem flatten_groups (text : List Char) :
    (m.groups pen room text).flatten = m.pieces pen room text := by
  unfold groups
  cases m.pieces pen room text with
  | nil => rfl
  | cons piece rest => exact flatten_greedily _ [piece] rest

/-- Every line is some of the pieces, in order. -/
theorem exists_lines (text : List Char) :
    ∃ groups : List (List (List Char)),
      groups.flatten = (words text).flatMap (m.splitWord pen room) ∧
        m.wrap pen room text = groups.map inLine := by
  by_cases hblank : ink text = []
  · refine ⟨[[]], ?_, wrap_of_blank m pen room hblank⟩
    rw [words_eq_nil.mpr hblank]
    rfl
  · exact ⟨_, flatten_groups m pen room text, wrap_eq_map m pen room hblank⟩

theorem nil_not_mem_groups (text : List Char) : [] ∉ m.groups pen room text := by
  unfold groups
  cases m.pieces pen room text with
  | nil => exact List.not_mem_nil
  | cons piece rest => exact nil_not_mem_greedily _ (List.cons_ne_nil piece []) rest

theorem forced_groups (text : List Char) :
    Forced (m.crowded pen room) (m.groups pen room text) := by
  unfold groups
  cases m.pieces pen room text with
  | nil => exact .nil
  | cons piece rest => exact forced_greedily _ [piece] rest

variable {m pen room} in
/-- The pieces of a line fit the room, or are one piece. -/
theorem mem_groups {text : List Char} {g : List (List Char)} (h : g ∈ m.groups pen room text) :
    m.fits pen room (inLine g) ∨ g.length = 1 := by
  unfold groups at h
  cases hpieces : m.pieces pen room text with
  | nil =>
    rw [hpieces] at h
    cases h
  | cons piece rest =>
    rw [hpieces] at h
    rcases mem_greedily h with rfl | h | h
    · exact .inr rfl
    · exact .inr h
    · exact .inl (by simpa [crowded] using h)

/-- The lines say what the text does but for its blanks. -/
theorem ink_wrap (text : List Char) : ink (m.wrap pen room text).flatten = ink text := by
  have hlines : ∀ groups : List (List (List Char)),
      ink (groups.map inLine).flatten = ink groups.flatten.flatten := by
    intro groups
    induction groups with
    | nil => rfl
    | cons g groups ih =>
      rw [List.map_cons, List.flatten_cons, ink_append, ih, ink_inLine, ← ink_append,
        ← List.flatten_append, List.flatten_cons]
  by_cases hblank : ink text = []
  · rw [wrap_of_blank m pen room hblank, hblank]
    rfl
  · rw [wrap_eq_map m pen room hblank, hlines, flatten_groups, flatten_pieces]
    exact ink_eq_self fun c hc => by simpa using (List.mem_filter.mp hc).2

theorem wrap_ne_nil (text : List Char) : m.wrap pen room text ≠ [] := by
  unfold wrap
  cases m.pieces pen room text with
  | nil => exact List.cons_ne_nil _ _
  | cons piece rest =>
    have hfill := fill_eq_map m pen room (List.cons_ne_nil piece []) rest
    obtain ⟨more, groups, hgroups⟩ := greedily_eq_cons (m.crowded pen room) [piece] rest
    rw [inLine_singleton, hgroups] at hfill
    exact fun h => List.cons_ne_nil _ _ (hfill.symm.trans h)

variable {m pen room} in
/-- Only a blank text has an empty line. -/
theorem blank_of_nil_mem_wrap {text : List Char} (h : [] ∈ m.wrap pen room text) :
    ink text = [] := by
  by_contra htext
  rw [wrap_eq_map m pen room htext] at h
  obtain ⟨g, hg, hempty⟩ := List.mem_map.mp h
  have hpieces : [] ∉ g := by
    intro hnil
    refine nil_not_mem_pieces m pen room text ?_
    rw [← flatten_groups]
    exact List.mem_flatten.mpr ⟨g, hg, hnil⟩
  exact inLine_ne_nil (fun hnil => nil_not_mem_groups m pen room text (hnil ▸ hg)) hpieces hempty

variable {m pen room} in
/-- A line is not wider than all pieces in one line. -/
theorem span_le_of_mem_wrap {weight : Weight} {text line : List Char}
    (h : line ∈ m.wrap pen room text) :
    m.span weight line ≤ m.span weight (inLine (m.pieces pen room text)) := by
  by_cases htext : ink text = []
  · rw [wrap_of_blank m pen room htext] at h
    rw [List.mem_singleton.mp h]
    exact Nat.zero_le _
  · rw [wrap_eq_map m pen room htext] at h
    obtain ⟨g, hg, rfl⟩ := List.mem_map.mp h
    exact span_inLine_le (flatten_groups m pen room text ▸ List.sublist_flatten_of_mem hg)

variable {m pen room} in
/-- A piece fits the room, or is one character, if what is cut from the text has a width. -/
theorem fits_or_single_of_mem_pieces (hroom : 0 ≤ room) {text : List Char}
    (hwidth : ∀ cs, cs.Sublist text → m.width pen cs ≠ undefined) :
    ∀ p ∈ m.pieces pen room text, m.fits pen room p ∨ p.length = 1 := by
  intro p hp
  have hfits := fits_or_exceeds hroom (hwidth p (sublist_of_mem_pieces hp))
  obtain ⟨word, -, hword⟩ := List.mem_flatMap.mp hp
  rcases mem_splitWord hword with h | h | h
  · exact .inl h
  · exact .inr h
  · exact .inl (hfits.resolve_right h)

variable {m pen room} in
/-- A line fits its room, or is one character, if what is cut from the text has a width. -/
theorem fits_or_single_of_mem_wrap (hroom : 0 ≤ room) {text : List Char}
    (hwidth : ∀ cs, cs.Sublist text → m.width pen cs ≠ undefined) :
    ∀ l ∈ m.wrap pen room text, m.fits pen room l ∨ l.length = 1 := by
  intro l hl
  by_cases hblank : ink text = []
  · rw [wrap_of_blank m pen room hblank] at hl
    have hempty := fits_or_exceeds hroom (hwidth [] (List.nil_sublist text))
    exact .inl (List.mem_singleton.mp hl ▸ hempty.resolve_right (not_exceeds_nil hroom))
  rw [wrap_eq_map m pen room hblank] at hl
  obtain ⟨g, hg, rfl⟩ := List.mem_map.mp hl
  rcases mem_groups hg with hfits | hsingle
  · exact .inl hfits
  obtain ⟨p, rfl⟩ := List.length_eq_one_iff.mp hsingle
  rw [inLine_singleton]
  refine fits_or_single_of_mem_pieces hroom hwidth p ?_
  exact flatten_groups m pen room text ▸ List.mem_flatten.mpr ⟨[p], hg, List.mem_singleton_self p⟩

end Lines

/-! ## Words in lines -/

/-- How words stand in lines. A word ends its line, or a space follows it and then the next word; a
line breaks inside a word only if what is left of the word does not fit. -/
inductive Laid (fits : List Char → Bool) : List (List Char) → List (List Char) → Prop
  | last (word : List Char) : Laid fits [word] [word]
  | space (word : List Char) {words lines : List (List Char)} {line : List Char}
      (hrest : Laid fits words (line :: lines)) :
      Laid fits (word :: words) ((word ++ ' ' :: line) :: lines)
  | newline (word : List Char) {words lines : List (List Char)} (hrest : Laid fits words lines) :
      Laid fits (word :: words) (word :: lines)
  | inside {part rest : List Char} {words lines : List (List Char)} (hpart : part ≠ [])
      (hleft : rest ≠ []) (hfits : ¬ fits (part ++ rest))
      (hrest : Laid fits (rest :: words) lines) :
      Laid fits ((part ++ rest) :: words) (part :: lines)

/-- Lines of which the first goes on behind what is written of it. -/
def fillBehind (m : Metrics) (pen : Pen) (room : Single) (start : List Char) :
    List (List Char) → List (List Char)
  | [] => [start]
  | piece :: rest => m.fill pen room (start ++ piece) rest

theorem wrap_eq_fillBehind (text : List Char) :
    m.wrap pen room text = m.fillBehind pen room [] (m.pieces pen room text) := by
  unfold wrap
  cases m.pieces pen room text <;> rfl

/-- The next piece stands behind a space, or in the next line. -/
theorem fill_cons (line piece : List Char) (rest : List (List Char)) :
    m.fill pen room line (piece :: rest) =
      if m.fits pen room (line ++ ' ' :: piece) then
        m.fillBehind pen room (line ++ [' ']) (piece :: rest)
      else line :: m.fillBehind pen room [] (piece :: rest) := by
  rw [fill, fillBehind, fillBehind, List.append_assoc]
  rfl

/-- Lines into which words are laid behind what is written of the first one. -/
def LaidBehind (fits : List Char → Bool) (start : List Char) (words lines : List (List Char)) :
    Prop :=
  ∃ first rest, lines = (start ++ first) :: rest ∧ Laid fits words (first :: rest)

section Behind

variable {words behind : List (List Char)}

/-- The pieces of a word are laid if its last one is, with what is behind the word. -/
theorem laidBehind_splitFrom (hroom : 0 ≤ room)
    (hend : ∀ start piece, m.span pen.weight (start ++ inLine (piece :: behind)) < 2 ^ 32 →
      LaidBehind (m.fits pen room) start (piece :: words) (m.fill pen room (start ++ piece) behind))
    (start : List Char) {piece : List Char} (hpiece : piece ≠ []) (word : List Char)
    (hspan : m.span pen.weight (start ++ inLine (m.splitFrom pen room piece word ++ behind)) <
      2 ^ 32) :
    LaidBehind (m.fits pen room) start ((piece ++ word) :: words)
      (m.fillBehind pen room start (m.splitFrom pen room piece word ++ behind)) := by
  induction word generalizing start piece with
  | nil =>
    rw [List.append_nil]
    exact hend start piece hspan
  | cons c cs ih =>
    unfold splitFrom at hspan ⊢
    split_ifs at hspan ⊢ with hexceeds
    · -- the next piece starts with the character that the room has no place for
      obtain ⟨more, rest, hnext⟩ := greedily_eq_cons (m.exceeds pen room) [c] cs
      rw [← splitFrom_eq] at hnext
      have hword : (([c] ++ more) :: rest).flatten = c :: cs := by
        rw [← hnext, splitFrom_eq, flatten_greedily, List.singleton_append]
      rw [List.cons_append, hnext, List.cons_append, inLine_cons_cons, span_append, span_append,
        span_cons] at hspan
      have hfirst : m.span pen.weight ([c] ++ more) ≤
          m.span pen.weight (inLine (([c] ++ more) :: (rest ++ behind))) :=
        span_le_of_sublist (infix_inLine List.mem_cons_self).sublist
      have hrest : m.span pen.weight (([c] ++ more) :: rest).flatten ≤
          m.span pen.weight (inLine (([c] ++ more) :: (rest ++ behind))) :=
        span_flatten_le pen.weight (([c] ++ more) :: rest) behind
      have hbreak : ¬ m.fits pen room (start ++ piece ++ ' ' :: ([c] ++ more)) := by
        refine not_fits_of_exceeds hroom ?_ ?_ hexceeds
        · simp only [span_append, span_cons, span_nil]
          omega
        · rw [span_append, span_append, span_cons]
          omega
      have hbroken : ¬ m.fits pen room (piece ++ c :: cs) := by
        refine not_fits_of_exceeds hroom ?_ ?_ hexceeds
        · simp
        · rw [span_append, ← hword]
          omega
      have hbehind : m.span pen.weight
          ([] ++ inLine (m.splitFrom pen room [c] cs ++ behind)) < 2 ^ 32 := by
        rw [List.nil_append, hnext, List.cons_append]
        omega
      obtain ⟨line, lines, hlines, hlaid⟩ := ih [] (List.cons_ne_nil c []) hbehind
      refine ⟨piece, line :: lines, ?_, .inside hpiece (List.cons_ne_nil c cs) hbroken hlaid⟩
      rw [hnext, List.cons_append] at hlines
      rw [List.cons_append, fillBehind, hnext, List.cons_append, fill_cons, if_neg hbreak, hlines,
        List.nil_append]
    · have hlaid := ih start (List.concat_ne_nil c piece) hspan
      rwa [List.append_assoc] at hlaid

theorem laidBehind_splitWord (hroom : 0 ≤ room)
    (hend : ∀ start piece, m.span pen.weight (start ++ inLine (piece :: behind)) < 2 ^ 32 →
      LaidBehind (m.fits pen room) start (piece :: words) (m.fill pen room (start ++ piece) behind))
    (start : List Char) {word : List Char} (hword : word ≠ [])
    (hspan : m.span pen.weight (start ++ inLine (m.splitWord pen room word ++ behind)) < 2 ^ 32) :
    LaidBehind (m.fits pen room) start (word :: words)
      (m.fillBehind pen room start (m.splitWord pen room word ++ behind)) := by
  unfold splitWord at hspan ⊢
  split_ifs at hspan ⊢
  · exact hend start word hspan
  · cases word with
    | nil => exact absurd rfl hword
    | cons c cs => exact laidBehind_splitFrom hroom hend start (List.cons_ne_nil c []) cs hspan

/-- What is left of a word, and the words behind it, are laid behind what is written of a line. -/
theorem laidBehind_fill (hroom : 0 ≤ room) (hwords : [] ∉ words) (start piece : List Char)
    (hspan : m.span pen.weight
      (start ++ inLine (piece :: words.flatMap (m.splitWord pen room))) < 2 ^ 32) :
    LaidBehind (m.fits pen room) start (piece :: words)
      (m.fill pen room (start ++ piece) (words.flatMap (m.splitWord pen room))) := by
  induction words generalizing start piece with
  | nil => exact ⟨piece, [], rfl, .last piece⟩
  | cons word words ih =>
    have hword : word ≠ [] := (List.ne_of_not_mem_cons hwords).symm
    have hend := ih (List.not_mem_of_not_mem_cons hwords)
    obtain ⟨next, rest, hnext⟩ :=
      List.exists_cons_of_ne_nil (splitWord_ne_nil m pen room hword)
    rw [List.flatMap_cons, hnext, List.cons_append, inLine_cons_cons, ← List.cons_append,
      ← hnext, span_append, span_append, span_cons] at hspan
    rw [List.flatMap_cons, hnext, List.cons_append, fill_cons, ← List.cons_append, ← hnext]
    split_ifs
    · have hbehind : m.span pen.weight ((start ++ piece ++ [' ']) ++
          inLine (m.splitWord pen room word ++ words.flatMap (m.splitWord pen room))) < 2 ^ 32 := by
        simp only [span_append, span_cons, span_nil]
        omega
      obtain ⟨line, lines, hlines, hlaid⟩ := laidBehind_splitWord hroom hend _ hword hbehind
      refine ⟨piece ++ ' ' :: line, lines, ?_, .space piece hlaid⟩
      rw [hlines]
      simp
    · have hbehind : m.span pen.weight ([] ++
          inLine (m.splitWord pen room word ++ words.flatMap (m.splitWord pen room))) < 2 ^ 32 := by
        rw [List.nil_append]
        omega
      obtain ⟨line, lines, hlines, hlaid⟩ := laidBehind_splitWord hroom hend [] hword hbehind
      exact ⟨piece, line :: lines, by rw [hlines, List.nil_append], .newline piece hlaid⟩

end Behind

/-- The words of a text are laid into its lines. -/
theorem laid_wrap (hroom : 0 ≤ room) {text : List Char} (htext : ink text ≠ [])
    (hspan : m.span pen.weight (inLine (m.pieces pen room text)) < 2 ^ 32) :
    Laid (m.fits pen room) (words text) (m.wrap pen room text) := by
  obtain ⟨word, rest, hwords⟩ := List.exists_cons_of_ne_nil fun h => htext (words_eq_nil.mp h)
  have hnonempty : [] ∉ words text := fun h => ne_nil_of_mem_words h rfl
  rw [hwords] at hnonempty
  rw [pieces, hwords, List.flatMap_cons] at hspan
  rw [wrap_eq_fillBehind, pieces, hwords, List.flatMap_cons]
  have hrest : ∀ start piece, m.span pen.weight
      (start ++ inLine (piece :: rest.flatMap (m.splitWord pen room))) < 2 ^ 32 →
      LaidBehind (m.fits pen room) start (piece :: rest)
        (m.fill pen room (start ++ piece) (rest.flatMap (m.splitWord pen room))) :=
    laidBehind_fill hroom (List.not_mem_of_not_mem_cons hnonempty)
  obtain ⟨line, lines, hlines, hlaid⟩ :=
    laidBehind_splitWord hroom hrest [] (List.ne_of_not_mem_cons hnonempty).symm hspan
  rw [hlines]
  exact hlaid

/-- The lines of a text, in any size: there is at least one, and an empty one only of a blank text;
in a finite size every line fits the room or is one character; the lines say what the text does but
for its blanks; they are the pieces of its words, and a word that fits is one piece. And if 32 bits
hold the units of all pieces with a blank between each two, all units of every line are counted, and
the words of the text are laid into the lines. -/
theorem wrap_sets_text (m : Metrics) (pen : Pen) {room : Single} (hroom : 0 ≤ room)
    (text : List Char) :
    m.wrap pen room text ≠ [] ∧
      ([] ∈ m.wrap pen room text → ∀ c ∈ text, isBlank c = true) ∧
      ((∃ points, pen.size = finite points) →
        ∀ line ∈ m.wrap pen room text, m.width pen line ≤ room ∨ line.length = 1) ∧
      (m.wrap pen room text).flatten.filter (fun c => !isBlank c) =
        text.filter (fun c => !isBlank c) ∧
      (∃ groups : List (List (List Char)),
        groups.flatten = (words text).flatMap (m.splitWord pen room) ∧
          m.wrap pen room text = groups.map inLine) ∧
      (∀ word, m.width pen word ≤ room → m.splitWord pen room word = [word]) ∧
      (m.span pen.weight (inLine (m.pieces pen room text)) < 2 ^ 32 →
        (∀ line ∈ m.wrap pen room text, m.units pen.weight line = m.span pen.weight line) ∧
        ((∃ c ∈ text, isBlank c = false) →
          Laid (m.fits pen room) (words text) (m.wrap pen room text))) := by
  refine ⟨wrap_ne_nil m pen room text, ?_, ?_, ink_wrap m pen room text,
    exists_lines m pen room text, ?_, ?_⟩
  · exact fun hempty => ink_eq_nil.mp (blank_of_nil_mem_wrap hempty)
  · rintro ⟨points, hsize⟩ line hline
    have hwidth : ∀ cs, cs.Sublist text → m.width pen cs ≠ undefined :=
      fun cs _ => width_ne_undefined hsize cs
    exact (fits_or_single_of_mem_wrap hroom hwidth line hline).imp_left of_decide_eq_true
  · exact fun word hfits => splitWord_of_fits (decide_eq_true hfits)
  · intro hspan
    refine ⟨fun line hline => units_eq_span ((span_le_of_mem_wrap hline).trans_lt hspan), ?_⟩
    rintro ⟨c, hc, hsolid⟩
    refine laid_wrap hroom (fun hblank => ?_) hspan
    rw [ink_eq_nil.mp hblank c hc] at hsolid
    cases hsolid

/-- A word that is broken between two that fit. -/
theorem wrap_sets_long_word :
    0 ≤ (13 : Single) ∧
      sans.wrap ⟨.regular, 10⟩ 13 "to mmmmm us".toList =
        ["to".toList, "mmm".toList, "mm us".toList] ∧
      Laid (sans.fits ⟨.regular, 10⟩ 13) (words "to mmmmm us".toList)
        (sans.wrap ⟨.regular, 10⟩ 13 "to mmmmm us".toList) := by
  have hroom : 0 ≤ (13 : Single) := by decide +kernel
  have hspan : sans.span .regular
      (inLine (sans.pieces ⟨.regular, 10⟩ 13 "to mmmmm us".toList)) < 2 ^ 32 := by decide +kernel
  obtain ⟨-, -, -, -, -, -, hcounted⟩ :=
    wrap_sets_text sans ⟨.regular, 10⟩ hroom "to mmmmm us".toList
  exact ⟨hroom, by decide +kernel, (hcounted hspan).2 ⟨'t', by decide +kernel, rfl⟩⟩

/-! ### Units that are not counted -/

/-- Metrics of the widest characters that a face can have. Only the end of a line moves no pen. -/
def heavy : Metrics where
  advance _ c := if c = '\n' then 0 else 65535

theorem span_heavy {cs : List Char} (h : '\n' ∉ cs) (weight : Weight) :
    heavy.span weight cs = cs.length * 65535 := by
  refine total_map_const fun c hc => if_neg ?_
  rintro rfl
  exact h hc

/-- A word of so many of them. -/
def strokes (n : ℕ) : List Char := .replicate n 'x'

@[simp] theorem length_strokes (n : ℕ) : (strokes n).length = n := List.length_replicate

theorem strokes_append (n k : ℕ) : strokes n ++ strokes k = strokes (n + k) :=
  List.replicate_append_replicate

theorem end_not_mem_strokes (n : ℕ) : '\n' ∉ strokes n :=
  fun h => absurd (List.eq_of_mem_replicate h) (by decide)

theorem strokes_solid (n : ℕ) : ∀ c ∈ strokes n, isBlank c = false :=
  fun c hc => by rw [List.eq_of_mem_replicate hc]; rfl

theorem strokes_ne_nil (n : ℕ) : strokes (n + 1) ≠ [] := List.cons_ne_nil _ _

theorem words_strokes (n : ℕ) : words (strokes (n + 1)) = [strokes (n + 1)] :=
  words_of_solid (strokes_solid _) (strokes_ne_nil n)

/-- The width of so many of the widest characters in ten points. -/
def heavyWidth (count : ℕ) : Single := millimetres 10 (count * 65535 % UInt32.size)

theorem width_heavy {cs : List Char} (h : '\n' ∉ cs) :
    heavy.width ⟨.regular, 10⟩ cs = heavyWidth cs.length := by
  rw [width, units, span_heavy h, heavyWidth]

theorem width_strokes (n : ℕ) : heavy.width ⟨.regular, 10⟩ (strokes n) = heavyWidth n := by
  rw [width_heavy (end_not_mem_strokes n), length_strokes]

theorem width_joined (n k : ℕ) :
    heavy.width ⟨.regular, 10⟩ (strokes n ++ ' ' :: strokes k) = heavyWidth (n + k + 1) := by
  have hend : '\n' ∉ strokes n ++ ' ' :: strokes k := by simp [end_not_mem_strokes]
  rw [width_heavy hend, List.length_append, List.length_cons, length_strokes, length_strokes]
  rfl

theorem fits_strokes {n : ℕ} :
    heavy.fits ⟨.regular, 10⟩ room (strokes n) ↔ heavyWidth n ≤ room := by
  rw [fits, width_strokes, decide_eq_true_eq]

/-- The pieces of a word that is too wide by its last character. -/
theorem pieces_strokes (hroom : 0 ≤ room) {n : ℕ} (hspan : (n + 1) * 65535 < 2 ^ 32)
    (hfits : heavyWidth (n + 1) ≤ room) (hexceeds : room < heavyWidth (n + 2)) :
    heavy.pieces ⟨.regular, 10⟩ room (strokes (n + 2)) = [strokes (n + 1), strokes 1] := by
  have hbroken : ¬ heavy.fits ⟨.regular, 10⟩ room (strokes (n + 2)) :=
    fun h => not_le_of_lt hexceeds (fits_strokes.mp h)
  have hall : strokes 1 ++ strokes n = strokes (n + 1) := by rw [strokes_append, Nat.add_comm]
  have hfitsAll : heavy.fits ⟨.regular, 10⟩ room (strokes 1 ++ strokes n) := by
    rw [hall]
    exact fits_strokes.mpr hfits
  have hspanAll : heavy.span .regular (strokes 1 ++ strokes n) < 2 ^ 32 := by
    rwa [hall, span_heavy (end_not_mem_strokes _), length_strokes]
  have hfirst : heavy.splitFrom ⟨.regular, 10⟩ room (strokes 1) (strokes n ++ strokes 1) =
      heavy.splitFrom ⟨.regular, 10⟩ room (strokes 1 ++ strokes n) (strokes 1) :=
    splitFrom_append hroom hfitsAll hspanAll (strokes 1)
  rw [hall, strokes_append] at hfirst
  have hlast : heavy.exceeds ⟨.regular, 10⟩ room (strokes (n + 1) ++ ['x']) := by
    unfold exceeds
    rw [show ['x'] = strokes 1 from rfl, strokes_append, width_strokes, decide_eq_true_eq]
    exact hexceeds
  rw [pieces, words_strokes, List.flatMap_singleton]
  unfold splitWord
  rw [if_neg hbroken]
  show heavy.splitFrom ⟨.regular, 10⟩ room (strokes 1) (strokes (n + 1)) = _
  refine hfirst.trans ?_
  show heavy.splitFrom ⟨.regular, 10⟩ room (strokes (n + 1)) ['x'] = _
  rw [splitFrom, if_pos hlast]
  rfl

/-- If they fit with the blank between them, as they are counted, they are put into one line. -/
theorem wrap_strokes (hroom : 0 ≤ room) {n : ℕ} (hspan : (n + 1) * 65535 < 2 ^ 32)
    (hfits : heavyWidth (n + 1) ≤ room) (hexceeds : room < heavyWidth (n + 2))
    (hjoined : heavyWidth (n + 3) ≤ room) :
    heavy.wrap ⟨.regular, 10⟩ room (strokes (n + 2)) = [strokes (n + 1) ++ ' ' :: strokes 1] := by
  have hline : heavy.fits ⟨.regular, 10⟩ room (strokes (n + 1) ++ ' ' :: strokes 1) := by
    rw [fits, width_joined, decide_eq_true_eq]
    exact hjoined
  unfold wrap
  rw [pieces_strokes hroom hspan hfits hexceeds]
  exact if_pos hline

/-- What the lines of a text are not always. In an infinite size what has no units has no width, so
that a word of two such characters is neither too wide for a room nor fits it; and the units of a
broken word with the blank that is tried between its pieces may be more than 32 bits hold, so that
its pieces are put into one line. -/
theorem wrap_misjudges_words :
    (0 ≤ (50 : Single) ∧ sans.span .regular "\u200b\u200b".toList < 2 ^ 32 ∧
      ¬ ∀ line ∈ sans.wrap ⟨.regular, .infinite false⟩ 50 "\u200b\u200b".toList,
        sans.width ⟨.regular, .infinite false⟩ line ≤ 50 ∨ line.length = 1) ∧
    (0 ≤ heavyWidth 65536 ∧ heavy.span .regular (strokes 65537) < 2 ^ 32 ∧
      heavy.wrap ⟨.regular, 10⟩ (heavyWidth 65536) (strokes 65537) =
        [strokes 65536 ++ ' ' :: strokes 1]) := by
  have hroom : 0 ≤ heavyWidth 65536 := by decide +kernel
  have hspan : heavy.span .regular (strokes 65537) < 2 ^ 32 := by
    rw [span_heavy (end_not_mem_strokes _), length_strokes]
    norm_num
  exact ⟨by decide +kernel, hroom, hspan, wrap_strokes hroom (n := 65535) (by norm_num)
    (by decide +kernel) (by decide +kernel) (by decide +kernel)⟩

end BookingNotices.Invoice.Metrics
