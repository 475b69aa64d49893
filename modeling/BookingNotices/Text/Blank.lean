/-!
# White space

* `isBlank` : the characters with the Unicode property White_Space;
* `trim`    : a text without the blanks at its two ends;
* `words`   : the maximal runs of characters that are not blank, in order;
* `ink`     : the characters that are not blank, which the words are made of (`flatten_words`);
* `words_of_solid`, `words_append_cons` : a word alone, and one before a blank.
-/

namespace BookingNotices.Text

/-- The characters with the Unicode property White_Space. -/
def isBlank (c : Char) : Bool :=
  let n := c.toNat
  (0x09 ≤ n && n ≤ 0x0D) || n == 0x20 || n == 0x85 || n == 0xA0 || n == 0x1680 ||
    (0x2000 ≤ n && n ≤ 0x200A) || n == 0x2028 || n == 0x2029 || n == 0x202F || n == 0x205F ||
    n == 0x3000

/-- The text without its leading blanks. -/
def trimLeft (cs : List Char) : List Char := cs.dropWhile isBlank

/-- The text without the blanks at its two ends. -/
def trim (cs : List Char) : List Char := (trimLeft (trimLeft cs).reverse).reverse

/-- A text is blank when every character of it is. -/
def allBlank (s : String) : Bool := s.toList.all isBlank

/-- The word that starts the text (empty when a blank does), and the words after it. -/
private def splitWord : List Char → List Char × List (List Char)
  | [] => ([], [])
  | c :: cs =>
    let (w, ws) := splitWord cs
    if isBlank c then ([], if w.isEmpty then ws else w :: ws) else (c :: w, ws)

/-- The maximal runs of characters that are not blank, in order. -/
def words (cs : List Char) : List (List Char) :=
  let (w, ws) := splitWord cs
  if w.isEmpty then ws else w :: ws

/-! ## What words are made of -/

/-- The characters of a text that are not blank. -/
def ink (cs : List Char) : List Char := cs.filter fun c => !isBlank c

@[simp] theorem ink_nil : ink [] = [] := rfl

@[simp] theorem ink_append (as bs : List Char) : ink (as ++ bs) = ink as ++ ink bs :=
  List.filter_append as bs

theorem ink_cons (c : Char) (cs : List Char) :
    ink (c :: cs) = if isBlank c then ink cs else c :: ink cs := by
  unfold ink
  rw [List.filter_cons]
  cases isBlank c <;> rfl

theorem ink_eq_self {cs : List Char} (h : ∀ c ∈ cs, isBlank c = false) : ink cs = cs :=
  List.filter_eq_self.mpr fun c hc => by rw [h c hc]; rfl

theorem ink_eq_nil {cs : List Char} : ink cs = [] ↔ ∀ c ∈ cs, isBlank c = true := by
  simp [ink, List.filter_eq_nil_iff]

private theorem flatten_splitWord (cs : List Char) :
    (splitWord cs).1 ++ (splitWord cs).2.flatten = ink cs := by
  induction cs with
  | nil => rfl
  | cons c cs ih =>
    rw [ink_cons, ← ih]
    simp only [splitWord]
    split
    · split
      · next hempty => rw [List.isEmpty_iff.mp hempty]
      · rfl
    · rfl

/-- The words of a text are its characters that are not blank. -/
theorem flatten_words (cs : List Char) : (words cs).flatten = ink cs := by
  rw [← flatten_splitWord]
  simp only [words]
  split
  · next hempty =>
    rw [List.isEmpty_iff.mp hempty]
    rfl
  · rfl

private theorem ne_nil_of_mem_splitWord {cs w : List Char} (h : w ∈ (splitWord cs).2) : w ≠ [] := by
  induction cs with
  | nil => cases h
  | cons c cs ih =>
    simp only [splitWord] at h
    split at h
    · split at h
      · exact ih h
      · next hempty =>
        rcases List.mem_cons.mp h with rfl | h
        · exact fun hnil => hempty (List.isEmpty_iff.mpr hnil)
        · exact ih h
    · exact ih h

theorem ne_nil_of_mem_words {cs w : List Char} (h : w ∈ words cs) : w ≠ [] := by
  simp only [words] at h
  split at h
  · exact ne_nil_of_mem_splitWord h
  · next hempty =>
    rcases List.mem_cons.mp h with rfl | h
    · exact fun hnil => hempty (List.isEmpty_iff.mpr hnil)
    · exact ne_nil_of_mem_splitWord h

/-- Only a blank text has no words. -/
theorem words_eq_nil {cs : List Char} : words cs = [] ↔ ink cs = [] := by
  rw [← flatten_words, List.flatten_eq_nil_iff]
  constructor
  · intro h w hw
    rw [h] at hw
    cases hw
  · intro h
    exact List.eq_nil_iff_forall_not_mem.mpr fun w hw => ne_nil_of_mem_words hw (h w hw)

/-! ## A word and what is behind it -/

section Solid

variable {word : List Char} (hsolid : ∀ c ∈ word, isBlank c = false)

include hsolid

private theorem splitWord_append (cs : List Char) :
    splitWord (word ++ cs) = (word ++ (splitWord cs).1, (splitWord cs).2) := by
  induction word with
  | nil => rfl
  | cons c word ih =>
    obtain ⟨hc, hword⟩ := List.forall_mem_cons.mp hsolid
    rw [List.cons_append, splitWord, ih hword, hc]
    rfl

variable (hword : word ≠ [])

include hword

theorem words_of_solid : words word = [word] := by
  have hsplit := splitWord_append hsolid []
  rw [List.append_nil, splitWord, List.append_nil] at hsplit
  rw [words, hsplit]
  exact if_neg (by simpa using hword)

theorem words_append_cons {c : Char} (hc : isBlank c = true) (cs : List Char) :
    words (word ++ c :: cs) = word :: words cs := by
  have hbehind : splitWord (c :: cs) = ([], words cs) := by
    rw [splitWord, hc]
    rfl
  have hsplit := splitWord_append hsolid (c :: cs)
  rw [hbehind, List.append_nil] at hsplit
  rw [words, hsplit]
  exact if_neg (by simpa using hword)

end Solid

end BookingNotices.Text
