import BookingNotices.Proofs.Json.Leaf
import BookingNotices.Proofs.Table

/-!
# Values read back

* `Exact`    : a value without floats whose integers are machine words and whose objects are tables;
* `nesting`  : how many brackets are open at the deepest place of a value;
* `ReadsBack` : a value is read from its text, in front of whatever may follow a value;
* `ofText_compact` : the text of an exact value, not too deep, is the text of that value only.

Every value is read by induction on why it is exact. The reader of a list or an object keeps what it
has read, so that the statements about them are about any beginning.
-/

namespace BookingNotices.Json

instance : Trans (α := String) (· < ·) (· < ·) (· < ·) := ⟨fun h₁ h₂ => String.lt_trans h₁ h₂⟩

instance : Std.Irrefl (α := String) (· < ·) := ⟨String.lt_irrefl⟩

/-- The integers of a machine word, signed or not. -/
def IsWord (n : Int) : Prop := -(Nat.pow 2 63 : Nat) ≤ n ∧ n < (Nat.pow 2 64 : Nat)

instance (n : Int) : Decidable (IsWord n) := inferInstanceAs (Decidable (_ ∧ _))

/-- A value without floats: its integers are machine words, and the fields of its objects come in
increasing order of their names. -/
inductive Exact : Json → Prop where
  | null : Exact .null
  | bool (b : Bool) : Exact (.bool b)
  | integer {n : Int} : IsWord n → Exact (.integer n)
  | text (s : String) : Exact (.text s)
  | array {items : List Json} : (∀ v ∈ items, Exact v) → Exact (.array items)
  | object {fields : Table String Json} :
      fields.Sorted → (∀ f ∈ fields, Exact f.2) → Exact (.object fields)

mutual

/-- How many brackets are open at the deepest place of a value. -/
def nesting : Json → Nat
  | .array items => nestingItems items + 1
  | .object fields => nestingFields fields + 1
  | _ => 0

/-- The deepest of some items. -/
def nestingItems : List Json → Nat
  | [] => 0
  | v :: vs => max (nesting v) (nestingItems vs)

/-- The deepest of some fields. -/
def nestingFields : List (String × Json) → Nat
  | [] => 0
  | f :: fs => max (nesting f.2) (nestingFields fs)

end

theorem nesting_le_items {items : List Json} {v : Json} (h : v ∈ items) :
    nesting v ≤ nestingItems items := by
  induction items with
  | nil => cases h
  | cons u us ih =>
    rw [nestingItems]
    rcases List.mem_cons.mp h with rfl | h
    · exact Nat.le_max_left _ _
    · exact Nat.le_trans (ih h) (Nat.le_max_right _ _)

theorem nesting_le_fields {fields : List (String × Json)} {f : String × Json} (h : f ∈ fields) :
    nesting f.2 ≤ nestingFields fields := by
  induction fields with
  | nil => cases h
  | cons g gs ih =>
    rw [nestingFields]
    rcases List.mem_cons.mp h with rfl | h
    · exact Nat.le_max_left _ _
    · exact Nat.le_trans (ih h) (Nat.le_max_right _ _)

namespace Cursor

/-- Two steps for each character, and one more, are enough to read the value from its text, if so
many brackets may be open. -/
def ReadsBack (depth : Nat) (v : Json) : Prop :=
  ∀ fuel rest, 2 * (chars v).length < fuel → Ends rest →
    Reads (valueWithin fuel depth) (chars v ++ rest) v rest

/-! ## First characters -/

/-- The blanks of the grammar. -/
def blank (c : Char) : Bool := c = ' ' || c = '\n' || c = '\t' || c = '\r'

/-- Blanks are skipped only where there are some. -/
theorem skipBlanks_cons {c : Char} (h : blank c = false) (cs : List Char) (p : Place) :
    skipBlanks ⟨c :: cs, p⟩ = ⟨c :: cs, p⟩ := by
  have hc : (c = ' ' || c = '\n' || c = '\t' || c = '\r') = false := h
  simp only [skipBlanks, skipBlanks.go, hc, Bool.false_eq_true, if_false]

theorem blank_of_isDigit {c : Char} (h : c.isDigit) : blank c = false := by
  simp only [blank, Bool.or_eq_false_iff, decide_eq_false_iff_not]
  refine ⟨⟨⟨?_, ?_⟩, ?_⟩, ?_⟩ <;> (rintro rfl; exact absurd h (by decide))

/-- A value starts with a character of its own: neither a blank nor the bracket of a list. -/
theorem chars_head {v : Json} (h : Exact v) :
    ∃ c cs, chars v = c :: cs ∧ blank c = false ∧ c ≠ ']' := by
  cases h with
  | null => exact ⟨_, _, rfl, by decide⟩
  | bool b => cases b <;> exact ⟨_, _, rfl, by decide⟩
  | text s => exact ⟨_, _, rfl, by decide⟩
  | @array items _ => cases items <;> exact ⟨_, _, rfl, by decide⟩
  | @object fields _ _ => cases fields <;> exact ⟨_, _, rfl, by decide⟩
  | @integer n _ =>
    rw [chars, Digits.toList_toString]
    split
    · obtain ⟨c, ds, hcs, hdigit⟩ := Digits.head n.toNat
      refine ⟨c, ds, hcs, blank_of_isDigit hdigit, ?_⟩
      rintro rfl
      exact absurd hdigit (by decide)
    · exact ⟨_, _, rfl, by decide⟩

/-! ## Leaves -/

/-- A value without brackets is read by the reader that its first character calls for. -/
theorem valueWithin_leaf {c : Char} {cs : List Char} {p : Place} (hblank : blank c = false)
    {result : Except Stop (Json × Cursor)} (hleaf : leaf? ⟨c :: cs, p⟩ = some result)
    {fuel n depth : Nat} (hfuel : n < fuel) : valueWithin fuel depth ⟨c :: cs, p⟩ = result := by
  obtain ⟨fuel, rfl⟩ := Nat.exists_eq_succ_of_ne_zero (Nat.ne_of_gt (Nat.zero_lt_of_lt hfuel))
  rw [valueWithin]
  simp only [skipBlanks_cons hblank, hleaf]

theorem ReadsBack.null (depth : Nat) : ReadsBack depth .null :=
  fun _ _ hfuel _ _ => ⟨_, valueWithin_leaf rfl rfl hfuel⟩

theorem ReadsBack.bool (depth : Nat) (b : Bool) : ReadsBack depth (.bool b) := by
  intro fuel rest hfuel _ p
  cases b with
  | true => exact ⟨_, valueWithin_leaf rfl rfl hfuel⟩
  | false => exact ⟨_, valueWithin_leaf rfl rfl hfuel⟩

theorem ReadsBack.text (depth : Nat) (s : String) : ReadsBack depth (.text s) := by
  intro fuel rest hfuel _ p
  have hchars : chars (.text s) ++ rest = '"' :: (s.toList.flatMap escapeChar ++ '"' :: rest) := by
    simp [chars, quoted]
  obtain ⟨p', hadvance⟩ := advance_cons '"' (s.toList.flatMap escapeChar ++ '"' :: rest) p
  obtain ⟨q, hread⟩ := string_quoted s rest p'
  have hleaf : leaf? ⟨'"' :: (s.toList.flatMap escapeChar ++ '"' :: rest), p⟩ =
      some (.ok (.text s, ⟨rest, q⟩)) := by
    simp only [leaf?, hadvance, hread]
    rfl
  rw [hchars]
  exact ⟨q, valueWithin_leaf rfl hleaf hfuel⟩

/-- A value that starts with a digit is a number without a sign. -/
theorem leaf?_digit {c : Char} (hc : c.isDigit) (cs : List Char) (p : Place) :
    leaf? ⟨c :: cs, p⟩ =
      some ((number false ⟨c :: cs, p⟩).map fun (n, k) => (n.toJson, k)) := by
  have hdigit : ('0' ≤ c && c ≤ '9') = true := hc
  unfold leaf?
  split
  all_goals rename_i h; cases h
  case h_6 => rw [if_pos hdigit]
  all_goals exact absurd hc (by decide)

theorem ReadsBack.integer (depth : Nat) {n : Int} (hn : IsWord n) :
    ReadsBack depth (.integer n) := by
  intro fuel rest hfuel hrest p
  obtain ⟨hlow, hhigh⟩ := hn
  have hword : ((Nat.pow 2 63 : Nat) : Int) < (Nat.pow 2 64 : Nat) := by decide
  rw [chars, Digits.toList_toString] at hfuel ⊢
  split
  · rename_i hnonneg
    have hcast : ((n.toNat : Nat) : Int) = n := Int.toNat_of_nonneg hnonneg
    have hlt : n.toNat < significandLimit := by unfold significandLimit; omega
    obtain ⟨c, ds, hcs, hdigit⟩ := Digits.head n.toNat
    obtain ⟨q, hread⟩ := number_toDigits false hrest hlt nofun p
    refine ⟨q, ?_⟩
    rw [hcs, List.cons_append] at hread ⊢
    refine valueWithin_leaf (blank_of_isDigit hdigit) ((leaf?_digit hdigit _ _).trans ?_) hfuel
    rw [hread, hcast]
    rfl
  · rename_i hneg
    have hpos : 0 < (-n).toNat ∧ (-n).toNat ≤ Nat.pow 2 63 := by omega
    have hcast : -(((-n).toNat : Nat) : Int) = n := by omega
    have hlt : (-n).toNat < significandLimit := by unfold significandLimit; omega
    obtain ⟨p', hadvance⟩ := advance_cons '-' (Nat.toDigits 10 (-n).toNat ++ rest) p
    obtain ⟨q, hread⟩ := number_toDigits true hrest hlt (fun _ => hpos) p'
    refine ⟨q, valueWithin_leaf rfl ?_ hfuel⟩
    show some ((number true (advance ⟨'-' :: (Nat.toDigits 10 (-n).toNat ++ rest), p⟩)).map _) = _
    rw [hadvance, hread, if_pos rfl, hcast]
    rfl

/-! ## Lists -/

/-- What follows an item may follow a value. -/
theorem ends_itemChars (items : List Json) (rest : List Char) : Ends (itemChars items ++ rest) := by
  cases items with
  | nil => exact .bracket _
  | cons v vs => rw [itemChars]; exact .comma _

/-- At the comma in front of an item the reader goes on to the item. -/
theorem nextItem_cons {v : Json} (hv : Exact v) (vs : List Json) (rest : List Char) (p : Place) :
    ∃ q, nextItem false ⟨itemChars (v :: vs) ++ rest, p⟩ =
      .ok (true, ⟨chars v ++ (itemChars vs ++ rest), q⟩) := by
  obtain ⟨c, cs, hcs, hblank, hbracket⟩ := chars_head hv
  obtain ⟨q, hadvance⟩ := advance_cons ',' (c :: (cs ++ (itemChars vs ++ rest))) p
  refine ⟨q, ?_⟩
  simp only [itemChars, hcs, List.cons_append, List.append_assoc]
  unfold nextItem
  rw [skipBlanks_cons rfl]
  simp only [Bool.false_eq_true, if_false, hadvance, skipBlanks_cons hblank]
  split
  · rename_i heq
    cases heq
  · rename_i heq
    cases heq
    exact absurd rfl hbracket
  · rfl

/-- Behind the opening bracket the reader stands at the first item. -/
theorem nextItem_first {v : Json} (hv : Exact v) (cs : List Char) (p : Place) :
    nextItem true ⟨chars v ++ cs, p⟩ = .ok (true, ⟨chars v ++ cs, p⟩) := by
  obtain ⟨c, ds, hds, hblank, hbracket⟩ := chars_head hv
  rw [hds, List.cons_append]
  unfold nextItem
  rw [skipBlanks_cons hblank]
  simp only [if_true]
  split
  · rename_i heq
    cases heq
  · rename_i heq
    cases heq
    exact absurd rfl hbracket
  · rfl
  · rfl

/-- The items behind the first one are read up to the bracket. -/
theorem itemsWithin_append {depth : Nat} {items : List Json} (hexact : ∀ v ∈ items, Exact v)
    (h : ∀ v ∈ items, ReadsBack depth v) (read : List Json) {fuel : Nat}
    (hfuel : 2 * (itemChars items).length < fuel) (rest : List Char) :
    Reads (itemsWithin fuel depth false read) (itemChars items ++ rest)
      (.array (read.reverse ++ items)) rest := by
  intro p
  induction items generalizing fuel read p with
  | nil =>
    obtain ⟨fuel, rfl⟩ := Nat.exists_eq_add_one_of_ne_zero (Nat.ne_zero_of_lt hfuel)
    exact ⟨_, by rw [List.append_nil]; rfl⟩
  | cons v vs ih =>
    obtain ⟨fuel, rfl⟩ := Nat.exists_eq_add_one_of_ne_zero (Nat.ne_zero_of_lt hfuel)
    obtain ⟨hv, hvs⟩ := List.forall_mem_cons.mp h
    obtain ⟨hvexact, hvsexact⟩ := List.forall_mem_cons.mp hexact
    have hlen : (itemChars (v :: vs)).length = 1 + (chars v).length + (itemChars vs).length := by
      simp [itemChars]; omega
    have hvfuel : 2 * (chars v).length < fuel := by omega
    have hvsfuel : 2 * (itemChars vs).length < fuel := by omega
    obtain ⟨p', hnext⟩ := nextItem_cons hvexact vs rest p
    obtain ⟨p'', hvalue⟩ := hv fuel (itemChars vs ++ rest) hvfuel (ends_itemChars vs rest) p'
    obtain ⟨q, hrest⟩ := ih hvsexact hvs (v :: read) hvsfuel p''
    refine ⟨q, ?_⟩
    rw [itemsWithin, hnext]
    simp only [hvalue, hrest, List.reverse_cons, List.append_assoc, List.singleton_append]

/-- A list is read from its text if its items are. -/
theorem ReadsBack.array {depth : Nat} {items : List Json} (hexact : ∀ v ∈ items, Exact v)
    (h : ∀ v ∈ items, ReadsBack depth v) (hdepth : 0 < depth) :
    ReadsBack (depth + 1) (.array items) := by
  intro fuel rest hfuel hrest p
  obtain ⟨fuel, rfl⟩ := Nat.exists_eq_add_one_of_ne_zero (Nat.ne_zero_of_lt hfuel)
  have hopen (cs : List Char) : valueWithin (fuel + 1) (depth + 1) ⟨'[' :: cs, p⟩ =
      itemsWithin fuel depth true [] (advance ⟨'[' :: cs, p⟩) := by
    rw [valueWithin, skipBlanks_cons rfl]
    exact if_neg (by omega)
  obtain ⟨fuel, rfl⟩ : ∃ n, fuel = n + 1 := by
    refine Nat.exists_eq_add_one_of_ne_zero ?_
    cases items <;> simp [chars] at hfuel <;> omega
  cases items with
  | nil => exact ⟨_, by rw [chars]; exact hopen _⟩
  | cons v vs =>
    obtain ⟨hv, hvs⟩ := List.forall_mem_cons.mp h
    obtain ⟨hvexact, hvsexact⟩ := List.forall_mem_cons.mp hexact
    have hlen : (chars (.array (v :: vs))).length =
        1 + (chars v).length + (itemChars vs).length := by
      simp [chars]; omega
    have hvfuel : 2 * (chars v).length < fuel := by omega
    have hvsfuel : 2 * (itemChars vs).length < fuel := by omega
    obtain ⟨p', hadvance⟩ := advance_cons '[' (chars v ++ (itemChars vs ++ rest)) p
    obtain ⟨p'', hvalue⟩ := hv fuel (itemChars vs ++ rest) hvfuel (ends_itemChars vs rest) p'
    obtain ⟨q, hrest⟩ := itemsWithin_append hvsexact hvs [v] hvsfuel rest p''
    refine ⟨q, ?_⟩
    simp only [chars, List.cons_append, List.append_assoc]
    rw [hopen, hadvance, itemsWithin, nextItem_first hvexact]
    simp only [hvalue, hrest, List.reverse_singleton, List.singleton_append]

/-! ## Objects -/

/-- What follows a field may follow a value. -/
theorem ends_fieldChars (fields : List (String × Json)) (rest : List Char) :
    Ends (fieldChars fields ++ rest) := by
  cases fields with
  | nil => exact .brace _
  | cons f fs => rw [fieldChars]; exact .comma _

/-- The colon behind a name. -/
theorem colon_cons (cs : List Char) (p : Place) : ∃ q, colon ⟨':' :: cs, p⟩ = .ok ⟨cs, q⟩ :=
  ⟨_, rfl⟩

/-- Behind the opening brace the reader takes the first name. -/
theorem nextName_first (name : String) (cs : List Char) (p : Place) :
    ∃ q, nextName true ⟨quoted name ++ cs, p⟩ = .ok (some name, ⟨cs, q⟩) := by
  obtain ⟨p', hadvance⟩ := advance_cons '"' (name.toList.flatMap escapeChar ++ '"' :: cs) p
  obtain ⟨q, hread⟩ := string_quoted name cs p'
  refine ⟨q, ?_⟩
  have hquoted : quoted name ++ cs = '"' :: (name.toList.flatMap escapeChar ++ '"' :: cs) := by
    simp [quoted]
  rw [hquoted]
  unfold nextName
  rw [skipBlanks_cons rfl]
  simp only [if_true, hadvance, hread]
  rfl

/-- At the comma in front of a field the reader goes on to its name. -/
theorem nextName_cons (name : String) (cs : List Char) (p : Place) :
    ∃ q, nextName false ⟨',' :: (quoted name ++ cs), p⟩ = .ok (some name, ⟨cs, q⟩) := by
  have hquoted : quoted name ++ cs = '"' :: (name.toList.flatMap escapeChar ++ '"' :: cs) := by
    simp [quoted]
  rw [hquoted]
  obtain ⟨p₁, hcomma⟩ := advance_cons ',' ('"' :: (name.toList.flatMap escapeChar ++ '"' :: cs)) p
  obtain ⟨p₂, hquote⟩ := advance_cons '"' (name.toList.flatMap escapeChar ++ '"' :: cs) p₁
  obtain ⟨q, hread⟩ := string_quoted name cs p₂
  refine ⟨q, ?_⟩
  unfold nextName
  rw [skipBlanks_cons rfl]
  simp only [Bool.false_eq_true, if_false, hcomma,
    skipBlanks_cons (show blank '"' = false from rfl), hquote, hread]
  rfl

/-- The fields behind the first one are read up to the brace. -/
theorem entriesWithin_append {depth : Nat} {fields : Table String Json}
    (h : ∀ f ∈ fields, ReadsBack depth f.2) (read : Table String Json)
    (hsorted : Table.Sorted (read ++ fields)) {fuel : Nat}
    (hfuel : 2 * (fieldChars fields).length < fuel) (rest : List Char) :
    Reads (entriesWithin fuel depth false read) (fieldChars fields ++ rest)
      (.object (read ++ fields)) rest := by
  intro p
  induction fields generalizing fuel read p with
  | nil =>
    obtain ⟨fuel, rfl⟩ := Nat.exists_eq_add_one_of_ne_zero (Nat.ne_zero_of_lt hfuel)
    exact ⟨_, by rw [List.append_nil]; rfl⟩
  | cons f fs ih =>
    obtain ⟨fuel, rfl⟩ := Nat.exists_eq_add_one_of_ne_zero (Nat.ne_zero_of_lt hfuel)
    obtain ⟨hf, hfs⟩ := List.forall_mem_cons.mp h
    have hlen : (fieldChars (f :: fs)).length =
        2 + (quoted f.1).length + (chars f.2).length + (fieldChars fs).length := by
      simp [fieldChars]; omega
    have hffuel : 2 * (chars f.2).length < fuel := by omega
    have hfsfuel : 2 * (fieldChars fs).length < fuel := by omega
    have hinsert : Table.insert f.1 f.2 read = read ++ [f] := Table.insert_of_sorted_append hsorted
    obtain ⟨p₁, hname⟩ := nextName_cons f.1 (':' :: (chars f.2 ++ (fieldChars fs ++ rest))) p
    obtain ⟨p₂, hcolon⟩ := colon_cons (chars f.2 ++ (fieldChars fs ++ rest)) p₁
    obtain ⟨p₃, hvalue⟩ := hf fuel (fieldChars fs ++ rest) hffuel (ends_fieldChars fs rest) p₂
    obtain ⟨q, hrest⟩ := ih hfs (read ++ [f]) (by simpa using hsorted) hfsfuel p₃
    refine ⟨q, ?_⟩
    simp only [fieldChars, List.cons_append, List.append_assoc]
    rw [entriesWithin, hname]
    simp only [hcolon, hvalue, hinsert, hrest, List.append_assoc, List.singleton_append]

/-- An object is read from its text if the values of its fields are. -/
theorem ReadsBack.object {depth : Nat} {fields : Table String Json} (hsorted : fields.Sorted)
    (h : ∀ f ∈ fields, ReadsBack depth f.2) (hdepth : 0 < depth) :
    ReadsBack (depth + 1) (.object fields) := by
  intro fuel rest hfuel hrest p
  obtain ⟨fuel, rfl⟩ := Nat.exists_eq_add_one_of_ne_zero (Nat.ne_zero_of_lt hfuel)
  have hopen (cs : List Char) : valueWithin (fuel + 1) (depth + 1) ⟨'{' :: cs, p⟩ =
      entriesWithin fuel depth true [] (advance ⟨'{' :: cs, p⟩) := by
    rw [valueWithin, skipBlanks_cons rfl]
    exact if_neg (by omega)
  obtain ⟨fuel, rfl⟩ : ∃ n, fuel = n + 1 := by
    refine Nat.exists_eq_add_one_of_ne_zero ?_
    cases fields <;> simp [chars] at hfuel <;> omega
  cases fields with
  | nil => exact ⟨_, by rw [chars]; exact hopen _⟩
  | cons f fs =>
    obtain ⟨hf, hfs⟩ := List.forall_mem_cons.mp h
    have hlen : (chars (.object (f :: fs))).length =
        2 + (quoted f.1).length + (chars f.2).length + (fieldChars fs).length := by
      simp [chars]; omega
    have hffuel : 2 * (chars f.2).length < fuel := by omega
    have hfsfuel : 2 * (fieldChars fs).length < fuel := by omega
    obtain ⟨p₁, hadvance⟩ :=
      advance_cons '{' (quoted f.1 ++ ':' :: (chars f.2 ++ (fieldChars fs ++ rest))) p
    obtain ⟨p₂, hname⟩ := nextName_first f.1 (':' :: (chars f.2 ++ (fieldChars fs ++ rest))) p₁
    obtain ⟨p₃, hcolon⟩ := colon_cons (chars f.2 ++ (fieldChars fs ++ rest)) p₂
    obtain ⟨p₄, hvalue⟩ := hf fuel (fieldChars fs ++ rest) hffuel (ends_fieldChars fs rest) p₃
    obtain ⟨q, hrest⟩ := entriesWithin_append hfs [f] hsorted hfsfuel rest p₄
    refine ⟨q, ?_⟩
    simp only [chars, List.cons_append, List.append_assoc]
    rw [hopen, hadvance, entriesWithin, hname]
    simp only [hcolon, hvalue]
    exact hrest

/-! ## Values -/

/-- A value is read from its text if more brackets may be open than it has. -/
theorem ReadsBack.of_exact {v : Json} (h : Exact v) {depth : Nat} (hdepth : nesting v < depth) :
    ReadsBack depth v := by
  induction h generalizing depth with
  | null => exact .null depth
  | bool b => exact .bool depth b
  | integer hn => exact .integer depth hn
  | text s => exact .text depth s
  | @array items hexact ih =>
    rw [nesting] at hdepth
    obtain ⟨depth, rfl⟩ := Nat.exists_eq_add_one_of_ne_zero (Nat.ne_zero_of_lt hdepth)
    refine .array hexact (fun v hv => ih v hv ?_) (by omega)
    have hle := nesting_le_items hv
    omega
  | @object fields hsorted hexact ih =>
    rw [nesting] at hdepth
    obtain ⟨depth, rfl⟩ := Nat.exists_eq_add_one_of_ne_zero (Nat.ne_zero_of_lt hdepth)
    refine .object hsorted (fun f hf => ih f hf ?_) (by omega)
    have hle := nesting_le_fields hf
    omega

end Cursor

/-- The text of an exact value that is not too deep is read as the value. -/
theorem ofText_compact {v : Json} (h : Exact v) (hdepth : nesting v < depthLimit) :
    ofText (compact v) = .ok v := by
  obtain ⟨q, hread⟩ := Cursor.ReadsBack.of_exact h hdepth
    (Cursor.start (compact v)).stepBound [] (by simp [Cursor.stepBound, Cursor.start, compact])
    .nil ⟨1, 0⟩
  have hvalue : Cursor.value depthLimit (Cursor.start (compact v)) = .ok (v, ⟨[], q⟩) := by
    rw [List.append_nil] at hread
    unfold Cursor.value
    rw [← hread]
    simp [Cursor.start, compact]
  unfold ofText
  rw [hvalue]
  rfl

end BookingNotices.Json
