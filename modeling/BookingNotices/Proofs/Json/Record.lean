import BookingNotices.Json.Shape
import BookingNotices.Proofs.Identity
import BookingNotices.Proofs.Table

/-!
# Records whose fields must all be there

* `Fields.required`     : fields none of which may be left out;
* `Shape.Named`         : an object holds the values of the fields under their names;
* `Shape.Listed`        : a list holds the values of the fields in their order;
* `ofJson_required_iff` : what reads as such a record is an object or a list of this kind, and
  nothing else.

The entries of an object are read one after the other into a draft. `Filled` says what all of them
leave in the draft, whatever was in it; the step is by induction on the fields.
-/

namespace BookingNotices.Json

/-- The fields of a record that must all be there. -/
def Fields.required : List (String × Shape) → Fields
  | [] => .nil
  | (name, shape) :: rest => .cons name .required shape (required rest)

/-- No name stands for two fields of an object. -/
def Distinct : Json → Prop
  | .object fields => (Table.keys fields).Nodup
  | _ => True

namespace Shape

/-- The values of fields that must all be there. -/
abbrev Values (fs : List (String × Shape)) : Type := (Fields.required fs).Values

/-- The values of those of the fields that have been met. -/
abbrev Draft (fs : List (String × Shape)) : Type := (Fields.required fs).Draft

/-- The entries of an object hold these values, each under the name of its field. -/
def Named (entries : List (String × Json)) : (fs : List (String × Shape)) → Values fs → Prop
  | [], _ => True
  | (name, shape) :: fs, (v, vs) =>
    (∃ j, Table.find? name entries = some j ∧ shape.ofJson j = .ok v) ∧ Named entries fs vs

/-- A list holds these values, in the order of their fields. -/
def Listed : (fs : List (String × Shape)) → List Json → Values fs → Prop
  | [], items, _ => items = []
  | (_, shape) :: fs, items, (v, vs) =>
    ∃ j rest, items = j :: rest ∧ shape.ofJson j = .ok v ∧ Listed fs rest vs

/-! ## Objects -/

theorem ofJson_object (name : String) (fields : Fields) (entries : List (String × Json)) :
    (Shape.record name fields).ofJson (.object entries) =
      (entries.foldlM (fun draft entry => fields.enter entry.1 entry.2 draft) fields.blank).bind
        fields.finish := by
  unfold Shape.ofJson
  dsimp only
  cases entries.foldlM (fun draft entry => fields.enter entry.1 entry.2 draft) fields.blank <;> rfl

/-- What the entries of an object leave in the place of a field. -/
def FilledAt (entries : List (String × Json)) (name : String) (shape : Shape)
    (before after : Option shape.Value) : Prop :=
  match Table.find? name entries with
  | none => after = before
  | some j => ∃ v, shape.ofJson j = .ok v ∧ after = some v

/-- What the entries of an object leave in a draft. -/
def Filled (entries : List (String × Json)) :
    (fs : List (String × Shape)) → Draft fs → Draft fs → Prop
  | [], _, _ => True
  | (name, shape) :: fs, (o, d), (o', d') =>
    FilledAt entries name shape o o' ∧ Filled entries fs d d'

theorem FilledAt.cons_of_ne {entries : List (String × Json)} {name field : String} {j : Json}
    (hne : name ≠ field) {shape : Shape} (before after : Option shape.Value) :
    FilledAt ((name, j) :: entries) field shape before after ↔
      FilledAt entries field shape before after := by
  unfold FilledAt
  rw [show Table.find? field ((name, j) :: entries) = Table.find? field entries from if_neg hne]

theorem Filled.nil {fs : List (String × Shape)} (d d' : Draft fs) : Filled [] fs d d' ↔ d = d' := by
  induction fs with
  | nil => exact ⟨fun _ => rfl, fun _ => trivial⟩
  | cons f fs ih =>
    obtain ⟨o, d⟩ := d
    obtain ⟨o', d'⟩ := d'
    show (o' = o ∧ Filled [] fs d d') ↔ _
    rw [ih d d']
    constructor
    · rintro ⟨rfl, rfl⟩
      rfl
    · intro h
      cases h
      exact ⟨rfl, rfl⟩

/-- An entry of another name is not seen by the fields. -/
theorem Filled.cons_of_ne {entries : List (String × Json)} {name : String} {j : Json}
    {fs : List (String × Shape)} (hname : name ∉ fs.map (·.1)) (d d' : Draft fs) :
    Filled ((name, j) :: entries) fs d d' ↔ Filled entries fs d d' := by
  induction fs with
  | nil => exact Iff.rfl
  | cons f fs ih =>
    obtain ⟨hne, hname⟩ := not_or.mp (hname ∘ List.mem_cons.mpr)
    obtain ⟨o, d⟩ := d
    obtain ⟨o', d'⟩ := d'
    show (FilledAt _ f.1 f.2 o o' ∧ Filled _ fs d d') ↔ (FilledAt _ f.1 f.2 o o' ∧ Filled _ fs d d')
    rw [FilledAt.cons_of_ne hne, ih hname]

/-- The first entry of an object is entered, and then the others. -/
theorem filled_cons_iff {entries : List (String × Json)} {name : String} {j : Json}
    (hfresh : Table.find? name entries = none) {fs : List (String × Shape)}
    (hfs : (fs.map (·.1)).Nodup) (d d' : Draft fs) :
    (∃ d₁, (Fields.required fs).enter name j d = .ok d₁ ∧ Filled entries fs d₁ d') ↔
      Filled ((name, j) :: entries) fs d d' := by
  induction fs with
  | nil => exact ⟨fun _ => trivial, fun _ => ⟨d, rfl, trivial⟩⟩
  | cons f fs ih =>
    obtain ⟨field, shape⟩ := f
    obtain ⟨hfield, hfs⟩ := List.nodup_cons.mp hfs
    obtain ⟨o, d⟩ := d
    obtain ⟨o', d'⟩ := d'
    by_cases heq : name = field
    · subst heq
      have henter : (Fields.required ((name, shape) :: fs)).enter name j (o, d) =
          (shape.ofJson j).map fun v => (some v, d) := by
        show (if name = name then _ else _) = _
        exact if_pos rfl
      have hat (v : shape.Value) : FilledAt entries name shape (some v) o' ↔ o' = some v := by
        unfold FilledAt
        rw [hfresh]
      have hall : FilledAt ((name, j) :: entries) name shape o o' ↔
          ∃ v, shape.ofJson j = .ok v ∧ o' = some v := by
        unfold FilledAt Table.find?
        rw [if_pos rfl]
      show _ ↔ FilledAt _ name shape o o' ∧ Filled _ fs d d'
      rw [henter, hall, Filled.cons_of_ne hfield]
      constructor
      · rintro ⟨⟨o₁, d₁⟩, hread, hfirst, hrest⟩
        cases hv : shape.ofJson j with
        | error e =>
          rw [hv] at hread
          cases hread
        | ok v =>
          rw [hv] at hread
          cases hread
          exact ⟨⟨v, rfl, (hat v).mp hfirst⟩, hrest⟩
      · rintro ⟨⟨v, hv, ho⟩, hrest⟩
        exact ⟨(some v, d), by rw [hv]; rfl, (hat v).mpr ho, hrest⟩
    · have henter : (Fields.required ((field, shape) :: fs)).enter name j (o, d) =
          ((Fields.required fs).enter name j d).map (o, ·) := by
        show (if name = field then _ else _) = _
        exact if_neg heq
      show _ ↔ FilledAt _ field shape o o' ∧ Filled _ fs d d'
      rw [henter, FilledAt.cons_of_ne heq, ← ih hfs d d']
      constructor
      · rintro ⟨⟨o₁, d₁⟩, hread, hfirst, hrest⟩
        cases hd : (Fields.required fs).enter name j d with
        | error e =>
          rw [hd] at hread
          cases hread
        | ok d₂ =>
          rw [hd] at hread
          cases hread
          exact ⟨hfirst, d₁, rfl, hrest⟩
      · rintro ⟨hfirst, d₁, hd, hrest⟩
        exact ⟨(o, d₁), by rw [hd]; rfl, hfirst, hrest⟩

/-- All entries of an object are entered, one after the other. -/
theorem foldlM_enter_iff {entries : List (String × Json)} (hentries : (Table.keys entries).Nodup)
    {fs : List (String × Shape)} (hfs : (fs.map (·.1)).Nodup) (d d' : Draft fs) :
    entries.foldlM (fun d e => (Fields.required fs).enter e.1 e.2 d) d = .ok d' ↔
      Filled entries fs d d' := by
  induction entries generalizing d with
  | nil =>
    rw [Filled.nil]
    exact ⟨fun h => by cases h; rfl, fun h => by rw [h]; rfl⟩
  | cons e entries ih =>
    obtain ⟨hfresh, hentries⟩ := List.nodup_cons.mp hentries
    have hfresh : Table.find? e.1 entries = none :=
      Table.find?_eq_none_iff.mpr fun e' he' heq => hfresh (List.mem_map.mpr ⟨e', he', heq⟩)
    rw [List.foldlM_cons, ← filled_cons_iff hfresh hfs]
    cases hd : (Fields.required fs).enter e.1 e.2 d with
    | error p => exact ⟨nofun, fun ⟨_, h, _⟩ => nomatch h⟩
    | ok d₁ =>
      refine (ih hentries d₁).trans ⟨fun h => ⟨d₁, rfl, h⟩, ?_⟩
      rintro ⟨_, ⟨⟩, h⟩
      exact h

/-- A draft that began blank is finished exactly if every field was met. -/
theorem finish_iff {entries : List (String × Json)} {fs : List (String × Shape)} (vs : Values fs) :
    (∃ d, Filled entries fs (Fields.required fs).blank d ∧ (Fields.required fs).finish d = .ok vs) ↔
      Named entries fs vs := by
  induction fs with
  | nil => exact ⟨fun _ => trivial, fun _ => ⟨(), trivial, rfl⟩⟩
  | cons f fs ih =>
    obtain ⟨name, shape⟩ := f
    obtain ⟨v, vs⟩ := vs
    show _ ↔ (∃ j, Table.find? name entries = some j ∧ shape.ofJson j = .ok v) ∧ Named entries fs vs
    rw [← ih vs]
    constructor
    · rintro ⟨⟨o, d⟩, ⟨hat, hrest⟩, hfinish⟩
      unfold FilledAt at hat
      cases o with
      | none => cases hfinish
      | some u =>
        have hfinish : ((Fields.required fs).finish d).map (u, ·) = .ok (v, vs) := hfinish
        cases hvs : (Fields.required fs).finish d with
        | error p =>
          rw [hvs] at hfinish
          cases hfinish
        | ok us =>
          rw [hvs] at hfinish
          cases hfinish
          split at hat
          · cases hat
          · rename_i j hj
            obtain ⟨_, hread, ⟨⟩⟩ := hat
            exact ⟨⟨j, hj, hread⟩, d, hrest, hvs⟩
    · rintro ⟨⟨j, hj, hread⟩, d, hrest, hfinish⟩
      refine ⟨(some v, d), ⟨?_, hrest⟩, ?_⟩
      · unfold FilledAt
        rw [hj]
        exact ⟨v, hread, rfl⟩
      · show ((Fields.required fs).finish d).map (v, ·) = .ok (v, vs)
        rw [hfinish]
        rfl

/-! ## Lists -/

/-- As many items are taken as there are fields. -/
theorem ofItems_iff {fs : List (String × Shape)} (expected : String) (index : Nat)
    (items left : List Json) (vs : Values fs) :
    (Fields.required fs).ofItems expected index items = .ok (vs, left) ↔
      ∃ front, items = front ++ left ∧ Listed fs front vs := by
  induction fs generalizing index items with
  | nil =>
    obtain ⟨⟩ := vs
    constructor
    · intro h
      cases h
      exact ⟨[], rfl, rfl⟩
    · rintro ⟨front, rfl, hfront⟩
      have hfront : front = [] := hfront
      subst hfront
      rfl
  | cons f fs ih =>
    obtain ⟨name, shape⟩ := f
    obtain ⟨v, vs⟩ := vs
    cases items with
    | nil =>
      constructor
      · intro h
        cases h
      · rintro ⟨front, hfront, j, rest, rfl, -⟩
        cases hfront
    | cons j items =>
      have hcall : (Fields.required ((name, shape) :: fs)).ofItems expected index (j :: items) =
          match shape.ofJson j with
          | .error e => .error e
          | .ok u => ((Fields.required fs).ofItems expected (index + 1) items).map
              fun (us, items) => ((u, us), items) := by
        show (Fields.cons name .required shape (.required fs)).ofItems expected index _ = _
        conv => lhs; unfold Fields.ofItems
        dsimp only
        cases shape.ofJson j <;> rfl
      rw [hcall]
      constructor
      · intro h
        cases hv : shape.ofJson j with
        | error e =>
          rw [hv] at h
          cases h
        | ok u =>
          rw [hv] at h
          dsimp only at h
          cases hus : (Fields.required fs).ofItems expected (index + 1) items with
          | error e =>
            rw [hus] at h
            cases h
          | ok r =>
            rw [hus] at h
            cases h
            obtain ⟨front, rfl, hlisted⟩ := (ih (index + 1) items r.1).mp hus
            exact ⟨j :: front, rfl, j, front, rfl, hv, hlisted⟩
      · rintro ⟨front, hitems, j', rest, rfl, hv, hlisted⟩
        obtain ⟨rfl, htail⟩ := List.cons.inj hitems
        rw [hv]
        dsimp only
        rw [(ih (index + 1) items vs).mpr ⟨rest, htail, hlisted⟩]
        rfl

/-! ## Records -/

/-- What reads as a record all of whose fields must be there is an object that has them under their
names, or the list of them. -/
theorem ofJson_required_iff (name : String) (fs : List (String × Shape))
    (hfs : (fs.map (·.1)).Nodup) {v : Json} (hv : v.Distinct) (vs : Values fs) :
    (Shape.record name (.required fs)).ofJson v = .ok vs ↔
      (∃ entries, v = .object entries ∧ Named entries fs vs) ∨
        ∃ items, v = .array items ∧ Listed fs items vs := by
  cases v with
  | object entries =>
    have hread : (Shape.record name (.required fs)).ofJson (.object entries) = .ok vs ↔
        ∃ d, Filled entries fs (Fields.required fs).blank d ∧
          (Fields.required fs).finish d = .ok vs := by
      rw [ofJson_object]
      simp only [← foldlM_enter_iff hv hfs]
      cases entries.foldlM (fun d e => (Fields.required fs).enter e.1 e.2 d)
          (Fields.required fs).blank with
      | error p => exact ⟨nofun, fun ⟨_, h, _⟩ => nomatch h⟩
      | ok d =>
        refine ⟨fun h => ⟨d, rfl, h⟩, ?_⟩
        rintro ⟨_, ⟨⟩, h⟩
        exact h
    rw [hread, finish_iff]
    constructor
    · exact fun h => Or.inl ⟨entries, rfl, h⟩
    · rintro (⟨_, ⟨⟩, h⟩ | ⟨_, ⟨⟩, _⟩)
      exact h
  | array items =>
    have hread : (Shape.record name (.required fs)).ofJson (.array items) = .ok vs ↔
        (Fields.required fs).ofItems (expectedList name (Fields.required fs).count) 0 items =
          .ok (vs, []) := by
      unfold Shape.ofJson
      dsimp only
      split
      · rename_i h
        rw [h]
        exact ⟨nofun, nofun⟩
      · rename_i h
        rw [h]
        exact ⟨fun h => by cases h; rfl, fun h => by cases h; rfl⟩
      · rename_i h
        rw [h]
        exact ⟨nofun, nofun⟩
    rw [hread, ofItems_iff]
    simp only [List.append_nil]
    constructor
    · rintro ⟨_, rfl, h⟩
      exact Or.inr ⟨_, rfl, h⟩
    · rintro (⟨_, ⟨⟩, _⟩ | ⟨_, ⟨⟩, h⟩)
      exact ⟨_, rfl, h⟩
  | null => exact ⟨nofun, by rintro (⟨_, ⟨⟩, _⟩ | ⟨_, ⟨⟩, _⟩)⟩
  | bool b => exact ⟨nofun, by rintro (⟨_, ⟨⟩, _⟩ | ⟨_, ⟨⟩, _⟩)⟩
  | integer n => exact ⟨nofun, by rintro (⟨_, ⟨⟩, _⟩ | ⟨_, ⟨⟩, _⟩)⟩
  | float x => exact ⟨nofun, by rintro (⟨_, ⟨⟩, _⟩ | ⟨_, ⟨⟩, _⟩)⟩
  | text s => exact ⟨nofun, by rintro (⟨_, ⟨⟩, _⟩ | ⟨_, ⟨⟩, _⟩)⟩

/-! ## Leaves -/

theorem ofJson_integer_iff {width : Text.Width} {name : String} {j : Json} {n : Int} :
    (Shape.integer width name).ofJson j = .ok n ↔ j = .integer n ∧ width.holds n = true := by
  cases j with
  | integer m =>
    show readInteger width name m = .ok n ↔ _
    unfold readInteger
    split
    · rename_i hholds
      constructor
      · intro h
        cases h
        exact ⟨rfl, hholds⟩
      · rintro ⟨⟨⟩, -⟩
        rfl
    · rename_i hholds
      refine ⟨nofun, ?_⟩
      rintro ⟨⟨⟩, h⟩
      exact absurd h hholds
  | null | bool | float | text | array | object => exact ⟨nofun, fun h => nomatch h.1⟩

/-- A code is a number below its limit, if that is no greater than a byte can show. -/
theorem ofJson_code_iff {limit : Nat} (hlimit : limit ≤ 256) {kind : String} {j : Json} {c : Nat} :
    (Shape.code limit kind).ofJson j = .ok c ↔ j = .ofNat c ∧ c < limit := by
  cases j with
  | integer m =>
    have hbyte : Text.Width.u8.holds m = true ↔ 0 ≤ m ∧ m ≤ 255 := Text.Width.holds_iff _ _
    by_cases hholds : Text.Width.u8.holds m = true
    · have hm : ((m.toNat : Nat) : Int) = m := Int.toNat_of_nonneg (hbyte.mp hholds).1
      have hread : readInteger .u8 "u8" m = .ok m := if_pos hholds
      have hcall : (Shape.code limit kind).ofJson (.integer m) = readCode limit kind m := by
        -- the equations of the reader are those of all shapes, and too many to rewrite with
        conv => lhs; whnf
        rw [hread]
      rw [hcall]
      unfold readCode
      split
      · rename_i hlt
        constructor
        · intro h
          cases h
          exact ⟨congrArg Json.integer hm.symm, hlt⟩
        · rintro ⟨⟨⟩, -⟩
          rfl
      · rename_i hlt
        refine ⟨fun h => (by cases h), ?_⟩
        rintro ⟨⟨⟩, h⟩
        exact absurd h hlt
    · have hread : readInteger .u8 "u8" m = .error (.outOfRange m "u8") := if_neg hholds
      have hcall : (Shape.code limit kind).ofJson (.integer m) =
          .error (.outOfRange m "u8") := by
        conv => lhs; whnf
        rw [hread]
      rw [hcall]
      refine ⟨fun h => (by cases h), ?_⟩
      rintro ⟨⟨⟩, h⟩
      exact absurd (hbyte.mpr ⟨Int.natCast_nonneg c, by omega⟩) hholds
  | null | bool | float | text | array | object =>
    exact ⟨fun h => (by cases h), fun h => (by cases h.1)⟩

end Shape

end BookingNotices.Json
