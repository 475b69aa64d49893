import BookingNotices.Json.Document
import BookingNotices.Text.Integer
import BookingNotices.Time.Rfc3339

/-!
# Shapes of documents

* `Shape`       : what a document must be: an integer of a width, a text, one of some names, an
  instant, a record of named fields, or anything;
* `Shape.Value` : the type of the values of a shape;
* `Shape.ofJson` : the value that a JSON value has under a shape;
* `Shape.ofText` : the value that a JSON text has under a shape.

A record may be written as an object or as the list of its fields in order. Fields of other names
are passed over. The first problem met is reported: from a value in the order of the names, from a
text in the order in which it is written; a missing field comes after all fields that are there.
-/

namespace BookingNotices.Json

open Text Time

/-- How a field may be left out. -/
inductive Presence where
  /-- it must be there -/
  | required
  /-- it may be absent from an object, and may be null -/
  | nullable
  /-- it may be absent from an object, and from the end of a list -/
  | defaulted
  deriving DecidableEq, Repr

/-- The values of a field that may be left out. -/
abbrev Presence.Of : Presence → Type → Type
  | .required, α => α
  | .nullable, α => Option α
  | .defaulted, α => Option α

mutual

/-- What a document must be. -/
inductive Shape where
  /-- an integer of a width, which messages call by the given name -/
  | integer (width : Width) (name : String)
  /-- a text, which messages call by the given name -/
  | text (name : String)
  | boolean
  /-- an instant, written as a text -/
  | instant
  /-- a small number below a limit, each of which stands for something; messages say what -/
  | code (limit : Nat) (kind : String)
  /-- one of some names; the choice has a name itself -/
  | choice (kind : String) (names : List String)
  | any
  | record (name : String) (fields : Fields)

/-- The named fields of a record, in the order of its list form. -/
inductive Fields where
  | nil
  | cons (name : String) (presence : Presence) (shape : Shape) (rest : Fields)

end

mutual

/-- The values of a shape. -/
def Shape.Value : Shape → Type
  | .integer _ _ => Int
  | .text _ => String
  | .boolean => Bool
  | .instant => Timestamp
  | .code _ _ => Nat
  | .choice _ _ => String
  | .any => Json
  | .record _ fields => fields.Values

/-- The values of all fields. -/
def Fields.Values : Fields → Type
  | .nil => Unit
  | .cons _ presence shape rest => presence.Of shape.Value × rest.Values

end

/-- The values of the fields met so far. -/
def Fields.Draft : Fields → Type
  | .nil => Unit
  | .cons _ presence shape rest => Option (presence.Of shape.Value) × rest.Draft

namespace Fields

/-- No field met. -/
def blank : (fields : Fields) → fields.Draft
  | .nil => ()
  | .cons _ _ _ rest => (none, rest.blank)

def count : Fields → Nat
  | .nil => 0
  | .cons _ _ _ rest => rest.count + 1

/-- The values of a draft in which all required fields are met. -/
def finish : (fields : Fields) → fields.Draft → Except Problem fields.Values
  | .nil, () => .ok ()
  | .cons _ .required _ rest, (some v, draft) => (rest.finish draft).map (v, ·)
  | .cons name .required _ _, (none, _) => .error (.missingField name)
  | .cons _ .nullable _ rest, (v, draft) => (rest.finish draft).map (v.getD none, ·)
  | .cons _ .defaulted _ rest, (v, draft) => (rest.finish draft).map (v.getD none, ·)

end Fields

namespace Shape

def i64 : Shape := .integer .i64 "i64"
def u64 : Shape := .integer .u64 "u64"
def u32 : Shape := .integer .u32 "u32"
def u16 : Shape := .integer .u16 "u16"
def u8 : Shape := .integer .u8 "u8"
def usize : Shape := .integer .u64 "usize"
def string : Shape := .text "a string"

/-- What messages call a value of the shape. -/
def expected : Shape → String
  | .integer _ name => name
  | .text name => name
  | .boolean => "a boolean"
  | .instant => "an RFC 3339 formatted date and time string"
  | .code _ _ => "u8"
  | .choice _ _ => "string or map"
  | .any => "any value"
  | .record name _ => "struct " ++ name

/-- How messages speak of a record as a list. -/
def expectedList (name : String) (count : Nat) : String :=
  "struct " ++ name ++ " with " ++ toString count ++ (if count = 1 then " element" else " elements")

/-- An integer under a width. -/
def readInteger (width : Width) (name : String) (n : Int) : Except Problem Int :=
  if width.holds n then .ok n else .error (.outOfRange n name)

/-- A code under its limit. -/
def readCode (limit : Nat) (kind : String) (n : Int) : Except Problem Nat :=
  if n.toNat < limit then .ok n.toNat
  else .error (.meaningless ("Unknown " ++ kind ++ " value: " ++ toString n))

/-- One of the names of a choice. -/
def readName (names : List String) (s : String) : Except Problem String :=
  if names.contains s then .ok s else .error (.unknownVariant s names)

/-- The instant that a text means. -/
def readInstant (s : String) : Except Problem Timestamp :=
  (Rfc3339.readRelaxed s.toList).mapError fun p => .meaningless p.message

end Shape

/-! ## From values -/

mutual

/-- The value of a JSON value under a shape. -/
def Shape.ofJson : (shape : Shape) → Json → Except Problem shape.Value
  | .integer width name, j =>
    match j with
    | .integer n => Shape.readInteger width name n
    | j => .error (.wrongType j.found name)
  | .text name, j =>
    match j with
    | .text s => .ok s
    | j => .error (.wrongType j.found name)
  | .boolean, j =>
    match j with
    | .bool b => .ok b
    | j => .error (.wrongType j.found "a boolean")
  | .instant, j =>
    match j with
    | .text s => Shape.readInstant s
    | j => .error (.wrongType j.found Shape.instant.expected)
  | .code limit kind, j =>
    match j with
    | .integer n =>
      match Shape.readInteger .u8 "u8" n with
      | .error e => .error e
      | .ok n => Shape.readCode limit kind n
    | j => .error (.wrongType j.found "u8")
  | .choice _ names, j =>
    match j with
    | .text s => Shape.readName names s
    | .object [(s, v)] =>
      match Shape.readName names s, v with
      | .error e, _ => .error e
      | .ok s, .null => .ok s
      | .ok _, v => .error (.wrongType v.found "unit")
    | .object _ => .error .notSingleKey
    | j => .error (.wrongType j.found "string or map")
  | .any, j => .ok j
  | .record name fields, j =>
    match j with
    | .array items =>
      match fields.ofItems (Shape.expectedList name fields.count) 0 items with
      | .error e => .error e
      | .ok (values, []) => .ok values
      | .ok (_, _ :: _) => .error (.wrongLength items.length "fewer elements in array")
    | .object entries =>
      match entries.foldlM (fun draft (name, v) => fields.enter name v draft) fields.blank with
      | .error e => .error e
      | .ok draft => fields.finish draft
    | j => .error (.wrongType j.found ("struct " ++ name))

/-- The value of a JSON value under a field. -/
def Fields.ofItems : (fields : Fields) → (expected : String) → Nat → List Json →
    Except Problem (fields.Values × List Json)
  | .nil, _, _, items => .ok ((), items)
  | .cons _ presence shape rest, expected, index, items =>
    match items with
    | v :: items =>
      let value : Except Problem (presence.Of shape.Value) :=
        match presence, v with
        | .required, v => shape.ofJson v
        | .nullable, .null => .ok none
        | .nullable, v => (shape.ofJson v).map some
        | .defaulted, v => (shape.ofJson v).map some
      match value with
      | .error e => .error e
      | .ok value =>
        (rest.ofItems expected (index + 1) items).map fun (vs, items) => ((value, vs), items)
    | [] =>
      match presence with
      | .defaulted =>
        (rest.ofItems expected (index + 1) []).map fun (vs, items) => ((none, vs), items)
      | .required => .error (.wrongLength index expected)
      | .nullable => .error (.wrongLength index expected)

/-- Enters a field of an object into a draft. -/
def Fields.enter : (fields : Fields) → String → Json → fields.Draft → Except Problem fields.Draft
  | .nil, _, _, draft => .ok draft
  | .cons field presence shape rest, name, v, (value, draft) =>
    if name = field then
      let value : Except Problem (presence.Of shape.Value) :=
        match presence, v with
        | .required, v => shape.ofJson v
        | .nullable, .null => .ok none
        | .nullable, v => (shape.ofJson v).map some
        | .defaulted, v => (shape.ofJson v).map some
      value.map fun value => (some value, draft)
    else (rest.enter name v draft).map (value, ·)

end

/-! ## From texts -/

namespace Cursor

/-- Stops with a problem at the place reached. -/
private def stop {α : Type} (k : Cursor) (p : Problem) : Except Stop α := .error (.placed p k.place)

/-- Something else than what was expected stands at the cursor; what it is is read first, a bracket
apart. -/
private def wrongType {α : Type} (expected : String) (k : Cursor) : Except Stop α :=
  match k.leaf? with
  | some (.error e) => .error e
  | some (.ok (v, k)) => k.stop (.wrongType v.found expected)
  | none =>
    match k.rest with
    | [] => k.fail .endInValue
    | '[' :: _ => k.stop (.wrongType .sequence expected)
    | '{' :: _ => k.stop (.wrongType .map expected)
    | _ => k.failNext .expectedValue

/-- The outcome of a check, a problem being placed where the cursor stands. -/
private def check {α : Type} (k : Cursor) : Except Problem α → Except Stop (α × Cursor)
  | .error p => k.stop p
  | .ok v => .ok (v, k)

/-- Reads a leaf that is an integer of a width. -/
private def integer (width : Width) (name : String) : Reader Int := fun k =>
  let k := k.skipBlanks
  match k.leaf? with
  | some (.ok (.integer n, k)) => k.check (Shape.readInteger width name n)
  | _ => k.wrongType name

/-- Reads a leaf that is a text. -/
private def textLeaf (name : String) : Reader String := fun k =>
  let k := k.skipBlanks
  match k.leaf? with
  | some (.ok (.text s, k)) => .ok (s, k)
  | _ => k.wrongType name

/-- Reads the name in the braces of a choice that is written as an object. -/
private def choiceName : Reader String := fun k =>
  let k := k.skipBlanks
  match k.rest with
  | [] => k.fail .endInObject
  | '"' :: _ => k.textLeaf "variant identifier"
  | '}' :: _ => k.failNext .expectedValue
  | _ => k.failNext .keyNotText

/-- Whether the next value is null, which is then read. -/
private def nullLeaf (k : Cursor) : Except Stop (Bool × Cursor) :=
  let k := k.skipBlanks
  match k.rest with
  | 'n' :: _ => (k.advance.literal "ull".toList).map (true, ·)
  | _ => .ok (false, k)

/-- The place reached by the bracket that should close a list. -/
private def listEnd (k : Cursor) : Cursor × Option Stop :=
  let k := k.skipBlanks
  match k.rest with
  | ']' :: _ => (k.advance, none)
  | ',' :: _ =>
    let k := k.advance.skipBlanks
    match k.rest with
    | ']' :: _ => (k, some (.placed (.breach .trailingComma) k.placeOfNext))
    | _ => (k, some (.placed (.breach .trailingCharacters) k.placeOfNext))
  | [] => (k, some (.placed (.breach .endInList) k.place))
  | _ => (k, some (.placed (.breach .trailingCharacters) k.placeOfNext))

/-- The place reached by the brace that should close an object. -/
private def objectEnd (k : Cursor) : Cursor × Option Stop :=
  let k := k.skipBlanks
  match k.rest with
  | '}' :: _ => (k.advance, none)
  | ',' :: _ => (k, some (.placed (.breach .trailingComma) k.placeOfNext))
  | [] => (k, some (.placed (.breach .endInObject) k.place))
  | _ => (k, some (.placed (.breach .trailingCharacters) k.placeOfNext))

/-- Ends the reading of a record by its closing bracket. A problem that has no place yet gets the
place behind it. -/
private def close {α : Type} (ending : Cursor → Cursor × Option Stop) :
    Except Stop (α × Cursor) → Except Stop (α × Cursor)
  | .ok (v, k) =>
    match ending k with
    | (k, none) => .ok (v, k)
    | (_, some e) => .error e
  | .error (.pending p k) => .error (.placed p (ending k).1.place)
  | .error e => .error e

/-- Reads the fields of an object up to its brace. `enter` reads the value of a field that the
record has; the values of all others are passed over. -/
private def entries {α : Type} (enter : String → α → Option (Reader α)) :
    Nat → Bool → α → Reader α
  | 0, _, draft, k => .ok (draft, k)
  | fuel + 1, first, draft, k =>
    match nextName first k with
    | .error e => .error e
    | .ok (none, k) => .ok (draft, k)
    | .ok (some name, k) =>
      match enter name draft with
      | some reader =>
        match reader k with
        | .error e => .error e
        | .ok (draft, k) => entries enter fuel false draft k
      | none =>
        match k.colon >>= skipValue with
        | .error e => .error e
        | .ok k => entries enter fuel false draft k

end Cursor

mutual

/-- Reads the value of a text under a shape. -/
def Shape.read : (shape : Shape) → (depth : Nat) → Reader shape.Value
  | .integer width name, _, k => k.integer width name
  | .text name, _, k => k.textLeaf name
  | .boolean, _, k =>
    let k := k.skipBlanks
    match k.leaf? with
    | some (.ok (.bool b, k)) => .ok (b, k)
    | _ => k.wrongType "a boolean"
  | .instant, _, k =>
    match k.textLeaf Shape.instant.expected with
    | .error e => .error e
    | .ok (s, k) => k.check (Shape.readInstant s)
  | .code limit kind, _, k =>
    match k.integer .u8 "u8" with
    | .error e => .error e
    | .ok (n, k) =>
      match Shape.readCode limit kind n with
      | .error p => .error (.pending p k)
      | .ok v => .ok (v, k)
  | .choice _ names, depth, k =>
    let k := k.skipBlanks
    match k.rest with
    | [] => k.fail .endInValue
    | '"' :: _ =>
      match k.textLeaf "variant identifier" with
      | .error e => .error e
      | .ok (s, k) => k.check (Shape.readName names s)
    | '{' :: _ =>
      if depth ≤ 1 then k.failNext .tooDeep
      else
        match k.advance.choiceName with
        | .error e => .error e
        | .ok (s, k) =>
          match k.check (Shape.readName names s) with
          | .error e => .error e
          | .ok (s, k) =>
            match k.colon >>= Cursor.nullLeaf with
            | .error e => .error e
            | .ok (false, k) => k.wrongType "unit"
            | .ok (true, k) =>
              let k := k.skipBlanks
              match k.rest with
              | '}' :: _ => .ok (s, k.advance)
              | [] => k.fail .endInObject
              | _ => k.fail .expectedValue
    | _ => k.failNext .expectedValue
  | .any, depth, k => k.value depth
  | .record name fields, depth, k =>
    let k := k.skipBlanks
    match k.rest with
    | '[' :: _ =>
      if depth ≤ 1 then k.failNext .tooDeep
      else
        Cursor.close Cursor.listEnd
          (fields.readItems (Shape.expectedList name fields.count) 0 (depth - 1) k.advance)
    | '{' :: _ =>
      if depth ≤ 1 then k.failNext .tooDeep
      else
        let read : Except Stop (fields.Values × Cursor) :=
          match Cursor.entries (fun name draft => fields.enterText name (depth - 1) draft)
              k.rest.length true fields.blank k.advance with
          | .error e => .error e
          | .ok (draft, k) =>
            match fields.finish draft with
            | .error p => .error (.pending p k)
            | .ok values => .ok (values, k)
        Cursor.close Cursor.objectEnd read
    | _ => k.wrongType ("struct " ++ name)

/-- Reads the items of a record in the form of a list. -/
def Fields.readItems : (fields : Fields) → (expected : String) → Nat → (depth : Nat) →
    Reader fields.Values
  | .nil, _, _, _, k => .ok ((), k)
  | .cons _ presence shape rest, expected, index, depth, k =>
    match Cursor.nextItem (index = 0) k with
    | .error e => .error e
    | .ok (true, k) =>
      let value : Except Stop (presence.Of shape.Value × Cursor) :=
        match presence with
        | .required => shape.read depth k
        | .nullable =>
          match k.nullLeaf with
          | .error e => .error e
          | .ok (true, k) => .ok (none, k)
          | .ok (false, k) => (shape.read depth k).map fun (v, k) => (some v, k)
        | .defaulted => (shape.read depth k).map fun (v, k) => (some v, k)
      match value with
      | .error e => .error e
      | .ok (value, k) =>
        (rest.readItems expected (index + 1) depth k).map fun (vs, k) => ((value, vs), k)
    | .ok (false, k) =>
      match presence with
      | .defaulted =>
        (rest.readItems expected (index + 1) depth k).map fun (vs, k) => ((none, vs), k)
      | .required => .error (.pending (.wrongLength index expected) k)
      | .nullable => .error (.pending (.wrongLength index expected) k)

/-- How the value of a field is read into a draft, if the record has the field. -/
def Fields.enterText : (fields : Fields) → String → (depth : Nat) → fields.Draft →
    Option (Reader fields.Draft)
  | .nil, _, _, _ => none
  | .cons field presence shape rest, name, depth, (value, draft) =>
    if name = field then
      some fun k =>
        if value.isSome then .error (.pending (.repeatedField name) k)
        else
          match k.colon with
          | .error e => .error e
          | .ok k =>
            let value : Except Stop (presence.Of shape.Value × Cursor) :=
              match presence with
              | .required => shape.read depth k
              | .nullable =>
                match k.nullLeaf with
                | .error e => .error e
                | .ok (true, k) => .ok (none, k)
                | .ok (false, k) => (shape.read depth k).map fun (v, k) => (some v, k)
              | .defaulted => (shape.read depth k).map fun (v, k) => (some v, k)
            value.map fun (v, k) => ((some v, draft), k)
    else
      (rest.enterText name depth draft).map fun reader k =>
        (reader k).map fun (draft, k) => ((value, draft), k)

end

/-- The value of a whole text under a shape. -/
def Shape.ofText (shape : Shape) (s : String) : Except Fault shape.Value :=
  match shape.read depthLimit (Cursor.start s) with
  | .error e => .error e.toFault
  | .ok (v, k) =>
    match k.expectEnd with
    | .error e => .error e.toFault
    | .ok () => .ok v

end BookingNotices.Json
