import BookingNotices.Json.Shape
import BookingNotices.Settings.Entry
import BookingNotices.Text.Lowercase

/-!
# Lenient reading of trees of settings

* `Shape.ofEntry` : the value that a tree of settings has under a shape, or the first problem.

Numbers and yes-or-no settings have several words, and choices are known by their names in any
case. Names are visited in increasing order, and a missing one is reported last. A record may also
be a list of its fields in order, of which the last ones may be left out.
-/

namespace BookingNotices

open Json Text

namespace Settings.Lenient

/-- What is wrong with a setting. -/
inductive Problem where
  /-- something else than what was expected -/
  | unexpected (path : List Step) (found : Entry) (expected : String)
  /-- a number that does not fit the width asked for -/
  | outOfRange (path : List Step) (n : Int) (width : Width)
  | notRecord (found : Entry) (name : String)
  | noVariant (kind name : String)
  | notSingleName (kind : String)
  /-- a problem that is reported without its place -/
  | plain (p : Json.Problem)

/-- What stands at a place, as far as messages tell. -/
def describe : Entry → String
  | .nothing => "unit value"
  | .text s => "string " ++ quote s
  | .names _ => "map"
  | .items _ => "sequence"

/-- Texts come from the environment, and messages say so. -/
private def ofVariables : Entry → String
  | .text _ => " in the environment"
  | _ => ""

/-- A path as messages name it, behind a name or not. -/
private def pathText : Bool → List Step → String
  | _, [] => ""
  | dot, .name s :: path => (if dot then "." else "") ++ s ++ pathText true path
  | _, .item n :: path => "[" ++ toString n ++ "]" ++ pathText false path

/-- How messages name a place. -/
private def key (path : List Step) : String := " for key " ++ ticked (pathText false path)

def Problem.message : Problem → String
  | .unexpected path found expected =>
    "invalid type: " ++ describe found ++ ", expected " ++ expected ++ key path ++ ofVariables found
  | .outOfRange path n width =>
    let kind := if width.signed then "signed" else "unsigned"
    "invalid type: 64-bit " ++ (if width.signed then "" else "unsigned ") ++ "integer " ++
      ticked (toString n) ++ ", expected an " ++ kind ++ " " ++ toString width.bits ++
      " bit integer" ++ key path
  | .notRecord found name => "invalid type: " ++ describe found ++ ", expected struct " ++ name
  | .noVariant kind name => "enum " ++ kind ++ " does not have variant constructor " ++ name
  | .notSingleName kind =>
    "value of enum " ++ kind ++
      " should be represented by either string or table with exactly one key"
  | .plain p => p.message

/-- The words for yes. -/
def yesWords : List String := ["true", "on", "yes"]

/-- The words for no. -/
def noWords : List String := ["false", "off", "no"]

/-- The integer of a width that a text means. -/
def readInteger (width : Width) (path : List Step) (s : String) : Except Problem Int :=
  if yesWords.contains (lower s) then .ok 1
  else if noWords.contains (lower s) then .ok 0
  else
    match Integer.read { width with bits := 64 } s.toList with
    | .error _ => .error (.unexpected path (.text s) "an integer")
    | .ok n => if width.holds n then .ok n else .error (.outOfRange path n width)

/-- Yes or no, as a text means it. -/
def readBoolean (path : List Step) (s : String) : Except Problem Bool :=
  if "1" :: yesWords |>.contains (lower s) then .ok true
  else if "0" :: noWords |>.contains (lower s) then .ok false
  else .error (.unexpected path (.text (lower s)) "a boolean")

/-- The name of a choice that a text means. -/
def readChoice (kind : String) (names : List String) (s : String) : Except Problem String :=
  match names.find? fun n => lower n == lower s with
  | some n => .ok n
  | none => .error (.noVariant kind s)

/-- The text at a place. -/
def readText (path : List Step) (expected : String) : Entry → Except Problem String
  | .text s => .ok s
  | e => .error (.unexpected path e expected)

end Settings.Lenient

namespace Json

open Settings

mutual

/-- The value that what stands at a path has under a shape. -/
def Shape.ofEntry : (shape : Shape) → (path : List Step) → Entry →
    Except Lenient.Problem shape.Value
  | .integer width _, path, e => do
    Lenient.readInteger width path (← Lenient.readText path "an integer" e)
  | .text _, path, e => Lenient.readText path "a string" e
  | .boolean, path, e => do
    Lenient.readBoolean path (← Lenient.readText path "a boolean" e)
  | .instant, path, e => do
    let s ← Lenient.readText path "a string" e
    (Shape.readInstant s).mapError .plain
  | .code limit kind, path, e => do
    let n ← Lenient.readInteger .u8 path (← Lenient.readText path "an integer" e)
    (Shape.readCode limit kind n).mapError .plain
  | .choice kind names, _, e =>
    match e with
    | .text s => Lenient.readChoice kind names s
    | .names [(s, _)] => Lenient.readChoice kind names s
    | _ => .error (.notSingleName kind)
  | .any, path, e => (Lenient.readText path "a string" e).map .text
  | .record name fields, path, e =>
    match e with
    | .names below => do
      let draft ← below.foldlM
        (fun draft (name, e) => fields.enterEntry name path e draft) fields.blank
      (fields.finish draft).mapError .plain
    | .items below => fields.ofEntries (Shape.expectedList name fields.count) path 0 below
    | e => .error (.notRecord e name)

/-- The values of a list of entries under fields. -/
def Fields.ofEntries : (fields : Fields) → (expected : String) → (path : List Step) → Nat →
    List Entry → Except Lenient.Problem fields.Values
  | .nil, _, _, _, _ => .ok ()
  | .cons _ presence shape rest, expected, path, index, entries =>
    match entries with
    | e :: entries =>
      let value : Except Lenient.Problem (presence.Of shape.Value) :=
        match presence, e with
        | .required, e => shape.ofEntry (path ++ [.item index]) e
        | .nullable, .nothing => .ok none
        | .nullable, e => (shape.ofEntry (path ++ [.item index]) e).map some
        | .defaulted, e => (shape.ofEntry (path ++ [.item index]) e).map some
      match value with
      | .error p => .error p
      | .ok v => (rest.ofEntries expected path (index + 1) entries).map (v, ·)
    | [] =>
      match presence with
      | .defaulted => (rest.ofEntries expected path (index + 1) []).map (none, ·)
      | .required => .error (.plain (.wrongLength index expected))
      | .nullable => .error (.plain (.wrongLength index expected))

/-- Enters what stands below a name into a draft. -/
def Fields.enterEntry : (fields : Fields) → String → (path : List Step) → Entry →
    fields.Draft → Except Lenient.Problem fields.Draft
  | .nil, _, _, _, draft => .ok draft
  | .cons field presence shape rest, name, path, e, (value, draft) =>
    if name = field then
      let value : Except Lenient.Problem (presence.Of shape.Value) :=
        match presence, e with
        | .required, e => shape.ofEntry (path ++ [.name name]) e
        | .nullable, .nothing => .ok none
        | .nullable, e => (shape.ofEntry (path ++ [.name name]) e).map some
        | .defaulted, e => (shape.ofEntry (path ++ [.name name]) e).map some
      value.map fun value => (some value, draft)
    else (rest.enterEntry name path e draft).map (value, ·)

end

end Json

end BookingNotices
