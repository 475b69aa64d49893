import BookingNotices.Json.Cursor

/-!
# Reading any JSON value from a text

* `Json.ofText` : the value of a whole text, or the first fault met;
* `Cursor.value` : the value at a cursor;
* `Cursor.skipValue` : passes over a value of no interest, however deep, with fewer checks.
-/

namespace BookingNotices.Json

open Numeric

/-- How many brackets may be open at once is one less than this. -/
def depthLimit : Nat := 128

namespace Cursor

/-- Reads the colon between a name and its value. -/
def colon (k : Cursor) : Except Stop Cursor :=
  let k := k.skipBlanks
  match k.rest with
  | [] => k.fail .endInObject
  | ':' :: _ => .ok k.advance
  | _ => k.failNext .expectedColon

/-- Whether a list has one more item, whose cursor is given, or stands at its bracket. -/
def nextItem (first : Bool) (k : Cursor) : Except Stop (Bool × Cursor) :=
  let k := k.skipBlanks
  match k.rest with
  | [] => k.fail .endInList
  | ']' :: _ => .ok (false, k)
  | ',' :: _ =>
    if first then .ok (true, k)
    else
      let k := k.advance.skipBlanks
      match k.rest with
      | [] => k.fail .endInValue
      | ']' :: _ => k.failNext .trailingComma
      | _ => .ok (true, k)
  | _ => if first then .ok (true, k) else k.failNext .expectedCommaOrBracket

/-- Whether an object has one more field, whose name is read, or stands at its brace. -/
def nextName (first : Bool) (k : Cursor) : Except Stop (Option String × Cursor) :=
  let k := k.skipBlanks
  let name (k : Cursor) : Except Stop (Option String × Cursor) :=
    k.advance.string.map fun (s, k) => (some s, k)
  match k.rest with
  | [] => k.fail .endInObject
  | '}' :: _ => .ok (none, k)
  | ',' :: _ =>
    if first then k.failNext .keyNotText
    else
      let k := k.advance.skipBlanks
      match k.rest with
      | [] => k.fail .endInValue
      | '"' :: _ => name k
      | '}' :: _ => k.failNext .trailingComma
      | _ => k.failNext .keyNotText
  | '"' :: _ => if first then name k else k.failNext .expectedCommaOrBrace
  | _ => k.failNext (if first then .keyNotText else .expectedCommaOrBrace)

/-- The value that starts with the next character, if that is a value without brackets. -/
def leaf? (k : Cursor) : Option (Except Stop (Json × Cursor)) :=
  match k.rest with
  | 'n' :: _ => some ((k.advance.literal "ull".toList).map (.null, ·))
  | 't' :: _ => some ((k.advance.literal "rue".toList).map (.bool true, ·))
  | 'f' :: _ => some ((k.advance.literal "alse".toList).map (.bool false, ·))
  | '"' :: _ => some (k.advance.string.map fun (s, k) => (.text s, k))
  | '-' :: _ => some ((number true k.advance).map fun (n, k) => (n.toJson, k))
  | c :: _ =>
    if '0' ≤ c && c ≤ '9' then some ((number false k).map fun (n, k) => (n.toJson, k)) else none
  | [] => none

mutual

/-- Reads a value. The first number bounds the steps, the second the brackets still to be opened. -/
def valueWithin : Nat → Nat → Reader Json
  | 0, _, k => k.fail .endInValue
  | fuel + 1, depth, k =>
    let k := k.skipBlanks
    match k.leaf? with
    | some result => result
    | none =>
      match k.rest with
      | [] => k.fail .endInValue
      | '[' :: _ =>
        if depth ≤ 1 then k.failNext .tooDeep
        else itemsWithin fuel (depth - 1) true [] k.advance
      | '{' :: _ =>
        if depth ≤ 1 then k.failNext .tooDeep
        else entriesWithin fuel (depth - 1) true [] k.advance
      | _ => k.failNext .expectedValue

/-- Reads the items of a list up to its bracket. -/
def itemsWithin : Nat → Nat → Bool → List Json → Reader Json
  | 0, _, _, _, k => k.fail .endInList
  | fuel + 1, depth, first, read, k =>
    match nextItem first k with
    | .error e => .error e
    | .ok (false, k) => .ok (.array read.reverse, k.advance)
    | .ok (true, k) =>
      match valueWithin fuel depth k with
      | .error e => .error e
      | .ok (v, k) => itemsWithin fuel depth false (v :: read) k

/-- Reads the fields of an object up to its brace. -/
def entriesWithin : Nat → Nat → Bool → List (String × Json) → Reader Json
  | 0, _, _, _, k => k.fail .endInObject
  | fuel + 1, depth, first, read, k =>
    match nextName first k with
    | .error e => .error e
    | .ok (none, k) => .ok (.object read, k.advance)
    | .ok (some name, k) =>
      match k.colon with
      | .error e => .error e
      | .ok k =>
        match valueWithin fuel depth k with
        | .error e => .error e
        | .ok (v, k) => entriesWithin fuel depth false (Table.insert name v read) k

end

/-- More steps than any reading of this text takes: each step but the last reads a character or is
followed by one that does. -/
def stepBound (k : Cursor) : Nat := 2 * k.rest.length + 2

/-- Reads the value at the cursor. -/
def value (depth : Nat) : Reader Json := fun k => valueWithin k.stepBound depth k

/-! ## Values of no interest -/

/-- Reads the name and the colon of a field that is passed over. -/
private def skipName (k : Cursor) : Except Stop Cursor :=
  let k := k.skipBlanks
  match k.rest with
  | [] => k.fail .endInObject
  | '"' :: _ => k.advance.skipString >>= colon
  | _ => k.failNext .keyNotText

/-- What is open around a value that is passed over. -/
private inductive Frame where
  | list
  | object

mutual

/-- Passes over a value and everything that is open around it. -/
private def skipWithin : Nat → List Frame → Cursor → Except Stop Cursor
  | 0, _, k => .ok k
  | fuel + 1, frames, k =>
    let k := k.skipBlanks
    match k.rest with
    | [] => k.fail .endInValue
    | 'n' :: _ => k.advance.literal "ull".toList >>= skipRest fuel true frames
    | 't' :: _ => k.advance.literal "rue".toList >>= skipRest fuel true frames
    | 'f' :: _ => k.advance.literal "alse".toList >>= skipRest fuel true frames
    | '-' :: _ => k.advance.skipNumber >>= skipRest fuel true frames
    | '"' :: _ => k.advance.skipString >>= skipRest fuel true frames
    | '[' :: _ => skipRest fuel false (.list :: frames) k.advance
    | '{' :: _ => skipRest fuel false (.object :: frames) k.advance
    | c :: _ =>
      if '0' ≤ c && c ≤ '9' then k.skipNumber >>= skipRest fuel true frames
      else k.failNext .expectedValue

/-- Goes on behind a value (a comma may follow) or behind an opening bracket (none may). -/
private def skipRest : Nat → Bool → List Frame → Cursor → Except Stop Cursor
  | 0, _, _, k => .ok k
  | _, _, [], k => .ok k
  | fuel + 1, comma, frame :: frames, k =>
    let k := k.skipBlanks
    let item (k : Cursor) : Except Stop Cursor :=
      match frame with
      | .list => skipWithin fuel (frame :: frames) k
      | .object => skipName k >>= skipWithin fuel (frame :: frames)
    match k.rest, frame with
    | [], .list => k.fail .endInList
    | [], .object => k.fail .endInObject
    | ']' :: _, .list => skipRest fuel true frames k.advance
    | '}' :: _, .object => skipRest fuel true frames k.advance
    | ',' :: _, _ => if comma then item k.advance else item k
    | _, .list => if comma then k.failNext .expectedCommaOrBracket else item k
    | _, .object => if comma then k.failNext .expectedCommaOrBrace else item k

end

/-- Passes over the value at the cursor. -/
def skipValue (k : Cursor) : Except Stop Cursor := skipWithin k.stepBound [] k

/-- Nothing but blanks may follow a document. -/
def expectEnd (k : Cursor) : Except Stop Unit :=
  let k := k.skipBlanks
  match k.rest with
  | [] => .ok ()
  | _ => k.failNext .trailingCharacters

end Cursor

/-- The value of a whole text. -/
def ofText (s : String) : Except Fault Json :=
  match Cursor.value depthLimit (Cursor.start s) with
  | .error e => .error e.toFault
  | .ok (v, k) =>
    match k.expectEnd with
    | .error e => .error e.toFault
    | .ok () => .ok v

end BookingNotices.Json
