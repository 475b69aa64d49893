import BookingNotices.Json.Fault

/-!
# Reading a JSON text

* `Cursor`  : the characters still to be read, and the place reached;
* `Stop`    : why reading stopped;
* `Reader`  : a step over a cursor that gives a value, or stops;
* the leaves of the grammar: blanks, the three literals, numbers, strings;
* `skipString`, `skipNumber` : the same leaves where the value is of no interest, which are read
  with fewer checks.

A fault met at the next character is placed just behind its first byte, as if that byte had been
read; a fault met after reading is placed where the reader stands.
-/

namespace BookingNotices.Json

open Numeric

/-- The rest of a text and the place reached in it. -/
structure Cursor where
  rest : List Char
  place : Place
  deriving Repr

namespace Cursor

/-- A text before its first character. -/
def start (s : String) : Cursor := ⟨s.toList, ⟨1, 0⟩⟩

/-- The place after one more character, of which `bytes` bytes are read. -/
private def placeAfter (p : Place) (c : Char) (bytes : Nat) : Place :=
  if c = '\n' then ⟨p.line + 1, 0⟩ else ⟨p.line, p.column + bytes⟩

/-- The cursor after one character (it stays at the end of the text). -/
def advance (k : Cursor) : Cursor :=
  match k.rest with
  | [] => k
  | c :: cs => ⟨cs, placeAfter k.place c c.utf8Size⟩

/-- The place just behind the first byte of the next character. -/
def placeOfNext (k : Cursor) : Place :=
  match k.rest with
  | [] => k.place
  | c :: _ => placeAfter k.place c 1

/-- The place after `n` more bytes. -/
private def placeAfterBytes : Nat → Place → List Char → Place
  | 0, p, _ => p
  | _ + 1, p, [] => p
  | n + 1, p, c :: cs =>
    let taken := min (n + 1) c.utf8Size
    placeAfterBytes (n - (taken - 1)) (placeAfter p c taken) cs
  termination_by n _ cs => (cs.length, n)
  decreasing_by all_goals simp_wf; omega

/-- The place after the next four bytes, and whether there are that many. -/
def fourBytesOn (k : Cursor) : Place × Bool :=
  (placeAfterBytes 4 k.place k.rest, 4 ≤ (k.rest.take 4).foldl (fun n c => n + c.utf8Size) 0)

/-- The place at the end of the text. -/
def finish (k : Cursor) : Place :=
  k.rest.foldl (fun p c => placeAfter p c c.utf8Size) k.place

end Cursor

/-- Why reading stopped: a problem at a place, or one that no single character shows, which the end
of the record around it places. -/
inductive Stop where
  | placed (problem : Problem) (place : Place)
  | pending (problem : Problem) (cursor : Cursor)

/-- The fault that a whole reading ends with. -/
def Stop.toFault : Stop → Fault
  | .placed problem place => ⟨problem, some place⟩
  | .pending problem _ => ⟨problem, none⟩

/-- A step over a cursor that gives a value, or stops. -/
abbrev Reader (α : Type) := Cursor → Except Stop (α × Cursor)

namespace Cursor

/-- A breach at the place reached. -/
def fail {α : Type} (k : Cursor) (b : Breach) : Except Stop α :=
  .error (.placed (.breach b) k.place)

/-- A breach by the next character. -/
def failNext {α : Type} (k : Cursor) (b : Breach) : Except Stop α :=
  .error (.placed (.breach b) k.placeOfNext)

/-- The cursor at the next character that is not a blank of the grammar. -/
def skipBlanks (k : Cursor) : Cursor := go k.rest k.place
where
  go : List Char → Place → Cursor
    | [], p => ⟨[], p⟩
    | c :: cs, p =>
      if c = ' ' || c = '\n' || c = '\t' || c = '\r' then go cs (placeAfter p c 1)
      else ⟨c :: cs, p⟩

/-- Reads the rest of a literal. -/
def literal (expected : List Char) (k : Cursor) : Except Stop Cursor :=
  match expected with
  | [] => .ok k
  | e :: es =>
    match k.rest with
    | [] => k.fail .endInValue
    | c :: _ => if c = e then literal es k.advance else k.failNext .expectedIdent

/-! ## Numbers -/

/-- A number of a text: an integer of a machine word, or a float. -/
inductive Number where
  | integer (n : Int)
  | float (x : Double)

def Number.found : Number → Found
  | .integer n => .integer n
  | .float x => .float x

def Number.toJson : Number → Json
  | .integer n => .integer n
  | .float x => .float x

def isDigit (c : Char) : Bool := '0' ≤ c && c ≤ '9'

def digitValue (c : Char) : Nat := c.toNat - '0'.toNat

/-- The greatest significand that is kept; further digits only scale it. -/
def significandLimit : Nat := Nat.pow 2 64

/-- The greatest exponent that is read as a number. -/
private def exponentLimit : Nat := Nat.pow 2 31

/-- The float with these decimal parts. -/
private def floatOf (negative : Bool) (significand : Nat) (power : Int) : Reader Number := fun k =>
  match Double.ofParts? negative significand power with
  | some x => .ok (.float x, k)
  | none => k.fail .numberOutOfRange

/-- Skips the digits at the cursor. -/
def skipDigits (k : Cursor) : Cursor := go k.rest k.place
where
  go : List Char → Place → Cursor
    | [], p => ⟨[], p⟩
    | c :: cs, p => if isDigit c then go cs (placeAfter p c 1) else ⟨c :: cs, p⟩

/-- Reads the digits of an exponent: the value, or nothing when it is out of bounds (the cursor is
then behind the digit that went too far). -/
private def exponentDigits : Nat → Nat → Cursor → Option Nat × Cursor
  | 0, value, k => (some value, k)
  | fuel + 1, value, k =>
    match k.rest with
    | [] => (some value, k)
    | c :: _ =>
      if isDigit c then
        let next := value * 10 + digitValue c
        if exponentLimit ≤ next then (none, k.advance) else exponentDigits fuel next k.advance
      else (some value, k)

/-- Reads an exponent, at its letter. -/
private def exponentPart (negative : Bool) (significand : Nat) (power : Int) : Reader Number :=
  fun k =>
    let k := k.advance
    let (positive, k) := match k.rest with
      | '+' :: _ => (true, k.advance)
      | '-' :: _ => (false, k.advance)
      | _ => (true, k)
    match k.rest with
    | [] => k.fail .endInValue
    | c :: _ =>
      if isDigit c then
        match exponentDigits k.rest.length (digitValue c) k.advance with
        | (some e, k) =>
          floatOf negative significand (if positive then power + e else power - e) k
        | (none, k) =>
          if significand ≠ 0 && positive then k.fail .numberOutOfRange
          else .ok (.float ⟨negative, 0, Format.binary64.finest⟩, k.skipDigits)
      else k.failNext .badNumber

/-- Ends a number that is a float: an exponent may follow. -/
private def floatEnd (negative : Bool) (significand : Nat) (power : Int) : Reader Number := fun k =>
  match k.rest with
  | 'e' :: _ | 'E' :: _ => exponentPart negative significand power k
  | _ => floatOf negative significand power k

/-- Reads the digits behind the point; digits that no longer fit are dropped. Gives the significand
and how many digits were kept. -/
private def fractionDigits : Nat → Nat → Nat → Cursor → Nat × Nat × Cursor
  | 0, significand, count, k => (significand, count, k)
  | fuel + 1, significand, count, k =>
    match k.rest with
    | [] => (significand, count, k)
    | c :: _ =>
      if isDigit c then
        let next := significand * 10 + digitValue c
        if significandLimit ≤ next then (significand, count, k)
        else fractionDigits fuel next (count + 1) k.advance
      else (significand, count, k)

/-- Reads a fraction, at its point. -/
private def fractionPart (negative : Bool) (significand : Nat) (power : Int) : Reader Number :=
  fun k =>
    let k := k.advance
    let (significand, count, k) := fractionDigits k.rest.length significand 0 k
    match k.rest with
    | c :: _ =>
      if isDigit c then floatEnd negative significand (power - count) k.skipDigits
      else if count = 0 then k.failNext .badNumber
      else floatEnd negative significand (power - count) k
    | [] =>
      if count = 0 then k.fail .endInValue
      else floatEnd negative significand (power - count) k

/-- Reads the further digits of an integer. Digits that no longer fit are counted. -/
def integerDigits : Nat → Nat → Cursor → Nat × Nat × Cursor
  | 0, significand, k => (significand, 0, k)
  | fuel + 1, significand, k =>
    match k.rest with
    | [] => (significand, 0, k)
    | c :: _ =>
      if isDigit c then
        let next := significand * 10 + digitValue c
        if significandLimit ≤ next then
          let after := k.skipDigits
          (significand, k.rest.length - after.rest.length, after)
        else integerDigits fuel next k.advance
      else (significand, 0, k)

/-- Ends a number whose whole part is read: `dropped` of its digits did not fit. -/
def wholeEnd (negative : Bool) (significand dropped : Nat) : Reader Number := fun k =>
  match k.rest with
  | '.' :: _ => fractionPart negative significand dropped k
  | 'e' :: _ | 'E' :: _ => exponentPart negative significand dropped k
  | _ =>
    if dropped ≠ 0 then floatOf negative significand dropped k
    else if !negative then .ok (.integer significand, k)
    else if significand = 0 || Nat.pow 2 63 < significand then floatOf true significand 0 k
    else .ok (.integer (-significand), k)

/-- Reads a number behind its sign. -/
def number (negative : Bool) : Reader Number := fun k =>
  match k.rest with
  | [] => k.fail .endInValue
  | '0' :: _ =>
    let k := k.advance
    match k.rest with
    | c :: _ => if isDigit c then k.failNext .badNumber else wholeEnd negative 0 0 k
    | [] => wholeEnd negative 0 0 k
  | c :: _ =>
    if isDigit c then
      let (significand, dropped, k) := integerDigits k.rest.length (digitValue c) k.advance
      wholeEnd negative significand dropped k
    else k.failNext .badNumber

/-- Passes over an exponent, at its letter. -/
private def skipExponent (k : Cursor) : Except Stop Cursor :=
  let k := k.advance
  let k := match k.rest with
    | '+' :: _ | '-' :: _ => k.advance
    | _ => k
  match k.rest with
  | c :: _ => if isDigit c then .ok k.skipDigits else k.failNext .badNumber
  | [] => k.fail .badNumber

/-- Passes over the end of a number that may have an exponent. -/
private def skipFloatEnd (k : Cursor) : Except Stop Cursor :=
  match k.rest with
  | 'e' :: _ | 'E' :: _ => skipExponent k
  | _ => .ok k

/-- Passes over a number behind its sign. -/
def skipNumber (k : Cursor) : Except Stop Cursor :=
  match k.rest with
  | [] => k.fail .badNumber
  | c :: _ =>
    if !isDigit c then k.failNext .badNumber
    else
      let after := if c = '0' then k.advance else k.skipDigits
      match after.rest with
      | '.' :: _ =>
        let k := after.advance
        let after := k.skipDigits
        if after.rest.length = k.rest.length then k.failNext .badNumber else skipFloatEnd after
      | d :: _ => if isDigit d then after.failNext .badNumber else skipFloatEnd after
      | [] => .ok after

/-! ## Strings -/

def hexValue? (c : Char) : Option Nat :=
  if isDigit c then some (digitValue c)
  else if 'a' ≤ c && c ≤ 'f' then some (c.toNat - 'a'.toNat + 10)
  else if 'A' ≤ c && c ≤ 'F' then some (c.toNat - 'A'.toNat + 10)
  else none

/-- Reads four hexadecimal digits. -/
def fourHex : Reader Nat := fun k =>
  let (place, enough) := k.fourBytesOn
  if !enough then .error (.placed (.breach .endInString) k.finish)
  else
    match k.rest with
    | a :: b :: c :: d :: rest =>
      match hexValue? a, hexValue? b, hexValue? c, hexValue? d with
      | some a, some b, some c, some d => .ok (((a * 16 + b) * 16 + c) * 16 + d, ⟨rest, place⟩)
      | _, _, _, _ => .error (.placed (.breach .badEscape) place)
    | _ => .error (.placed (.breach .badEscape) place)

/-- The character that a letter behind a backslash stands for. -/
def simpleEscape? : Char → Option Char
  | '"' => some '"'
  | '\\' => some '\\'
  | '/' => some '/'
  | 'b' => some '\x08'
  | 'f' => some '\x0c'
  | 'n' => some '\n'
  | 'r' => some '\r'
  | 't' => some '\t'
  | _ => none

/-- Reads the second half of a surrogate pair, whose first half is given. -/
private def secondHalf (high : Nat) : Reader Char := fun k =>
  match k.rest with
  | [] => k.fail .endInString
  | '\\' :: _ =>
    let k := k.advance
    match k.rest with
    | [] => k.fail .endInString
    | 'u' :: _ =>
      match fourHex k.advance with
      | .error e => .error e
      | .ok (low, k) =>
        if low < 0xDC00 || 0xDFFF < low then k.fail .loneSurrogate
        else .ok (Char.ofNat ((high - 0xD800) * 0x400 + (low - 0xDC00) + 0x10000), k)
    | _ => k.failNext .unfinishedEscape
  | _ => k.failNext .unfinishedEscape

/-- Reads an escape behind its backslash. -/
def escape : Reader Char := fun k =>
  match k.rest with
  | [] => k.fail .endInString
  | 'u' :: _ =>
    match fourHex k.advance with
    | .error e => .error e
    | .ok (n, k) =>
      if 0xDC00 ≤ n && n ≤ 0xDFFF then k.fail .loneSurrogate
      else if 0xD800 ≤ n && n ≤ 0xDBFF then secondHalf n k
      else .ok (Char.ofNat n, k)
  | c :: _ =>
    match simpleEscape? c with
    | some c => .ok (c, k.advance)
    | none => k.failNext .badEscape

/-- Reads the characters of a string up to its closing quote. -/
def stringChars : Nat → List Char → Reader (List Char)
  | 0, read, k => .ok (read.reverse, k)
  | fuel + 1, read, k =>
    match k.rest with
    | [] => k.fail .endInString
    | '"' :: _ => .ok (read.reverse, k.advance)
    | '\\' :: _ =>
      match escape k.advance with
      | .error e => .error e
      | .ok (c, k) => stringChars fuel (c :: read) k
    | c :: _ =>
      if c.toNat < 0x20 then k.failNext .controlCharacter
      else stringChars fuel (c :: read) k.advance

/-- Reads a string behind its opening quote. -/
def string : Reader String := fun k =>
  match stringChars (k.rest.length + 1) [] k with
  | .error e => .error e
  | .ok (cs, k) => .ok (String.ofList cs, k)

/-- Passes over an escape behind its backslash; any four hexadecimal digits will do. -/
private def skipEscape (k : Cursor) : Except Stop Cursor :=
  match k.rest with
  | [] => k.fail .endInString
  | 'u' :: _ => (fourHex k.advance).map (·.2)
  | c :: _ => if (simpleEscape? c).isSome then .ok k.advance else k.failNext .badEscape

/-- Passes over the characters of a string up to its closing quote. -/
private def skipChars : Nat → Cursor → Except Stop Cursor
  | 0, k => .ok k
  | fuel + 1, k =>
    match k.rest with
    | [] => k.fail .endInString
    | '"' :: _ => .ok k.advance
    | '\\' :: _ =>
      match skipEscape k.advance with
      | .error e => .error e
      | .ok k => skipChars fuel k
    | c :: _ => if c.toNat < 0x20 then k.fail .controlCharacter else skipChars fuel k.advance

/-- Passes over a string behind its opening quote. -/
def skipString (k : Cursor) : Except Stop Cursor := skipChars (k.rest.length + 1) k

end Cursor

end BookingNotices.Json
