import BookingNotices.Text.Blank

/-!
# The parts of a written address

* `Mail.isAtomChar`  : the characters of an atom;
* `Mail.dotAtom?`    : atoms with points between them;
* `Mail.quotedText?` : a text between quotes;
* `Mail.phraseEnd?`  : what is behind a name, which is words and points.

Each of them takes as much of a text as it can, and gives what it means and what is left. Spaces
before it do not count.
-/

namespace BookingNotices.Mail

open Text

/-- The marks of an atom. -/
def atomMarks : List Char := "!#$%&'*+-/=?^_\x60\x7b|\x7d~".toList

/-- The characters of an atom: letters, digits, some marks, and all that is not ASCII. -/
def isAtomChar (c : Char) : Bool :=
  c.isAlphanum || atomMarks.contains c || 0x80 ≤ c.toNat

/-- The characters that separate words. -/
def isSpace (c : Char) : Bool := c = ' ' || c = '\t'

/-- The characters that can stand between quotes by themselves, spaces apart. -/
def isQuotable (c : Char) : Bool :=
  let n := c.toNat
  (1 ≤ n && n ≤ 8) || n = 11 || n = 12 || (14 ≤ n && n ≤ 31) || n = 33 || (35 ≤ n && n ≤ 91) ||
    (93 ≤ n && n ≤ 126) || 127 ≤ n

/-- The characters that can stand between quotes behind a backslash. -/
def isEscapable (c : Char) : Bool :=
  let n := c.toNat
  (1 ≤ n && n ≤ 9) || n = 11 || n = 12 || (14 ≤ n && n ≤ 127)

/-- What a part of a text means, and what is left of the text. -/
abbrev Taken := List Char × List Char

/-- Reads an atom, and more of them behind points, as far as they go. -/
private def atoms : List Char → Taken
  | [] => ([], [])
  | c :: cs =>
    if isAtomChar c || (c = '.' && cs.head?.any isAtomChar) then
      let (taken, rest) := atoms cs
      (c :: taken, rest)
    else ([], c :: cs)

/-- Reads atoms with points between them. -/
def dotAtom? (cs : List Char) : Option Taken :=
  let cs := cs.dropWhile isSpace
  if cs.head?.any isAtomChar then some (atoms cs) else none

/-- Reads a text up to the quote that closes it. Of spaces before a character the first one counts,
and blanks before the quote do not. -/
private def quotedRest? (space : Option Char) : List Char → Option Taken
  | [] => none
  | '"' :: cs => some ([], cs)
  | '\\' :: c :: cs =>
    if isEscapable c then
      (quotedRest? none cs).map fun (taken, rest) => (space.toList ++ c :: taken, rest)
    else none
  | c :: cs =>
    if isSpace c then quotedRest? (space.or (some c)) cs
    else if isQuotable c then
      (quotedRest? none cs).map fun (taken, rest) => (space.toList ++ c :: taken, rest)
    else
      match (c :: cs).dropWhile isBlank with
      | '"' :: rest => some ([], rest)
      | _ => none

/-- Reads a text between quotes. -/
def quotedText? (cs : List Char) : Option Taken :=
  match cs.dropWhile isSpace with
  | '"' :: cs => quotedRest? none cs
  | _ => none

/-- What is behind an atom or a text between quotes. -/
private def wordEnd? (cs : List Char) : Option (List Char) :=
  match quotedText? cs with
  | some (_, rest) => some rest
  | none =>
    let cs := cs.dropWhile isSpace
    if cs.head?.any isAtomChar then some (cs.dropWhile isAtomChar) else none

/-- What is behind words and points; each of them takes a character at least. -/
private def phraseRest : Nat → List Char → List Char
  | 0, cs => cs
  | fuel + 1, cs =>
    match wordEnd? cs, cs with
    | some rest, _ => phraseRest fuel rest
    | none, '.' :: rest => phraseRest fuel rest
    | none, cs => cs

/-- What is behind a name. -/
def phraseEnd? (cs : List Char) : Option (List Char) :=
  (wordEnd? cs).map fun rest => phraseRest rest.length rest

end BookingNotices.Mail
