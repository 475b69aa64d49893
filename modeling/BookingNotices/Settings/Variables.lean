import BookingNotices.Settings.Entry
import BookingNotices.Text.Integer
import BookingNotices.Text.Lowercase

/-!
# Settings in the environment of a process

* `Variables.path?`         : the path that the name of a variable means;
* `Variables.ofEnvironment` : the tree that the variables of an environment make, each of which
  replaces what earlier ones put at its path.

A name means a setting if it starts with a marker. Dots and pairs of underscores stand between the
names of a path, and brackets hold the index of an item. The case of letters does not matter.
-/

namespace BookingNotices.Settings.Variables

open Text

/-- The start of the names that are meant as settings. -/
def marker : List Char := "notification_service__".toList

/-- Whether a character can stand in a name of a path. -/
private def isNameChar (c : Char) : Bool :=
  c.isAlphanum || c = '_' || c = '-' || c = ' '

/-- Writes a dot for each pair of underscores. -/
private def undouble : List Char → List Char
  | '_' :: '_' :: cs => '.' :: undouble cs
  | c :: cs => c :: undouble cs
  | [] => []

private def skipSpaces (cs : List Char) : List Char := cs.dropWhile fun c => c = ' ' || c = '\t'

/-- Reads an index up to its closing bracket. -/
private def readIndex? (cs : List Char) : Option (Int × List Char) :=
  let cs := skipSpaces cs
  let (sign, cs) := match cs with
    | '-' :: cs => (['-'], cs)
    | cs => ([], cs)
  let isDigit (c : Char) : Bool := (Integer.digit? c).isSome
  let digits := cs.takeWhile isDigit
  match Integer.read .i64 (sign ++ digits), skipSpaces (cs.dropWhile isDigit) with
  | .ok n, ']' :: rest => if digits.isEmpty then none else some (n, rest)
  | _, _ => none

/-- Reads the steps behind the first name of a path; each of them takes a character at least. -/
private def readSteps? : Nat → List Char → Option (List Step)
  | _, [] => some []
  | fuel + 1, '.' :: cs =>
    let name := cs.takeWhile isNameChar
    if name.isEmpty then none
    else
      (readSteps? fuel (cs.dropWhile isNameChar)).map (.name (String.ofList name) :: ·)
  | fuel + 1, '[' :: cs =>
    (readIndex? cs).bind fun (n, rest) => (readSteps? fuel rest).map (.item n :: ·)
  | _, _ => none

/-- Reads a path. -/
def readPath? (cs : List Char) : Option (List Step) :=
  readSteps? (cs.length + 1) ('.' :: cs)

/-- The path that the name of a variable means, in whatever case it is written. -/
def path? (name : String) : Option (List Step) :=
  let cs := (lower name).toList
  if marker.isPrefixOf cs then readPath? (undouble (cs.drop marker.length)) else none

/-- The tree that the variables of an environment make, unless one of them means an item before the
first one. -/
def ofEnvironment (environment : List (String × String)) : Option Entry :=
  environment.foldlM (fun e (name, s) =>
    match path? name with
    | some path => e.set s path
    | none => some e) (.names [])

end BookingNotices.Settings.Variables
