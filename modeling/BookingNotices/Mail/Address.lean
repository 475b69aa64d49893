import BookingNotices.Mail.Domain.Ascii
import BookingNotices.Mail.Lexeme
import BookingNotices.Numeric.Total
import BookingNotices.Text.Alphanumeric

/-!
# Mail addresses

* `Mail.Address`      : the user and the domain that mail goes to;
* `Address.make`      : an address of such parts, which are checked (`isUser`, `isHost`);
* `Address.read`      : reads `local@domain` or `Name <local@domain>`.

A domain is good if its labels are, or if those of its form in ASCII are.
-/

namespace BookingNotices.Mail

open Numeric Text

/-- Where mail comes from or goes to. -/
structure Address where
  user : List Char
  domain : List Char
  deriving DecidableEq, Repr

/-- Why a text is not an address. -/
inductive AddressProblem where
  | notAnAddress
  | badUser
  | badDomain
  deriving DecidableEq, Repr

def AddressProblem.message : AddressProblem → String
  | .notAnAddress => "Invalid input"
  | .badUser => "Invalid email user"
  | .badDomain => "Invalid email domain"

namespace Address

/-- The address as it is written. -/
def text (a : Address) : String := String.ofList (a.user ++ '@' :: a.domain)

/-! ## Users and hosts -/

/-- How many bytes a text has. -/
private def size (cs : List Char) : Nat := total (cs.map Char.utf8Size)

/-- Whether the two bytes of a code point read as a character of two bytes. -/
private def readsAsPair (c : Char) : Bool :=
  let n := c.toNat
  0xC2 ≤ n / 0x100 && n / 0x100 ≤ 0xDF && 0x80 ≤ n % 0x100 && n % 0x100 ≤ 0xBF

/-- The characters of users and labels: letters and digits of all scripts, and some marks. -/
def isNameChar (c : Char) : Bool := isAlphanumeric c || atomMarks.contains c || readsAsPair c

/-- The characters of ASCII that show. -/
private def shows (c : Char) : Bool := 0x21 ≤ c.toNat && c.toNat ≤ 0x7E

/-- Whether a text can stand between quotes. -/
private def isQuotedUser : List Char → Bool
  | [] => true
  | ['\\'] => false
  | '\\' :: c :: cs => shows c && isQuotedUser cs
  | c :: cs => (isSpace c || (shows c && c ≠ '"') || readsAsPair c) && isQuotedUser cs

/-- Whether a user is names between points, or a text between quotes, of at most 64 bytes. -/
def isUser (cs : List Char) : Bool :=
  !cs.isEmpty && size cs ≤ 64 &&
    if cs.head? = some '"' && cs.getLast? = some '"' then
      2 < cs.length && isQuotedUser cs.tail.dropLast
    else (parts '.' cs).all fun part => !part.isEmpty && part.all isNameChar

/-- Whether a label of a host starts and ends with a letter or a digit and has at most 63 bytes. -/
def isHostLabel (cs : List Char) : Bool :=
  cs.head?.any isAlphanumeric && cs.getLast?.any isAlphanumeric && size cs ≤ 63 &&
    cs.all isNameChar

/-- Whether a host is labels between points, or anything between square brackets, of at most 254
bytes. -/
def isHost (cs : List Char) : Bool :=
  !cs.isEmpty && size cs ≤ 254 &&
    if cs.head? = some '[' && cs.getLast? = some ']' then
      cs.tail.dropLast.all fun c =>
        (shows c && c ≠ '[' && c ≠ '\\' && c ≠ ']') || readsAsPair c
    else (parts '.' cs).all isHostLabel

/-- Whether a domain is that of a host. -/
def isDomain (cs : List Char) : Bool := isHost cs || (Domain.ascii? cs).any isHost

/-- The address of a user in a domain. -/
def make (user domain : List Char) : Except AddressProblem Address :=
  if !isUser user then .error .badUser
  else if !isDomain domain then .error .badDomain
  else .ok ⟨user, domain⟩

/-! ## Reading -/

/-- Reads a user and a domain. -/
private def bare? (cs : List Char) : Option ((List Char × List Char) × List Char) :=
  match (dotAtom? cs).or (quotedText? cs) with
  | some (user, '@' :: cs) => (dotAtom? cs).map fun (domain, cs) => ((user, domain), cs)
  | _ => none

/-- Reads a user and a domain between angle brackets, perhaps behind a name. -/
private def angled? (cs : List Char) : Option ((List Char × List Char) × List Char) :=
  match trimLeft ((phraseEnd? cs).getD cs) with
  | '<' :: cs =>
    match bare? cs with
    | some (parts, '>' :: cs) => some (parts, cs)
    | _ => none
  | _ => none

/-- Reads an address, with or without a name. -/
def read (s : String) : Except AddressProblem Address :=
  let cs := trimLeft s.toList
  match (angled? cs).or (bare? cs) with
  | some ((user, domain), rest) =>
    if rest.all isBlank then make user domain else .error .notAnAddress
  | none => .error .notAnAddress

end Address

end BookingNotices.Mail
