import BookingNotices.Mail.Domain.Direction
import BookingNotices.Mail.Domain.Joining
import BookingNotices.Mail.Domain.Mapping
import BookingNotices.Mail.Domain.Punycode
import BookingNotices.Text.Mark

/-!
# Domains of all scripts in ASCII

* `Domain.Label`   : a label as it is meant, and as it is written in ASCII;
* `Domain.labels?` : the labels of a domain, if all of them are well formed;
* `Domain.ascii?`  : the domain in ASCII.
-/

namespace BookingNotices.Mail.Domain

open Text

/-- A part of a domain between points. -/
structure Label where
  meant : List Char
  written : List Char
  deriving DecidableEq, Repr

/-- The start of labels that stand for ones of other scripts. -/
def aceMarker : List Char := "xn--".toList

/-- Whether a text is all ASCII. -/
def isAscii (cs : List Char) : Bool := cs.all (·.toNat < 0x80)

/-- Whether a label that is not all ASCII is well formed. -/
def isWellFormed (cs : List Char) : Bool := !(cs.head?.any isMark) && joinersFit [] cs

/-- Whether a label stands for itself. -/
def isStable (cs : List Char) : Bool :=
  cs.all (fun c => mapChar? c = some [c]) && composed cs = cs

/-- Reads a label of a domain that is written as it is meant. -/
def label? (cs : List Char) : Option Label :=
  if aceMarker.isPrefixOf cs then
    match Punycode.decode? (cs.drop aceMarker.length) with
    | none => none
    | some meant =>
      if isAscii cs && !isAscii meant && isStable meant && isWellFormed meant then some ⟨meant, cs⟩
      else none
  else if isAscii cs then some ⟨cs, cs⟩
  else if isWellFormed cs then some ⟨cs, aceMarker ++ Punycode.encode cs⟩
  else none

/-- The labels of a domain. If anything in it is written from the right, all labels have to read the
same way in every context. -/
def labels? (cs : List Char) : Option (List Label) := do
  let labels ← (parts '.' (composed (← mapped? cs))).mapM label?
  if labels.any fun l => turns l.meant then
    guard (labels.all fun l => flows l.meant)
  return labels

/-- The domain in ASCII. -/
def ascii? (cs : List Char) : Option (List Char) :=
  (labels? cs).map fun labels => ['.'].intercalate (labels.map Label.written)

end BookingNotices.Mail.Domain
