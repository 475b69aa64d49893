/-!
# Labels of all scripts in ASCII

* `Punycode.encode`  : a label in letters, digits and hyphens: first its ASCII characters, then, in
  the order of their code points, where the others have to be inserted;
* `Punycode.decode?` : the label that was written so.

The place of an insertion is a number that counts all places of all characters; each is written as
its distance from the one before, lowest digit first, and the highest digit of a number is known by
being below the threshold of its place. The thresholds follow the distances met so far.
-/

namespace BookingNotices.Mail.Domain.Punycode

/-- The number of digits. -/
def base : Nat := 36

/-- The threshold of a digit, which depends on its place and on what was met so far. -/
def threshold (bias place : Nat) : Nat := max 1 (min 26 (base * (place + 1) - bias))

/-- How often a number is divided until it is small, and what is left of it. -/
private def shrink : Nat → Nat → Nat × Nat
  | 0, n => (0, n)
  | fuel + 1, n =>
    if n ≤ 455 then (0, n)
    else
      let (times, n) := shrink fuel (n / 35)
      (times + 1, n)

/-- What the thresholds follow, after a distance to the place of an insertion that makes so many
characters. -/
def nextBias (first : Bool) (distance length : Nat) : Nat :=
  let n := if first then distance / 700 else distance / 2
  let (times, n) := shrink n (n + n / length)
  base * times + base * n / (n + 38)

/-- The place at which the search for insertions starts: the first place of the first character that
is not ASCII, for so many characters that are there. -/
private def origin : Nat := 0x80

/-! ## Writing -/

/-- The letter or figure of a digit. -/
def digitChar (n : Nat) : Char := Char.ofNat (if n < 26 then 'a'.toNat + n else '0'.toNat + n - 26)

/-- The digits of a number. -/
private def digitsFrom (bias : Nat) : Nat → Nat → Nat → List Char
  | 0, _, _ => []
  | fuel + 1, place, n =>
    let t := threshold bias place
    if n < t then [digitChar n]
    else
      digitChar (t + (n - t) % (base - t)) ::
        digitsFrom bias fuel (place + 1) ((n - t) / (base - t))

/-- The characters that are not ASCII, by code point and then by place, each with the number of
characters before it that are there when it is inserted. -/
private def insertions (cs : List Char) : List (Nat × Nat) :=
  let rec go (before : List Char) : List Char → List (Nat × Nat)
    | [] => []
    | c :: cs =>
      let rest := go (c :: before) cs
      if c.toNat < 0x80 then rest
      else (c.toNat, (before.filter (·.toNat ≤ c.toNat)).length) :: rest
  (go [] cs).mergeSort fun a b => a.1 ≤ b.1

/-- Writes insertions behind one at a code point and an index, when there are so many characters. -/
private def write (first : Bool) (bias code index length : Nat) : List (Nat × Nat) → List Char
  | [] => []
  | (c, i) :: rest =>
    let distance := (c - code) * (length + 1) + i - index
    digitsFrom bias (distance + 1) 0 distance ++
      write false (nextBias first distance (length + 1)) c (i + 1) (length + 1) rest

/-- A label in letters, digits and hyphens. -/
def encode (cs : List Char) : List Char :=
  let plain := cs.filter (·.toNat < 0x80)
  plain ++ (if plain.isEmpty then [] else ['-']) ++
    write true 72 origin 0 plain.length (insertions cs)

/-! ## Reading -/

/-- The digit of a letter or figure. -/
def digit? (c : Char) : Option Nat :=
  if 'a' ≤ c ∧ c ≤ 'z' then some (c.toNat - 'a'.toNat)
  else if '0' ≤ c ∧ c ≤ '9' then some (c.toNat - '0'.toNat + 26)
  else none

/-- Reads a number, the digit at a place counting so much. -/
private def number? (bias : Nat) : Nat → Nat → List Char → Option (Nat × List Char)
  | _, _, [] => none
  | place, weight, c :: cs =>
    (digit? c).bind fun n =>
      let t := threshold bias place
      if n < t then some (n * weight, cs)
      else
        (number? bias (place + 1) (weight * (base - t)) cs).map fun (m, cs) => (n * weight + m, cs)

/-- Reads insertions into a text, behind one at a code point and an index. -/
private def read? : Nat → Bool → Nat → Nat → Nat → List Char → List Char → Option (List Char)
  | 0, _, _, _, _, text, _ => some text
  | _, _, _, _, _, text, [] => some text
  | fuel + 1, first, bias, code, index, text, cs =>
    (number? bias 0 1 cs).bind fun (distance, cs) =>
      let length := text.length + 1
      let place := index + distance
      let code := code + place / length
      let index := place % length
      if code < 0xD800 ∨ (0xDFFF < code ∧ code < 0x110000) then
        read? fuel false (nextBias first distance length) code (index + 1)
          (text.take index ++ Char.ofNat code :: text.drop index) cs
      else none

/-- The label that was written so. -/
def decode? (cs : List Char) : Option (List Char) :=
  let tail := (cs.reverse.takeWhile (· ≠ '-')).reverse
  let plain := cs.take (cs.length - tail.length - 1)
  read? tail.length true 72 origin 0 plain tail

end BookingNotices.Mail.Domain.Punycode
