/-!
# Whole numbers in decimal, of a fixed width

* `Width`   : a range of integers, signed or not, of a number of bits;
* `read`    : the decimal reading of a whole text, with the first problem met from left to right;
* `Problem` : the four ways in which a reading fails, and their wording.
-/

namespace BookingNotices.Text

/-- A machine word as a range of integers. -/
structure Width where
  signed : Bool
  bits : Nat
  deriving DecidableEq, Repr

namespace Width

def i64 : Width := ⟨true, 64⟩
def u64 : Width := ⟨false, 64⟩
def u32 : Width := ⟨false, 32⟩
def u16 : Width := ⟨false, 16⟩
def u8 : Width := ⟨false, 8⟩

/-- The least integer of the width. -/
def least (w : Width) : Int := if w.signed then -(Nat.pow 2 (w.bits - 1)) else 0

/-- The greatest integer of the width. -/
def greatest (w : Width) : Int :=
  Nat.pow 2 (if w.signed then w.bits - 1 else w.bits) - 1

/-- An integer fits a width when it lies between its ends. -/
def holds (w : Width) (n : Int) : Bool := w.least ≤ n && n ≤ w.greatest

end Width

namespace Integer

/-- Why a text is not an integer of the width asked for. -/
inductive Problem where
  | empty
  | invalidDigit
  | tooLarge
  | tooSmall
  deriving DecidableEq, Repr

def Problem.message : Problem → String
  | .empty => "cannot parse integer from empty string"
  | .invalidDigit => "invalid digit found in string"
  | .tooLarge => "number too large to fit in target type"
  | .tooSmall => "number too small to fit in target type"

/-- The value of an ASCII decimal digit. -/
def digit? (c : Char) : Option Nat :=
  if '0' ≤ c ∧ c ≤ '9' then some (c.toNat - '0'.toNat) else none

/-- Reads digits onto the value read so far, away from zero on the given side. At each digit a bad
character is reported before a value that no longer fits. -/
def readDigits (w : Width) (negative : Bool) : Int → List Char → Except Problem Int
  | value, [] => .ok value
  | value, c :: cs =>
    match digit? c with
    | none => .error .invalidDigit
    | some d =>
      let next := if negative then value * 10 - d else value * 10 + d
      if next < w.least then .error .tooSmall
      else if w.greatest < next then .error .tooLarge
      else readDigits w negative next cs

/-- Reads a whole text: an optional sign (a minus only for a signed width), then digits. -/
def read (w : Width) : List Char → Except Problem Int
  | [] => .error .empty
  | ['+'] => .error .invalidDigit
  | ['-'] => .error .invalidDigit
  | '+' :: cs => readDigits w false 0 cs
  | '-' :: cs => if w.signed then readDigits w true 0 cs else .error .invalidDigit
  | cs => readDigits w false 0 cs

end Integer

end BookingNotices.Text
