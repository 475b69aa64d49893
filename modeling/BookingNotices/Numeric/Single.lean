import BookingNotices.Numeric.Rounding

/-!
# Single precision lengths

* `Single` : a length or a size kept in single precision, each operation rounded once;
* `Single.ofRat` : the nearest such value, infinite beyond the greatest finite one;
* `Single.thousandths` : the value in thousandths, as a whole number.

A formula over `Single` means its operations in the order in which it is written. There is one
zero: no operation here tells the sign of a zero.
-/

namespace BookingNotices.Numeric

/-- A number in single precision. -/
inductive Single where
  | finite (value : Rat)
  | infinite (negative : Bool)
  /-- what an operation without a value leaves; it compares with nothing -/
  | undefined
  deriving DecidableEq, Repr

namespace Single

/-- The least power of two that is too large for single precision. -/
def overflow : Rat := Nat.pow 2 128

/-- The single precision number nearest to a rational. -/
def ofRat (q : Rat) : Single :=
  let r := Format.binary32.round q
  if overflow ≤ r then .infinite false
  else if r ≤ -overflow then .infinite true
  else .finite r

def neg : Single → Single
  | finite a => finite (-a)
  | infinite negative => infinite (!negative)
  | undefined => undefined

def add : Single → Single → Single
  | finite a, finite b => ofRat (a + b)
  | infinite s, infinite t => if s = t then infinite s else undefined
  | infinite s, finite _ => infinite s
  | finite _, infinite s => infinite s
  | undefined, _ => undefined
  | _, undefined => undefined

/-- An infinity of the sign of the product with a rational. -/
private def infinityTimes (negative : Bool) (a : Rat) : Single :=
  if a = 0 then undefined else infinite (negative != decide (a < 0))

def mul : Single → Single → Single
  | finite a, finite b => ofRat (a * b)
  | infinite s, infinite t => infinite (s != t)
  | infinite s, finite a => infinityTimes s a
  | finite a, infinite s => infinityTimes s a
  | undefined, _ => undefined
  | _, undefined => undefined

def div : Single → Single → Single
  | finite a, finite b => if b = 0 then infinityTimes false a else ofRat (a / b)
  | infinite s, finite b => infinite (s != decide (b < 0))
  | finite _, infinite _ => finite 0
  | infinite _, infinite _ => undefined
  | undefined, _ => undefined
  | _, undefined => undefined

/-- The order from the negative infinity to the positive one. -/
def atMost : Single → Single → Bool
  | finite a, finite b => a ≤ b
  | infinite true, finite _ => true
  | finite _, infinite negative => !negative
  | infinite s, infinite t => s || !t
  | _, _ => false

instance : Inhabited Single := ⟨finite 0⟩
instance : Add Single := ⟨add⟩
instance : Neg Single := ⟨neg⟩
instance : Sub Single := ⟨fun a b => add a (neg b)⟩
instance : Mul Single := ⟨mul⟩
instance : Div Single := ⟨div⟩
instance {n : Nat} : OfNat Single n := ⟨ofRat n⟩

instance : LE Single := ⟨fun a b => a.atMost b = true⟩
instance : LT Single := ⟨fun a b => a.atMost b = true ∧ b.atMost a = false⟩
instance (a b : Single) : Decidable (a ≤ b) := inferInstanceAs (Decidable (a.atMost b = true))
instance (a b : Single) : Decidable (a < b) :=
  inferInstanceAs (Decidable (a.atMost b = true ∧ b.atMost a = false))

/-- The single precision number nearest to the decimal `digits / 10 ^ places`. -/
def ofDecimal (digits : Int) (places : Nat) : Single := ofRat (mkRat digits (Nat.pow 10 places))

/-- A count as a single precision number. -/
def ofNat (n : Nat) : Single := ofRat n

/-- The value in thousandths, computed in double precision and rounded to the nearest whole number,
halves away from zero; the nearest end of the range of 64 bit integers beyond it. -/
def thousandths : Single → Int
  | finite a =>
    max (-(Nat.pow 2 63)) (min (nearestAway (Format.binary64.round (a * 1000))) (Nat.pow 2 63 - 1))
  | infinite negative => if negative then -(Nat.pow 2 63) else Nat.pow 2 63 - 1
  | undefined => 0

end Single

end BookingNotices.Numeric
