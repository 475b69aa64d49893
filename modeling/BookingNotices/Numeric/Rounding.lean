/-!
# Rounding to a binary format

* `nearestEven`      : the nearest whole number to a quotient, a tie to the even one;
* `magnitudeExponent`: the power of two at or below a positive quotient;
* `Format`           : how many significant bits a binary format keeps, and its finest grid;
* `Format.significand` : the significand and exponent nearest to a quotient;
* `Format.round`     : the value of the format nearest to a rational.

The formats have no greatest value here: overflow is the caller's question.
-/

namespace BookingNotices.Numeric

/-- The whole number nearest to `num / den`; of two equally near ones the even one. -/
def nearestEven (num den : Nat) : Nat :=
  let q := num / den
  let r := num % den
  if 2 * r < den then q else if den < 2 * r then q + 1 else q + q % 2

/-- The whole number nearest to `num / den`; of two equally near ones the greater. -/
def nearestUp (num den : Nat) : Nat := (2 * num + den) / (2 * den)

/-- The integer nearest to a rational; of two equally near ones the one farther from zero. -/
def nearestAway (q : Rat) : Int :=
  let m : Int := nearestUp q.num.natAbs q.den
  if q.num < 0 then -m else m

/-- The exponent `e` with `2 ^ e ≤ num / den < 2 ^ (e + 1)`, for a positive quotient. -/
def magnitudeExponent (num den : Nat) : Int :=
  let e : Int := (num.log2 : Int) - den.log2
  if num * Nat.pow 2 (-e).toNat < den * Nat.pow 2 e.toNat then e - 1 else e

/-- A binary format keeps `precision` significant bits, on no grid finer than `2 ^ finest`. -/
structure Format where
  precision : Nat
  finest : Int
  deriving DecidableEq, Repr

namespace Format

/-- Single precision. -/
def binary32 : Format := ⟨24, -149⟩

/-- Double precision. -/
def binary64 : Format := ⟨53, -1074⟩

/-- The exponent of the grid on which the format keeps a positive quotient. -/
def gridExponent (f : Format) (num den : Nat) : Int :=
  max (magnitudeExponent num den - (f.precision - 1)) f.finest

/-- The significand and the exponent of the format's value nearest to `num / den`. The significand
has at most `precision` bits. -/
def significand (f : Format) (num den : Nat) : Nat × Int :=
  if num = 0 then (0, f.finest)
  else
    let e := f.gridExponent num den
    let m := nearestEven (num * Nat.pow 2 (-e).toNat) (den * Nat.pow 2 e.toNat)
    if m = Nat.pow 2 f.precision then (Nat.pow 2 (f.precision - 1), e + 1) else (m, e)

end Format

/-- The rational `m * 2 ^ e`. -/
def scaled (m : Int) (e : Int) : Rat := mkRat (m * Nat.pow 2 e.toNat) (Nat.pow 2 (-e).toNat)

/-- The value of the format nearest to a rational; of two equally near ones the one whose
significand is even. -/
def Format.round (f : Format) (q : Rat) : Rat :=
  let (m, e) := f.significand q.num.natAbs q.den
  if q.num < 0 then scaled (-m) e else scaled m e

end BookingNotices.Numeric
