import BookingNotices.Numeric.Rounding

/-!
# Double precision numbers and their shortest text

* `Double`          : a finite double precision number, with the sign of its zero;
* `Double.ofParts?` : a decimal significand and exponent, as a document writes them;
* `Double.digits`   : the fewest decimal digits that lie in the rounding interval of the number,
  and of those the nearest ones;
* `Double.text`     : these digits, positional for exponents from -5 to 15, else with an exponent.
-/

namespace BookingNotices.Numeric

/-- The number `± significand * 2 ^ exponent`. -/
structure Double where
  negative : Bool
  significand : Nat
  exponent : Int
  deriving DecidableEq, Repr

namespace Double

/-- The rational that the number is. -/
def value (x : Double) : Rat :=
  let magnitude : Rat := if 0 ≤ x.exponent then (x.significand * Nat.pow 2 x.exponent.toNat : Nat)
    else mkRat x.significand (Nat.pow 2 (-x.exponent).toNat)
  if x.negative then -magnitude else magnitude

/-- The magnitudes at and above `2 ^ 1024` are out of range. -/
private def overflows (m : Nat) (e : Int) : Bool := m ≠ 0 && 1024 ≤ (m.log2 : Int) + e

/-- The nearest double precision number to `num / den`, if it is in range. -/
def ofQuotient? (negative : Bool) (num den : Nat) : Option Double :=
  let (m, e) := Format.binary64.significand num den
  if overflows m e then none else some ⟨negative, m, e⟩

/-- The product of a magnitude and a power of ten that double precision holds (at most the 308th),
rounded once. -/
private def timesPower (m : Nat) (e : Int) (power : Nat) : Nat × Int :=
  let (p, q) := Format.binary64.significand (Nat.pow 10 power) 1
  Format.binary64.significand (m * p * Nat.pow 2 (e + q).toNat) (Nat.pow 2 (-(e + q)).toNat)

/-- The quotient of a magnitude by such a power of ten, rounded once. -/
private def overPower (m : Nat) (e : Int) (power : Nat) : Nat × Int :=
  let (p, q) := Format.binary64.significand (Nat.pow 10 power) 1
  Format.binary64.significand (m * Nat.pow 2 (e - q).toNat) (p * Nat.pow 2 (-(e - q)).toNat)

/-- Divides by the 308th power of ten while the power left is greater, then by what is left. -/
private def overPowers : Nat → Nat → Int → Nat → Nat × Int
  | 0, m, e, power => overPower m e power
  | steps + 1, m, e, power =>
    if power ≤ 308 ∨ m = 0 then (if m = 0 then (m, e) else overPower m e power)
    else
      let (m, e) := overPower m e 308
      overPowers steps m e (power - 308)

/-- The number that a document's digits mean: the significand is rounded to double precision first,
then multiplied or divided by the power of ten, each step rounded. A magnitude that is out of range
gives nothing. -/
def ofParts? (negative : Bool) (significand : Nat) (power : Int) : Option Double :=
  let (m, e) := Format.binary64.significand significand 1
  let result? : Option (Nat × Int) :=
    if m = 0 then some (m, e)
    else if 0 ≤ power then
      if 308 < power then none else some (timesPower m e power.toNat)
    else
      let power := (-power).toNat
      some (overPowers (power / 308 + 1) m e power)
  match result? with
  | none => none
  | some (m, e) => if overflows m e then none else some ⟨negative, m, e⟩

/-! ## Shortest digits -/

/-- A magnitude over a common denominator: the number itself and the two ends of the interval of
reals that round to it, which belong to it when the significand is even. -/
private structure Interval where
  low : Nat
  value : Nat
  high : Nat
  den : Nat
  closed : Bool

private def interval (m : Nat) (e : Int) : Interval :=
  let up := Nat.pow 2 e.toNat
  let down := Nat.pow 2 (-e).toNat
  -- the gap below a power of two is half as wide
  let narrow := m = Nat.pow 2 52 && -1074 < e
  { low := (4 * m - (if narrow then 1 else 2)) * up
    value := 4 * m * up
    high := (4 * m + 2) * up
    den := 4 * down
    closed := m % 2 = 0 }

/-- Whether `n * 10 ^ k` lies in the interval. -/
private def Interval.has (i : Interval) (n : Nat) (k : Int) : Bool :=
  let x := n * Nat.pow 10 k.toNat * i.den
  let scale := Nat.pow 10 (-k).toNat
  if i.closed then i.low * scale ≤ x && x ≤ i.high * scale
  else i.low * scale < x && x < i.high * scale

/-- The exponent `k` with `10 ^ k ≤ num / den < 10 ^ (k + 1)`, looked for downwards from an upper
bound. -/
private def decimalExponent (num den : Nat) : Nat → Int → Int
  | 0, k => k
  | steps + 1, k =>
    if den * Nat.pow 10 k.toNat ≤ num * Nat.pow 10 (-k).toNat then k
    else decimalExponent num den steps (k - 1)

/-- The point of the grid `10 ^ k` that lies in the interval, the nearer one if two do. -/
private def Interval.onGrid (i : Interval) (k : Int) : Option (Nat × Int) :=
  let num := i.value * Nat.pow 10 (-k).toNat
  let den := i.den * Nat.pow 10 k.toNat
  let below := num / den
  let above := below + 1
  match i.has below k && below ≠ 0, i.has above k with
  | true, true =>
    let rest := 2 * (num % den)
    if rest < den || (rest = den && below % 2 = 0) then some (below, k) else some (above, k)
  | true, false => some (below, k)
  | false, true => some (above, k)
  | false, false => none

/-- Tries finer and finer grids. -/
private def Interval.search (i : Interval) : Nat → Int → Nat × Int
  | 0, k => (i.value * Nat.pow 10 (-k).toNat / (i.den * Nat.pow 10 k.toNat), k)
  | steps + 1, k =>
    match i.onGrid k with
    | some d => d
    | none => i.search steps (k - 1)

/-- The fewest decimal digits of a positive magnitude that read back, as a whole number and a power
of ten. The first grid tried is the one above the number: its only candidate is its first point. -/
def digits (m : Nat) (e : Int) : Nat × Int :=
  let i := interval m e
  let upper : Int := ((m.log2 : Int) + 1 + e) * 30103 / 100000 + 1
  let top := decimalExponent i.value i.den 8 upper
  i.search 20 (top + 1)

/-- The least exponent that is written positionally. -/
def leastPositional : Int := -5

/-- The greatest exponent that is written positionally. -/
def greatestPositional : Int := 15

/-- The text of `n * 10 ^ k`: positional with a point, or with an exponent whose sign is always
written. -/
private def decimalText (n : Nat) (k : Int) : String :=
  let ds := toString n
  let count : Int := ds.length
  let top := count - 1 + k
  if top < leastPositional ∨ greatestPositional < top then
    let head := (ds.take 1).toString
    let tail := (ds.drop 1).toString
    let point := if tail.isEmpty then "" else "."
    let sign := if top < 0 then "-" else "+"
    head ++ point ++ tail ++ "e" ++ sign ++ toString top.natAbs
  else if 0 ≤ k then ds ++ String.ofList (List.replicate k.toNat '0') ++ ".0"
  else if 0 ≤ top then
    let whole := (top + 1).toNat
    (ds.take whole).toString ++ "." ++ (ds.drop whole).toString
  else "0." ++ String.ofList (List.replicate (-top - 1).toNat '0') ++ ds

/-- The shortest text that reads back as the number; it always has a point or an exponent. -/
def text (x : Double) : String :=
  let sign := if x.negative then "-" else ""
  if x.significand = 0 then sign ++ "0.0"
  else
    let (n, k) := digits x.significand x.exponent
    sign ++ decimalText n k

end Double

end BookingNotices.Numeric
