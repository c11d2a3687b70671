/-!
Binary floating-point numbers of 64 bits, kept as exact dyadic rationals: a finite number is
`significand * 2 ^ exponent` with its sign. Every operation computes the exact result and rounds
it once, to the nearest number and from a tie to the even significand.

The shortest decimal that reads back as a given number: the reals that round to the number form an
interval; the coarsest decimal grid with a point in it is taken, and on it the point nearest to the
number.
-/

set_option autoImplicit false

namespace ViewDoc

/-- Two to a power. -/
def twoTo (n : Nat) : Nat :=
  Nat.pow 2 n

/-- Ten to a power. -/
def tenTo (n : Nat) : Nat :=
  Nat.pow 10 n

/-- A binary64 number. Rounding yields finite numbers whose significand is below `2 ^ 53` and, above
the least exponent, at least `2 ^ 52`. -/
inductive Binary64 where
  | nan
  | infinity (negative : Bool)
  | finite (negative : Bool) (significand : Nat) (exponent : Int)
  deriving DecidableEq, Repr, Inhabited

namespace Binary64

/-- The exponent of the finest grid of finite numbers. -/
def leastExponent : Int := -1074

/-- The exponent of the coarsest grid of finite numbers. -/
def greatestExponent : Int := 971

/-- The zero of the given sign. -/
def ofZero (negative : Bool) : Binary64 :=
  .finite negative 0 leastExponent

/-- The quotient rounded to the nearest integer, from a tie to the even one. -/
def roundDiv (num den : Nat) : Nat :=
  let q := num / den
  let r := 2 * (num % den)
  if r < den then q else if den < r then q + 1 else if q % 2 == 0 then q else q + 1

/-- The greatest `k` with `2 ^ k ≤ num / den`. -/
def binaryOrder (num den : Nat) : Int :=
  let k : Int := (Nat.log2 num : Int) - (Nat.log2 den : Int)
  let below :=
    if 0 ≤ k then decide (num < den * twoTo k.toNat) else decide (num * twoTo (-k).toNat < den)
  if below then k - 1 else k

/-- The number nearest to `num / den`. -/
def ofRatio (negative : Bool) (num den : Nat) : Binary64 :=
  if num == 0 then ofZero negative
  else
    let e := max (binaryOrder num den - 52) leastExponent
    let m :=
      if 0 ≤ e then roundDiv num (den * twoTo e.toNat) else roundDiv (num * twoTo (-e).toNat) den
    let (m, e) := if m == twoTo 53 then (twoTo 52, e + 1) else (m, e)
    if greatestExponent < e then .infinity negative else .finite negative m e

/-- The number nearest to `digits * 10 ^ scale`. -/
def ofDecimal (negative : Bool) (digits : Nat) (scale : Int) : Binary64 :=
  let order : Int := (Nat.toDigits 10 digits).length + scale
  if digits == 0 || order < -330 then ofZero negative
  else if 310 < order then .infinity negative
  else if 0 ≤ scale then ofRatio negative (digits * tenTo scale.toNat) 1
  else ofRatio negative digits (tenTo (-scale).toNat)

/-- The number nearest to an integer. -/
def ofInt (i : Int) : Binary64 :=
  ofRatio (i < 0) i.natAbs 1

/-- The significand with its sign, on the grid of exponent `e`, which is not above the number's. -/
private def scaledTo (e : Int) (negative : Bool) (m : Nat) (exponent : Int) : Int :=
  let n : Int := (m * twoTo (exponent - e).toNat : Nat)
  if negative then -n else n

/-- The sum, rounded once. -/
def add : Binary64 -> Binary64 -> Binary64
  | .nan, _ => .nan
  | _, .nan => .nan
  | .infinity s, .infinity t => if s == t then .infinity s else .nan
  | .infinity s, _ => .infinity s
  | _, .infinity t => .infinity t
  | .finite s m e, .finite t n f =>
    if m == 0 && n == 0 then ofZero (s && t)
    else
      let g := min e f
      let sum := scaledTo g s m e + scaledTo g t n f
      if 0 ≤ g then ofRatio (sum < 0) (sum.natAbs * twoTo g.toNat) 1
      else ofRatio (sum < 0) sum.natAbs (twoTo (-g).toNat)

/-- The integer that a finite number equals, if it equals one. -/
def toInt? : Binary64 -> Option Int
  | .finite s m e =>
    let magnitude :=
      if 0 ≤ e then some (m * twoTo e.toNat)
      else if m % twoTo (-e).toNat == 0 then some (m / twoTo (-e).toNat) else none
    magnitude.map fun n => if s then -(n : Int) else (n : Int)
  | _ => none

/-- Whether a number is finite. -/
def isFinite : Binary64 -> Bool
  | .finite .. => true
  | _ => false

/-- Whether the number is zero, of either sign. -/
def isZero : Binary64 -> Bool
  | .finite _ m _ => m == 0
  | _ => false

/-- Numerical equality: the zeros are equal, and a NaN equals nothing. -/
def eqNumber : Binary64 -> Binary64 -> Bool
  | .finite s m e, .finite t n f =>
    let g := min e f
    scaledTo g s m e == scaledTo g t n f
  | .infinity s, .infinity t => s == t
  | _, _ => false

/-- Numerical equality with an integer. -/
def eqInt (x : Binary64) (i : Int) : Bool :=
  x.toInt? == some i

end Binary64

end ViewDoc

namespace ViewDoc.Decimal

/-- A decimal `digits * 10 ^ scale`. -/
structure Digits where
  digits : Nat
  scale : Int
  deriving DecidableEq, Repr

/-- An exact fraction and the bounds of the interval that rounds to it, over one denominator. -/
structure Interval where
  low : Nat
  mid : Nat
  high : Nat
  den : Nat
  closed : Bool
  deriving Repr

/-- The interval of the reals that round to `m * 2 ^ e`. The numbers below a power of two lie
closer together, so that the lower end is nearer there. -/
def Interval.around (m : Nat) (e : Int) : Interval :=
  let scale := twoTo e.toNat
  let down := if m == twoTo 52 && Binary64.leastExponent < e then 1 else 2
  ⟨(4 * m - down) * scale, 4 * m * scale, (4 * m + 2) * scale, 4 * twoTo (-e).toNat, m % 2 == 0⟩

/-- Whether the fraction `n / den`, over the interval's denominator, lies in the interval. -/
def Interval.holds (i : Interval) (n : Nat) : Bool :=
  if i.closed then decide (i.low ≤ n) && decide (n ≤ i.high)
  else decide (i.low < n) && decide (n < i.high)

/-- The interval with all its fractions multiplied by `k`, and with `n / (k * den)` for `n / den`. -/
private def Interval.scaled (i : Interval) (k l : Nat) : Interval :=
  ⟨i.low * k, i.mid * k, i.high * k, i.den * l, i.closed⟩

/-- The least `k` with `num / den < 10 ^ k`. -/
def decimalOrder (num den : Nat) : Int :=
  let guess := (Binary64.binaryOrder num den * 30103) / 100000
  let isAbove (k : Int) : Bool :=
    if 0 ≤ k then decide (num < den * tenTo k.toNat) else decide (num * tenTo (-k).toNat < den)
  (([guess - 1, guess, guess + 1, guess + 2].find? isAbove).getD (guess + 3))

/-- The point of the grid `10 ^ scale` in the interval that is nearest to its middle. -/
def Interval.nearest? (i : Interval) (scale : Int) : Option Digits :=
  let j := i.scaled (tenTo (-scale).toNat) (tenTo scale.toNat)
  let q := j.mid / j.den
  let lower := q * j.den
  let upper := (q + 1) * j.den
  match j.holds lower && decide (0 < q), j.holds upper with
  | true, true =>
    let (a, b) := (j.mid - lower, upper - j.mid)
    some ⟨if a < b || (a == b && q % 2 == 0) then q else q + 1, scale⟩
  | true, false => some ⟨q, scale⟩
  | false, true => some ⟨q + 1, scale⟩
  | false, false => none

private def firstGrid (i : Interval) (order : Int) : Nat -> Nat -> Option Digits
  | _, 0 => none
  | count, left + 1 => (i.nearest? (order - count)).or (firstGrid i order (count + 1) left)

private def withoutZeros : Nat -> Digits -> Digits
  | 0, d => d
  | left + 1, d =>
    if d.digits != 0 && d.digits % 10 == 0 then withoutZeros left ⟨d.digits / 10, d.scale + 1⟩ else d

/-- The shortest decimal that rounds to `m * 2 ^ e`; seventeen digits always suffice. -/
def shortest (m : Nat) (e : Int) : Digits :=
  if m == 0 then ⟨0, 0⟩
  else
    let i := Interval.around m e
    withoutZeros 20 ((firstGrid i (decimalOrder i.mid i.den) 1 17).getD ⟨m, 0⟩)

end ViewDoc.Decimal
