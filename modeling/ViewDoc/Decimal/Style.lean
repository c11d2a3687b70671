import ViewDoc.Decimal.Binary64
import ViewDoc.Text.Digit
/-!
The spelling of binary64 numbers: in a style, positional where the point falls near the digits and
with an exponent elsewhere; or with a given number of places, for which the exact fraction is rounded
once, from a tie to the even digit.
-/

set_option autoImplicit false

namespace ViewDoc.Decimal

/-- How numbers are spelled. Writing a number as `0.d * 10 ^ point`, it is positional exactly when
`afterPoint < point ≤ 16`. -/
structure Style where
  afterPoint : Int
  plusSign : Bool
  exponentWidth : Nat
  nan : String
  infinity : String
  minusInfinity : String

/-- The style of displayed values: positional from `0.0001` to below `10 ^ 16`. -/
def Style.display : Style := ⟨-4, true, 2, "nan", "inf", "-inf"⟩

/-- The style of written data: as displayed, with words for what is not finite. -/
def Style.data : Style := ⟨-4, true, 2, "NaN", "Infinity", "-Infinity"⟩

/-- The style of compact interchange: positional from `0.00001`, a signed exponent, and no spelling
for what is not finite. -/
def Style.compact : Style := ⟨-5, true, 0, "null", "null", "null"⟩

/-- A row of zeros. -/
def zeros (n : Nat) : List Char :=
  List.replicate n '0'

private def exponentText (style : Style) (e : Int) : List Char :=
  let digits := Nat.toDigits 10 e.natAbs
  (if e < 0 then ['-'] else if style.plusSign then ['+'] else []) ++
    zeros (style.exponentWidth - digits.length) ++ digits

/-- The spelling of a decimal. -/
def Style.spell (style : Style) (d : Digits) : List Char :=
  let cs := Nat.toDigits 10 d.digits
  let point : Int := cs.length + d.scale
  if d.digits == 0 then ['0', '.', '0']
  else if style.afterPoint < point && point ≤ 16 then
    if point ≤ 0 then ['0', '.'] ++ zeros (-point).toNat ++ cs
    else if cs.length ≤ point.toNat then cs ++ zeros (point.toNat - cs.length) ++ ['.', '0']
    else cs.take point.toNat ++ ['.'] ++ cs.drop point.toNat
  else
    cs.take 1 ++ (if cs.length == 1 then [] else '.' :: cs.drop 1) ++ ['e'] ++
      exponentText style (point - 1)

/-- The spelling of a number. -/
def Style.text (style : Style) : Binary64 -> String
  | .nan => style.nan
  | .infinity negative => if negative then style.minusInfinity else style.infinity
  | .finite negative m e => .ofList ((if negative then ['-'] else []) ++ style.spell (shortest m e))


/-- The digits with a point before the last `places` of them. A keeper of the point has it also
before nothing. -/
private def pointed (keepPoint : Bool) (places : Nat) (digits : List Char) : List Char :=
  let whole := digits.take (digits.length - places)
  whole ++ (if places = 0 && !keepPoint then [] else '.' :: digits.drop whole.length)

/-- A fraction with so many places. -/
def fixed (keepPoint : Bool) (places : Nat) (num den : Nat) : List Char :=
  let digits := Nat.toDigits 10 (Binary64.roundDiv (num * tenTo places) den)
  pointed keepPoint places (zeros (places + 1 - digits.length) ++ digits)

/-- The digits of a fraction, of which so many follow the first one, and the exponent of the
first. -/
def rounded (places : Nat) (num den : Nat) : Nat × Int :=
  if num = 0 then (0, 0)
  else
    let order := decimalOrder num den - 1
    let shift := (places : Int) - order
    let n := Binary64.roundDiv (num * tenTo shift.toNat) (den * tenTo (-shift).toNat)
    if n = tenTo (places + 1) then (tenTo places, order + 1) else (n, order)

private def exponentPart (e : Int) : List Char :=
  let digits := Nat.toDigits 10 e.natAbs
  ['e', if e < 0 then '-' else '+'] ++ zeros (2 - digits.length) ++ digits

/-- A fraction with an exponent and so many places. -/
def scientific (keepPoint : Bool) (places : Nat) (num den : Nat) : List Char :=
  let (n, e) := rounded places num den
  let digits := Nat.toDigits 10 n
  pointed keepPoint places (zeros (places + 1 - digits.length) ++ digits) ++ exponentPart e

private def withoutPlacesOfZero (cs : List Char) : List Char :=
  if cs.contains '.' then
    let kept := cs.reverse.dropWhile (· == '0')
    (if kept.head? == some '.' then kept.drop 1 else kept).reverse
  else cs

/-- A fraction with so many digits that count, positional where its exponent is at least -4 and less
than their number. Zeros at the end are dropped unless the point is kept. -/
def general (keepPoint : Bool) (precision : Nat) (num den : Nat) : List Char :=
  let places := precision - 1
  let e := (rounded places num den).2
  let trim := if keepPoint then id else withoutPlacesOfZero
  if -4 ≤ e && e < max precision 1 then trim (fixed keepPoint ((places : Int) - e).toNat num den)
  else
    let cs := scientific keepPoint places num den
    trim (cs.takeWhile (· != 'e')) ++ cs.dropWhile (· != 'e')

end ViewDoc.Decimal
