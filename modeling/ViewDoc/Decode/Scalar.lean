import ViewDoc.Decode
import ViewDoc.Text.Blank
import ViewDoc.Text.Letter
import ViewDoc.Text.Split
/-!
Decoding truth values, whole numbers and words of a choice. Truth values and whole numbers may also
be spelled by numbers and texts that stand for them. A text spells a whole number with digits after
an optional sign, with blanks around, and perhaps a point with zeros after it. A low line may stand
between two digits. Zeros in front do not count, nor do low lines among them.
-/

set_option autoImplicit false

namespace ViewDoc.Decode

/-- A blank that may surround a number: no separator of records. -/
def isMargin (c : Char) : Bool :=
  Text.isBlank c && !(28 ≤ c.toNat && c.toNat ≤ 31)

/-- Drops zeros and low lines after a zero, up to the last of them where no other digit follows. -/
def afterZero (last : Char) : List Char -> Option (List Char)
  | [] => some [last]
  | '.' :: rest => some (last :: '.' :: rest)
  | c :: rest =>
    if c == '0' || c == '_' then afterZero c rest
    else if Text.isAsciiDigit c then some (c :: rest)
    else none

/-- The numeral without the zeros in front, if it starts like one. -/
def withoutZeros : List Char -> Option (List Char)
  | [] => none
  | c :: rest =>
    if c == '0' then afterZero c rest
    else if c == '-' || Text.isAsciiDigit c then some (c :: rest)
    else none

/-- The numeral without a point and zeros at its end. -/
def withoutFraction (cs : List Char) : List Char :=
  let fraction := (cs.dropWhile (· != '.')).drop 1
  if !fraction.isEmpty && fraction.all (· == '0') then cs.takeWhile (· != '.') else cs

/-- The numeral without its low lines, where these stand as they may. -/
def ungrouped (cs : List Char) : List Char :=
  if cs.head? == some '_' || cs.getLast? == some '_' || Text.hasPart ['_', '_'] cs then cs
  else cs.filter (· != '_')

/-- The number that plain digits write after an optional minus sign, unless they are too many. -/
def plainInteger (cs : List Char) : Except Problem.Kind Int :=
  let digits := if cs.head? == some '-' then cs.drop 1 else cs
  let run := digits.takeWhile Text.isAsciiDigit
  let width := run.length + (cs.length - digits.length)
  if run.isEmpty || (run.head? == some '0' && 1 < run.length) then .error .intParsing
  else if Text.numeralLimit < width then .error .intParsingSize
  else if run.length < digits.length then .error .intParsing
  else
    match Text.numeral? run with
    | some n => .ok (if digits.length < cs.length then -(n : Int) else n)
    | none => .error .intParsing

/-- The whole number that a text spells. -/
def integer (s : String) : Except Problem.Kind Int :=
  let cs := Text.trimWhere isMargin s.toList
  match withoutZeros (if cs.head? == some '+' then cs.drop 1 else cs) with
  | some rest =>
    if cs.head? == some '+' && rest.head? == some '-' then .error .intParsing
    else plainInteger (ungrouped (withoutFraction rest))
  | none => .error .intParsing

/-- The truth value that a word stands for, in any case. -/
def flagWord? (s : String) : Option Bool :=
  let word := Text.asciiLower s
  if ["0", "off", "f", "false", "n", "no"].contains word then some false
  else if ["1", "on", "t", "true", "y", "yes"].contains word then some true
  else none

/-- Whether a whole number lies inside the range of 64 bits, above its lower end. -/
def isInsideWord (i : Int) : Bool :=
  fitsWord i && i != -9223372036854775808

private def flagNumber : Int -> Decoded Bool
  | 0 => .value false
  | 1 => .value true
  | _ => .fail .boolParsing

/-- Accepts truth values and the numbers and words that stand for them. -/
def flag : Value -> Decoded Bool
  | .bool b => .value b
  | .int i => if fitsWord i then flagNumber i else .fail .boolType
  | .float x => match x.toInt? with
    | some i => if isInsideWord i then flagNumber i else .fail .boolType
    | none => .fail .boolType
  | .str s => match flagWord? s with
    | some b => .value b
    | none => .fail .boolParsing
  | _ => .fail .boolType

/-- Accepts whole numbers, and what spells one. -/
def whole : Value -> Decoded Int
  | .int i => .value i
  | .bool b => .value (if b then 1 else 0)
  | .float x =>
    match x.toInt? with
    | some i => if isInsideWord i then .value i else .fail .intParsingSize
    | none => .fail (if x.isFinite then .intFromFloat else .notFinite)
  | .str s => match integer s with
    | .ok i => .value i
    | .error kind => .fail kind
  | _ => .fail .intType

/-- Accepts whole numbers that are not below a bound. -/
def wholeFrom (least : Int) (v : Value) : Decoded Int :=
  (whole v).andThen fun i => if i < least then .fail .tooSmall else .value i

/-- Accepts the words of a choice. -/
def choice {α : Type} (ofWord? : String -> Option α) : Value -> Decoded α
  | .str s => match ofWord? s with
    | some a => .value a
    | none => .fail .unknownChoice
  | _ => .fail .unknownChoice

end ViewDoc.Decode
