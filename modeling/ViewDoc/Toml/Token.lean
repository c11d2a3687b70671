import ViewDoc.Decimal.Binary64
import ViewDoc.Text.Digit
import ViewDoc.Text.Letter
/-!
Strings, keys, numbers and moments of settings files.
-/

set_option autoImplicit false

namespace ViewDoc.Toml

/-- Why a text cannot be read: it breaks the grammar, or it holds an integer of too many digits. -/
inductive ReadError where
  | malformed
  | longNumeral
  deriving DecidableEq, Repr

/-- A reader takes something from the front of the text and returns the rest. -/
abbrev Reader (α : Type) := List Char -> Except ReadError (α × List Char)

/-- A blank within a line. -/
def isSpace (c : Char) : Bool :=
  c == ' ' || c == '\t'

/-- A blank or a line break. -/
def isGap (c : Char) : Bool :=
  isSpace c || c == '\n'

/-- Drops the blanks within a line. -/
def skipSpaces (cs : List Char) : List Char :=
  cs.dropWhile isSpace

/-- A control character, which may stand neither in a string nor in a comment. The tab is none. -/
def isControl (c : Char) : Bool :=
  (c.toNat < 32 && c != '\t') || c.toNat == 127

/-- The text after a given beginning. -/
def after? (beginning : String) (cs : List Char) : Option (List Char) :=
  if beginning.toList.isPrefixOf cs then some (cs.drop beginning.toList.length) else none

/-! ### Strings -/

private def hexValue? (c : Char) : Option Nat :=
  if Text.isAsciiDigit c then some (c.toNat - 48)
  else if 'a' ≤ c && c ≤ 'f' then some (c.toNat - 87)
  else if 'A' ≤ c && c ≤ 'F' then some (c.toNat - 55)
  else none

/-- The character whose code point is written in hexadecimal digits. -/
def hexChar? (digits : List Char) : Option Char := do
  let n ← digits.foldlM (fun n c => (hexValue? c).map fun d => 16 * n + d) 0
  if n < 0xd800 || (0xdfff < n && n < 0x110000) then some (Char.ofNat n) else none

/-- The character of a short escape. -/
def shortEscape? : Char -> Option Char
  | 'b' => some '\x08'
  | 't' => some '\t'
  | 'n' => some '\n'
  | 'f' => some '\x0c'
  | 'r' => some '\r'
  | '"' => some '"'
  | '\\' => some '\\'
  | _ => none

/-- The rest of a basic string in one line, after its opening quote. -/
def basicRest (seen : List Char) : Reader String
  | [] => .error .malformed
  | '"' :: rest => .ok (.ofList seen.reverse, rest)
  | '\\' :: 'u' :: a :: b :: c :: d :: rest =>
    match hexChar? [a, b, c, d] with
    | some x => basicRest (x :: seen) rest
    | none => .error .malformed
  | '\\' :: 'U' :: a :: b :: c :: d :: e :: f :: g :: h :: rest =>
    match hexChar? [a, b, c, d, e, f, g, h] with
    | some x => basicRest (x :: seen) rest
    | none => .error .malformed
  | '\\' :: c :: rest =>
    match shortEscape? c with
    | some x => basicRest (x :: seen) rest
    | none => .error .malformed
  | c :: rest => if isControl c then .error .malformed else basicRest (c :: seen) rest

/-- How a string of several lines is being read: as it stands, after a backslash that has to end its
line, or dropping the gap after such a line. -/
inductive LineMode where
  | plain
  | ending
  | gap
  deriving DecidableEq, Repr

/-- The rest of a basic string of several lines, up to its closing quotes. -/
def linesRest (mode : LineMode) (seen : List Char) : Reader (List Char)
  | [] => .error .malformed
  | '"' :: '"' :: '"' :: rest =>
    if mode == .ending then .error .malformed else .ok (seen.reverse, rest)
  | '\\' :: 'u' :: a :: b :: c :: d :: rest =>
    if mode == .ending then .error .malformed
    else
      match hexChar? [a, b, c, d] with
      | some x => linesRest .plain (x :: seen) rest
      | none => .error .malformed
  | '\\' :: 'U' :: a :: b :: c :: d :: e :: f :: g :: h :: rest =>
    if mode == .ending then .error .malformed
    else
      match hexChar? [a, b, c, d, e, f, g, h] with
      | some x => linesRest .plain (x :: seen) rest
      | none => .error .malformed
  | '\\' :: c :: rest =>
    if mode == .ending then .error .malformed
    else if isSpace c then linesRest .ending seen rest
    else if c == '\n' then linesRest .gap seen rest
    else
      match shortEscape? c with
      | some x => linesRest .plain (x :: seen) rest
      | none => .error .malformed
  | c :: rest =>
    if mode == .ending then
      if isSpace c then linesRest .ending seen rest
      else if c == '\n' then linesRest .gap seen rest
      else .error .malformed
    else if mode == .gap && isGap c then linesRest .gap seen rest
    else if isControl c && c != '\n' then .error .malformed
    else linesRest .plain (c :: seen) rest

/-- The rest of a literal string in one line, after its opening quote. -/
def literalRest : Reader String := fun cs =>
  let inner := cs.takeWhile (· ≠ '\'')
  match cs.drop inner.length with
  | _ :: rest => if inner.any isControl then .error .malformed else .ok (.ofList inner, rest)
  | [] => .error .malformed

/-- The rest of a literal string of several lines, up to its closing quotes. -/
def literalLinesRest (seen : List Char) : Reader (List Char)
  | [] => .error .malformed
  | '\'' :: '\'' :: '\'' :: rest => .ok (seen.reverse, rest)
  | c :: rest =>
    if isControl c && c != '\n' then .error .malformed else literalLinesRest (c :: seen) rest

/-- Up to two quotes before the closing ones belong to the string. -/
def extraQuotes (quote : Char) (inner : List Char) (rest : List Char) : String × List Char :=
  let extra := (rest.take 2).takeWhile (· == quote)
  (.ofList (inner ++ extra), rest.drop extra.length)

private def withoutFirstBreak : List Char -> List Char
  | '\n' :: rest => rest
  | cs => cs

/-- Reads a string of any kind; there must be a quote at the front. -/
def readString : Reader String := fun cs =>
  match cs with
  | '"' :: '"' :: '"' :: rest =>
    (linesRest .plain [] (withoutFirstBreak rest)).map fun r => extraQuotes '"' r.1 r.2
  | '\'' :: '\'' :: '\'' :: rest =>
    (literalLinesRest [] (withoutFirstBreak rest)).map fun r => extraQuotes '\'' r.1 r.2
  | '"' :: rest => basicRest [] rest
  | '\'' :: rest => literalRest rest
  | _ => .error .malformed

/-! ### Keys -/

/-- A character of a bare key. -/
def isBare (c : Char) : Bool :=
  Text.isAsciiLetter c || Text.isAsciiDigit c || c == '-' || c == '_'

/-- Reads one part of a key. -/
def readKeyPart : Reader String := fun cs =>
  match cs with
  | '"' :: rest => basicRest [] rest
  | '\'' :: rest => literalRest rest
  | _ =>
    let bare := cs.takeWhile isBare
    if bare.isEmpty then .error .malformed else .ok (.ofList bare, cs.drop bare.length)

/-- Reads the parts of a key, between which there are points. The first argument bounds them. -/
def readKeyParts : Nat -> Reader (List String)
  | 0, _ => .error .malformed
  | fuel + 1, cs => do
    let (part, rest) ← readKeyPart cs
    match skipSpaces rest with
    | '.' :: rest =>
      let (parts, rest) ← readKeyParts fuel (skipSpaces rest)
      return (part :: parts, rest)
    | rest => return ([part], rest)

/-- Reads a key with the blanks after it. -/
def readKey : Reader (List String) := fun cs =>
  readKeyParts (cs.length + 1) cs

/-! ### Numbers -/

/-- The digits at the front, between which single low lines may stand. -/
def digitRun (isIn : Char -> Bool) : List Char -> List Char × List Char
  | '_' :: c :: rest =>
    if isIn c then
      let (digits, left) := digitRun isIn rest
      (c :: digits, left)
    else ([], '_' :: c :: rest)
  | c :: rest =>
    if isIn c then
      let (digits, left) := digitRun isIn rest
      (c :: digits, left)
    else ([], c :: rest)
  | [] => ([], [])

/-- A run of digits that starts with a digit. -/
def digits? (isIn : Char -> Bool) (cs : List Char) : Option (List Char × List Char) :=
  match cs with
  | c :: _ => if isIn c then some (digitRun isIn cs) else none
  | [] => none

private def valueIn (base : Nat) (digits : List Char) : Nat :=
  digits.foldl (fun n c => base * n + (hexValue? c).getD 0) 0

private def sign : List Char -> Bool × List Char
  | '-' :: rest => (true, rest)
  | '+' :: rest => (false, rest)
  | cs => (false, cs)

/-- An integer in another base, after its mark. -/
def basedInteger? : List Char -> Option (Nat × List Char)
  | '0' :: 'x' :: rest =>
    (digits? (fun c => (hexValue? c).isSome) rest).map fun r => (valueIn 16 r.1, r.2)
  | '0' :: 'o' :: rest =>
    (digits? (fun c => '0' ≤ c && c ≤ '7') rest).map fun r => (valueIn 8 r.1, r.2)
  | '0' :: 'b' :: rest =>
    (digits? (fun c => c == '0' || c == '1') rest).map fun r => (valueIn 2 r.1, r.2)
  | _ => none

private def whole? : List Char -> Option (List Char × List Char)
  | '0' :: rest => some (['0'], rest)
  | cs => digits? Text.isAsciiDigit cs

private def fraction : List Char -> List Char × List Char
  | '.' :: rest => (digits? Text.isAsciiDigit rest).getD ([], '.' :: rest)
  | cs => ([], cs)

private def exponent (cs : List Char) : Option Int × List Char :=
  match cs with
  | e :: rest =>
    if e == 'e' || e == 'E' then
      let (negative, left) := sign rest
      match digits? Text.isAsciiDigit left with
      | some (ds, left) =>
        let n : Int := valueIn 10 ds
        (some (if negative then -n else n), left)
      | none => (none, cs)
    else (none, cs)
  | [] => (none, cs)

/-- A number: an integer, or a fraction where a point or an exponent follows the whole part. -/
inductive Number where
  | int (i : Int)
  | float (x : Binary64)
  | tooLong
  deriving DecidableEq, Repr

/-- Reads a decimal number, if one stands at the front. -/
def decimal? (cs : List Char) : Option (Number × List Char) := do
  let (negative, rest) := sign cs
  let (ds, rest) ← whole? rest
  let (places, rest) := fraction rest
  let (power, rest) := exponent rest
  if places.isEmpty && power.isNone then
    let n : Int := valueIn 10 ds
    let number := if Text.numeralLimit < ds.length then Number.tooLong
      else .int (if negative then -n else n)
    return (number, rest)
  else
    let scale := power.getD 0 - places.length
    return (.float (.ofDecimal negative (valueIn 10 (ds ++ places)) scale), rest)

/-- Reads one of the words for numbers that are not finite, if one stands at the front. -/
def special? (cs : List Char) : Option (Binary64 × List Char) :=
  let (negative, rest) := sign cs
  match after? "inf" rest, after? "nan" rest with
  | some left, _ => some (.infinity negative, left)
  | none, some left => some (.nan, left)
  | none, none => none

/-- Reads a number, if one stands at the front. -/
def number? (cs : List Char) : Option (Number × List Char) :=
  ((basedInteger? cs).map fun r => (Number.int r.1, r.2)).or
    ((decimal? cs).or ((special? cs).map fun r => (.float r.1, r.2)))

/-! ### Moments -/

/-- A number of exactly so many digits, if one stands at the front. -/
def fixedDigits? (count : Nat) (cs : List Char) : Option (Nat × List Char) :=
  let ds := (cs.take count).takeWhile Text.isAsciiDigit
  if ds.length = count then some (valueIn 10 ds, cs.drop count) else none

private def expect? (c : Char) : List Char -> Option (List Char)
  | d :: rest => if c = d then some rest else none
  | [] => none

/-- The text after a time of day, if one stands at the front. -/
def afterTime? (cs : List Char) : Option (List Char) := do
  let (hour, rest) ← fixedDigits? 2 cs
  let (minute, rest) ← fixedDigits? 2 (← expect? ':' rest)
  let (second, rest) ← fixedDigits? 2 (← expect? ':' rest)
  if 24 ≤ hour || 60 ≤ minute || 60 ≤ second then none
  else
    match rest with
    | '.' :: c :: left =>
      if Text.isAsciiDigit c then return left.dropWhile Text.isAsciiDigit else return rest
    | _ => return rest

/-- The text after an offset from universal time, or the whole text if there is none. -/
def afterOffset (cs : List Char) : List Char :=
  match cs with
  | c :: rest =>
    if c == 'Z' || c == 'z' then rest
    else if c == '+' || c == '-' then
      (do
        let (hour, left) ← fixedDigits? 2 rest
        let (minute, left) ← fixedDigits? 2 (← expect? ':' left)
        if 24 ≤ hour || 60 ≤ minute then none else some left).getD cs
    else cs
  | [] => cs

/-- The number of days of a month. -/
def daysIn (year month : Nat) : Nat :=
  if month = 2 then
    if year % 4 = 0 && (year % 100 != 0 || year % 400 = 0) then 29 else 28
  else if month = 4 || month = 6 || month = 9 || month = 11 then 30
  else 31

/-- A date with the text after it, if one stands at the front that is written like one. -/
def date? (cs : List Char) : Option ((Nat × Nat × Nat) × List Char) := do
  let (year, rest) ← fixedDigits? 4 cs
  let (month, rest) ← fixedDigits? 2 (← expect? '-' rest)
  let (day, rest) ← fixedDigits? 2 (← expect? '-' rest)
  if month = 0 || 12 < month || day = 0 || 31 < day then none else return ((year, month, day), rest)

private def afterDateTime (rest : List Char) : List Char :=
  match rest with
  | c :: left =>
    if c == 'T' || c == 't' || c == ' ' then ((afterTime? left).map afterOffset).getD rest else rest
  | [] => []

/-- The text after a moment, if one stands at the front: a date, a time of day, or both. -/
def afterMoment? (cs : List Char) : Option (Except ReadError (List Char)) :=
  match date? cs with
  | some ((year, month, day), rest) =>
    if year = 0 || daysIn year month < day then some (.error .malformed)
    else some (.ok (afterDateTime rest))
  | none => (afterTime? cs).map .ok

end ViewDoc.Toml
