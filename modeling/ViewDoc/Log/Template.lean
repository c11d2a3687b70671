import ViewDoc.Decimal.Style
import ViewDoc.Text.Letter
import ViewDoc.Value.Display
import ViewDoc.Value.Entries
/-!
Message templates: texts with marks for values. A mark is a percent sign with flags, a width, a
precision and a letter for the form of the value; it may name an entry of the one object given. An
asterisk takes the width or the precision from the values.
-/

set_option autoImplicit false

namespace ViewDoc.Log

/-- Why a template cannot be filled. -/
inductive TemplateFault where
  /-- Values are missing or left over, or do not have the form that a mark asks for. -/
  | wrongValue
  | malformed
  | missingKey (key : String)
  | outOfRange
  /-- A mark asks for more characters than a text may have. -/
  | tooLong
  deriving DecidableEq, Repr

/-- How a mark wants its value. -/
structure Mark where
  left : Bool := false
  plus : Bool := false
  blank : Bool := false
  alternate : Bool := false
  zero : Bool := false
  width : Nat := 0
  precision : Option Nat := none
  form : Char
  deriving DecidableEq, Repr

namespace Mark

/-- Fills up to the width: zeros go after the sign and the base, blanks around all. -/
private def pad (m : Mark) (zeros : Bool) (start body : List Char) : List Char :=
  let fill := m.width - (start.length + body.length)
  if m.left then start ++ body ++ List.replicate fill ' '
  else if zeros then start ++ List.replicate fill '0' ++ body
  else List.replicate fill ' ' ++ start ++ body

private def sign (m : Mark) (negative : Bool) : List Char :=
  if negative then ['-'] else if m.plus then ['+'] else if m.blank then [' '] else []

private def textForm (m : Mark) (s : String) : List Char :=
  pad m false [] (match m.precision with
    | some n => s.toList.take n
    | none => s.toList)

private def asciiOf (c : Char) : List Char :=
  if c.toNat < 128 then [c]
  else if c.toNat < 256 then ['\\', 'x'] ++ Text.hexDigits 2 c.toNat
  else if c.toNat < 65536 then ['\\', 'u'] ++ Text.hexDigits 4 c.toNat
  else ['\\', 'U'] ++ Text.hexDigits 8 c.toNat

private def truncated : Binary64 -> Except TemplateFault Int
  | .nan => .error .malformed
  | .infinity _ => .error .outOfRange
  | .finite negative m e =>
    let n : Nat := m * twoTo e.toNat / twoTo (-e).toNat
    .ok (if negative then -n else n)

/-- The whole number that a value gives; only some forms admit fractions. -/
private def wholeOf (fractions : Bool) : Value -> Except TemplateFault Int
  | .int i => .ok i
  | .bool b => .ok (if b then 1 else 0)
  | .float x => if fractions then truncated x else .error .wrongValue
  | _ => .error .wrongValue

private def wholeForm (m : Mark) (base : Nat) (start : List Char) (i : Int) : List Char :=
  let digits := Nat.toDigits base i.natAbs
  let digits := List.replicate (m.precision.getD 0 - digits.length) '0' ++ digits
  pad m m.zero (sign m (i < 0) ++ (if m.alternate then start else [])) digits

private def numberOf : Value -> Except TemplateFault Binary64
  | .int i =>
    let x := Binary64.ofInt i
    if x.isFinite then .ok x else .error .outOfRange
  | .bool b => .ok (.ofInt (if b then 1 else 0))
  | .float x => .ok x
  | _ => .error .wrongValue

private def numberForm (m : Mark) (write : Bool -> Nat -> Nat -> Nat -> List Char) :
    Binary64 -> List Char
  | .nan => pad m m.zero (sign m false) ['n', 'a', 'n']
  | .infinity negative => pad m m.zero (sign m negative) ['i', 'n', 'f']
  | .finite negative s e =>
    pad m m.zero (sign m negative)
      (write m.alternate (m.precision.getD 6) (s * twoTo e.toNat) (twoTo (-e).toNat))

private def charOf : Value -> Except TemplateFault Char
  | .str s =>
    match s.toList with
    | [c] => .ok c
    | _ => .error .wrongValue
  | .int i => if i < 0 || 0x10ffff < i then .error .outOfRange else .ok (Char.ofNat i.toNat)
  | .bool b => .ok (if b then '\x01' else '\x00')
  | _ => .error .wrongValue

private def capitals (cs : List Char) : List Char :=
  cs.map Char.toUpper

/-- The text of a value under a mark. -/
def fill (m : Mark) (v : Value) : Except TemplateFault (List Char) :=
  match m.form with
  | 's' => .ok (textForm m v.display)
  | 'r' => .ok (textForm m v.quotedForm)
  | 'a' => .ok (textForm m (.ofList (v.quotedForm.toList.flatMap asciiOf)))
  | 'c' => (charOf v).map fun c => pad m false [] [c]
  | 'd' | 'i' | 'u' => (wholeOf true v).map (wholeForm m 10 [])
  | 'o' => (wholeOf false v).map (wholeForm m 8 ['0', 'o'])
  | 'x' => (wholeOf false v).map (wholeForm m 16 ['0', 'x'])
  | 'X' => (wholeOf false v).map fun i => capitals (wholeForm m 16 ['0', 'x'] i)
  | 'f' => (numberOf v).map (numberForm m Decimal.fixed)
  | 'F' => (numberOf v).map fun x => capitals (numberForm m Decimal.fixed x)
  | 'e' => (numberOf v).map (numberForm m Decimal.scientific)
  | 'E' => (numberOf v).map fun x => capitals (numberForm m Decimal.scientific x)
  | 'g' => (numberOf v).map (numberForm m Decimal.general)
  | 'G' => (numberOf v).map fun x => capitals (numberForm m Decimal.general x)
  | _ => .error .malformed

end Mark

/-- The values that marks are filled with: a list that is used up in order, or one object, which
marks without a key take as a whole once. -/
structure Supply where
  object : Option Entries := none
  waiting : List Value

namespace Supply

/-- The supply for given values. A single object that is not empty gives its entries. -/
def ofValues : List Value -> Supply
  | [.object (e :: es)] => ⟨some (e :: es), [.object (e :: es)]⟩
  | vs => ⟨none, vs⟩

/-- The next value, and what is left. -/
def take (s : Supply) : Except TemplateFault (Value × Supply) :=
  match s.waiting with
  | v :: rest => .ok (v, { s with waiting := rest })
  | [] => .error .wrongValue

/-- The supply of the one entry under a key. -/
def entry (s : Supply) (key : String) : Except TemplateFault Supply :=
  match s.object.map fun es => Entries.get? es key with
  | some (some v) => .ok { s with waiting := [v] }
  | some none => .error (.missingKey key)
  | none => .error .wrongValue

/-- Whether nothing is left over. -/
def isSpent (s : Supply) : Bool :=
  s.object.isSome || s.waiting.isEmpty

end Supply

/-- What is left after a part of a mark was read: values, and characters of the template. -/
abbrev Remaining := Supply × List Char

/-- The greatest width. -/
def widthLimit : Nat := 9223372036854775807

/-- The greatest precision. -/
def precisionLimit : Nat := 2147483647

namespace Mark

/-- The key in brackets, which may hold further brackets, and the text after it. -/
private def takeKey (depth : Nat) (seen : List Char) : List Char -> Option (String × List Char)
  | [] => none
  | '(' :: rest => takeKey (depth + 1) ('(' :: seen) rest
  | ')' :: rest =>
    if depth = 0 then some (.ofList seen.reverse, rest) else takeKey (depth - 1) (')' :: seen) rest
  | c :: rest => takeKey depth (c :: seen) rest

/-- Looks up the key of a mark, if it has one. -/
private def readKey (s : Supply) : List Char -> Except TemplateFault Remaining
  | '(' :: rest =>
    if s.object.isNone then .error .wrongValue
    else
      match takeKey 0 [] rest with
      | none => .error .malformed
      | some (key, rest) => return (← s.entry key, rest)
  | cs => .ok (s, cs)

/-- A number that was taken from the values. -/
private def given (limit : Nat) (v : Value) : Except TemplateFault Int := do
  let i ← wholeOf false v
  if i < -(limit : Int) - 1 || (limit : Int) < i then .error .outOfRange else .ok i

/-- Reads a number, which an asterisk takes from the values. -/
private def readNumber (limit : Nat) (s : Supply) :
    List Char -> Except TemplateFault (Option Int × Remaining)
  | '*' :: rest => do
    let (v, s) ← s.take
    return (some (← given limit v), s, rest)
  | cs =>
    let digits := cs.takeWhile Text.isAsciiDigit
    let n := digits.foldl (fun n c => 10 * n + (c.toNat - 48)) 0
    if limit < n then .error .malformed
    else .ok (if digits.isEmpty then none else some n, s, cs.drop digits.length)

/-- Reads a precision after its point, if there is one. -/
private def readPrecision (s : Supply) :
    List Char -> Except TemplateFault (Option Int × Remaining)
  | '.' :: rest => do
    let (n, left) ← readNumber precisionLimit s rest
    return (some (n.getD 0), left)
  | cs => .ok (none, s, cs)

private def dropLength : List Char -> List Char
  | c :: rest => if ['h', 'l', 'L'].contains c then rest else c :: rest
  | [] => []

private def withFlags (m : Mark) (flags : List Char) : Mark :=
  { m with left := m.left || flags.contains '-', plus := flags.contains '+',
           blank := flags.contains ' ', alternate := flags.contains '#',
           zero := flags.contains '0' }

/-- Reads a mark after its percent sign. A negative width fills up after the value, but one that is
beyond the limit when its sign is changed counts as none. -/
def read (s : Supply) (cs : List Char) : Except TemplateFault (Mark × Remaining) := do
  let (s, rest) ← readKey s cs
  let flags := rest.takeWhile ['-', '+', ' ', '#', '0'].contains
  let (width, s, rest) ← readNumber widthLimit s (rest.drop flags.length)
  let (precision, s, rest) ← readPrecision s rest
  match dropLength rest with
  | form :: rest =>
    let width := width.getD 0
    let m : Mark := { left := width < 0,
                      width := if width.natAbs ≤ widthLimit then width.natAbs else 0,
                      precision := precision.map Int.toNat, form }
    return (withFlags m flags, s, rest)
  | [] => .error .malformed

end Mark

/-- The greatest number of characters that a value may be filled up to. -/
def lengthLimit : Nat := 2147483647

/-- The text of a value under a mark whose width is within the limit. -/
def Mark.fillWithin (m : Mark) (v : Value) : Except TemplateFault (List Char) :=
  if m.width ≤ lengthLimit then m.fill v
  else match Mark.fill { m with width := 0 } v with
    | .ok _ => .error .tooLong
    | .error fault => .error fault

/-- Fills a template from a supply. The first argument bounds the number of pieces. -/
def fillFrom : Nat -> Supply -> List Char -> Except TemplateFault (List Char)
  | 0, _, _ => .ok []
  | _ + 1, s, [] => if s.isSpent then .ok [] else .error .wrongValue
  | fuel + 1, s, '%' :: '%' :: cs => (fillFrom fuel s cs).map ('%' :: ·)
  | fuel + 1, s, '%' :: cs => do
    let (m, s, rest) ← Mark.read s cs
    let (v, left) ← s.take
    let shown ← m.fillWithin v
    return shown ++ (← fillFrom fuel left rest)
  | fuel + 1, s, c :: cs => (fillFrom fuel s cs).map (c :: ·)

/-- The message of a template with its values. Without values the template stands as it is. -/
def message (template : String) (values : List Value) : Except TemplateFault String :=
  if values.isEmpty then .ok template
  else (fillFrom (template.length + 1) (Supply.ofValues values) template.toList).map String.ofList

end ViewDoc.Log
