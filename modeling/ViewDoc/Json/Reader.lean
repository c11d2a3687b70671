import ViewDoc.Text.Digit
import ViewDoc.Text.Letter
import ViewDoc.Value.Entries
/-!
Values from JSON text. Beyond the standard, `NaN` and the infinities are numbers. Of entries with
one key the last value stands, at the position of the first.
-/

set_option autoImplicit false

namespace ViewDoc.Json

/-- Why a text cannot be read: it is not JSON, or it holds an integer of too many digits. -/
inductive ReadError where
  | malformed
  | longNumeral
  deriving DecidableEq, Repr

/-- A reader takes a value from the front of the text and returns the rest. -/
abbrev Reader (α : Type) := List Char -> Except ReadError (α × List Char)

/-- Drops the white space that may stand between tokens. -/
def skip (cs : List Char) : List Char :=
  cs.dropWhile fun c => c == ' ' || c == '\n' || c == '\r' || c == '\t'

/-- The value of a hexadecimal digit. -/
def hexValue? (c : Char) : Option Nat :=
  if Text.isAsciiDigit c then some (c.toNat - 48)
  else if 'a' ≤ c && c ≤ 'f' then some (c.toNat - 87)
  else if 'A' ≤ c && c ≤ 'F' then some (c.toNat - 55)
  else none

/-- The code unit that four hexadecimal digits spell. -/
def hexUnit? (a b c d : Char) : Option Nat := do
  let a ← hexValue? a
  let b ← hexValue? b
  let c ← hexValue? c
  let d ← hexValue? d
  return ((a * 16 + b) * 16 + c) * 16 + d

/-- The code point that an escape of one character stands for. -/
def simpleEscape? (c : Char) : Option Nat :=
  match c with
  | '"' => some 34
  | '\\' => some 92
  | '/' => some 47
  | 'b' => some 8
  | 'f' => some 12
  | 'n' => some 10
  | 'r' => some 13
  | 't' => some 9
  | _ => none

/-- The code points of a string up to its closing quote; an escape may give half of a pair. -/
def stringUnits (seen : List Nat) : Reader (List Nat)
  | [] => .error .malformed
  | '"' :: rest => .ok (seen.reverse, rest)
  | '\\' :: 'u' :: a :: b :: c :: d :: rest =>
    match hexUnit? a b c d with
    | some n => stringUnits (n :: seen) rest
    | none => .error .malformed
  | '\\' :: c :: rest =>
    match simpleEscape? c with
    | some n => stringUnits (n :: seen) rest
    | none => .error .malformed
  | c :: rest => if c.toNat < 32 then .error .malformed else stringUnits (c.toNat :: seen) rest

/-- The first half of a pair. -/
def isHighHalf (n : Nat) : Bool :=
  0xd800 ≤ n && n < 0xdc00

/-- The second half of a pair. -/
def isLowHalf (n : Nat) : Bool :=
  0xdc00 ≤ n && n < 0xe000

/-- Joins the halves of pairs; a half alone becomes the replacement character. The first argument
is a first half that waits for its second. -/
def joinPairs : Option Nat -> List Nat -> List Char
  | none, [] => []
  | some _, [] => ['\ufffd']
  | none, n :: rest =>
    if isHighHalf n then joinPairs (some n) rest
    else if isLowHalf n then '\ufffd' :: joinPairs none rest
    else Char.ofNat n :: joinPairs none rest
  | some high, n :: rest =>
    if isLowHalf n then
      Char.ofNat (0x10000 + (high - 0xd800) * 0x400 + (n - 0xdc00)) :: joinPairs none rest
    else if isHighHalf n then '\ufffd' :: joinPairs (some n) rest
    else '\ufffd' :: Char.ofNat n :: joinPairs none rest

/-- Reads a string after its opening quote. -/
def readString : Reader String := fun cs => do
  let (units, rest) ← stringUnits [] cs
  return (.ofList (joinPairs none units), rest)

private def asciiValue (cs : List Char) : Nat :=
  cs.foldl (fun n c => 10 * n + (c.toNat - 48)) 0

/-- The digits after a point, if at least one follows. -/
private def fraction (cs : List Char) : List Char × List Char :=
  match cs with
  | '.' :: rest =>
    let digits := rest.takeWhile Text.isAsciiDigit
    if digits.isEmpty then ([], cs) else (digits, rest.drop digits.length)
  | _ => ([], cs)

/-- The exponent, if one follows. -/
private def exponent (cs : List Char) : Option Int × List Char :=
  match cs with
  | e :: rest =>
    if e == 'e' || e == 'E' then
      let (negative, rest') := match rest with
        | '-' :: r => (true, r)
        | '+' :: r => (false, r)
        | r => (false, r)
      let digits := rest'.takeWhile Text.isAsciiDigit
      if digits.isEmpty then (none, cs)
      else
        let n : Int := asciiValue digits
        (some (if negative then -n else n), rest'.drop digits.length)
    else (none, cs)
  | [] => (none, cs)

/-- Reads a number after its sign. -/
def readNumber (negative : Bool) : Reader Value := fun cs =>
  let digits := match cs with
    | '0' :: _ => ['0']
    | _ => cs.takeWhile Text.isAsciiDigit
  if digits.isEmpty then .error .malformed
  else
    let (places, rest) := fraction (cs.drop digits.length)
    let (power, rest) := exponent rest
    if places.isEmpty && power.isNone then
      if Text.numeralLimit < digits.length then .error .longNumeral
      else
        let n : Int := asciiValue digits
        .ok (.int (if negative then -n else n), rest)
    else
      let scale := power.getD 0 - places.length
      .ok (.float (.ofDecimal negative (asciiValue (digits ++ places)) scale), rest)

private theorem length_fraction_le (cs : List Char) : (fraction cs).2.length ≤ cs.length := by
  rw [fraction.eq_def]
  split
  · dsimp only
    split
    · exact Nat.le_refl _
    · simp only [List.length_drop, List.length_cons]
      omega
  · exact Nat.le_refl _

private theorem length_exponent_le (cs : List Char) : (exponent cs).2.length ≤ cs.length := by
  rw [exponent.eq_def]
  split
  · split
    · split
      rename_i rest _ _ _ unsigned signed
      have shorter : unsigned.length ≤ rest.length := by
        split at signed
        all_goals
          cases signed
          simp
      dsimp only
      split
      · exact Nat.le_refl _
      · simp only [List.length_drop, List.length_cons]
        omega
    · exact Nat.le_refl _
  · exact Nat.le_refl _

/-- A number is whole or not, and has at least one digit. -/
theorem readNumber_cases {negative : Bool} {cs rest : List Char} {v : Value}
    (read : readNumber negative cs = .ok (v, rest)) :
    ((∃ i, v = .int i) ∨ ∃ x, v = .float x) ∧ rest.length < cs.length := by
  have shorter (digits : List Char) (given : digits.isEmpty ≠ true)
      (within : digits.length ≤ cs.length) :
      (exponent (fraction (cs.drop digits.length)).2).2.length < cs.length := by
    have digit : 0 < digits.length := List.length_pos_iff.mpr (mt List.isEmpty_iff.mpr given)
    have tail := Nat.le_trans (length_exponent_le _) (length_fraction_le (cs.drop digits.length))
    rw [List.length_drop] at tail
    omega
  rw [readNumber.eq_def] at read
  dsimp only at read
  split at read
  all_goals
    split at read
    · cases read
    · rename_i given
      have within := shorter _ given (by simp [(List.takeWhile_prefix _).length_le])
      split at read
      · split at read
        · cases read
        · obtain ⟨rfl, rfl⟩ := Prod.mk.inj (Except.ok.inj read)
          exact ⟨.inl ⟨_, rfl⟩, within⟩
      · obtain ⟨rfl, rfl⟩ := Prod.mk.inj (Except.ok.inj read)
        exact ⟨.inr ⟨_, rfl⟩, within⟩

/-- Reads a word that stands for a value. -/
private def word (w : String) (v : Value) : Reader Value := fun cs =>
  if w.toList.isPrefixOf cs then .ok (v, cs.drop w.toList.length) else .error .malformed

theorem word_cases {w : String} {v u : Value} {cs rest : List Char}
    (read : word w v cs = .ok (u, rest)) : u = v ∧ cs = w.toList ++ rest := by
  rw [word] at read
  split at read
  · rename_i front
    obtain ⟨rfl, rfl⟩ := Prod.mk.inj (Except.ok.inj read)
    obtain ⟨later, rfl⟩ := List.isPrefixOf_iff_prefix.mp front
    exact ⟨rfl, by rw [List.drop_left]⟩
  · cases read

mutual

/-- Reads a value; the first argument bounds the nesting and the number of items. -/
def readValue : Nat -> Reader Value
  | 0, _ => .error .malformed
  | fuel + 1, cs =>
    match cs with
    | '"' :: rest => (readString rest).map fun (s, r) => (.str s, r)
    | '[' :: rest =>
      match skip rest with
      | ']' :: r => .ok (.list [], r)
      | r => (readItems fuel r).map fun (vs, r) => (.list vs, r)
    | '\x7b' :: rest =>
      match skip rest with
      | '\x7d' :: r => .ok (.object [], r)
      | r => (readMembers fuel r).map fun (es, r) => (.object (Entries.ofList es), r)
    | 't' :: _ => word "true" (.bool true) cs
    | 'f' :: _ => word "false" (.bool false) cs
    | 'n' :: _ => word "null" .null cs
    | 'N' :: _ => word "NaN" (.float .nan) cs
    | 'I' :: _ => word "Infinity" (.float (.infinity false)) cs
    | '-' :: 'I' :: _ => word "-Infinity" (.float (.infinity true)) cs
    | '-' :: rest => readNumber true rest
    | _ => readNumber false cs

/-- Reads the items of a list up to its closing bracket. -/
def readItems : Nat -> Reader (List Value)
  | 0, _ => .error .malformed
  | fuel + 1, cs => do
    let (v, rest) ← readValue fuel cs
    match skip rest with
    | ']' :: r => return ([v], r)
    | ',' :: r =>
      let (vs, r) ← readItems fuel (skip r)
      return (v :: vs, r)
    | _ => throw .malformed

/-- Reads the members of an object up to its closing brace. -/
def readMembers : Nat -> Reader (List (String × Value))
  | 0, _ => .error .malformed
  | fuel + 1, cs =>
    match cs with
    | '"' :: rest => do
      let (key, rest) ← readString rest
      match skip rest with
      | ':' :: r =>
        let (v, rest) ← readValue fuel (skip r)
        match skip rest with
        | '\x7d' :: r => return ([(key, v)], r)
        | ',' :: r =>
          let (es, r) ← readMembers fuel (skip r)
          return ((key, v) :: es, r)
        | _ => throw .malformed
      | _ => throw .malformed
    | _ => .error .malformed

end

/-- The value that a whole text holds. Every step of reading consumes a character, so that the
length of the text bounds the steps. -/
def read (s : String) : Except ReadError Value := do
  let cs := s.toList
  let (v, rest) ← readValue (2 * cs.length + 2) (skip cs)
  if (skip rest).isEmpty then return v else throw .malformed

end ViewDoc.Json
