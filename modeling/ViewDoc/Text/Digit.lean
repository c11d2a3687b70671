import ViewDoc.Text.Ranges
/-!
Digits (Unicode 14) and the numerals made of them. A character may count as a digit without having a
decimal value (a superscript two), so a run of digits need not be a numeral.
-/

set_option autoImplicit false

namespace ViewDoc.Text

/-- Sorted ranges of the code points that count as digits, with or without a decimal value. -/
def digitRanges : List (Nat × Nat) :=
  [(48, 57), (178, 179), (185, 185), (1632, 1641), (1776, 1785), (1984, 1993), (2406, 2415),
   (2534, 2543), (2662, 2671), (2790, 2799), (2918, 2927), (3046, 3055), (3174, 3183),
   (3302, 3311), (3430, 3439), (3558, 3567), (3664, 3673), (3792, 3801), (3872, 3881),
   (4160, 4169), (4240, 4249), (4969, 4977), (6112, 6121), (6160, 6169), (6470, 6479),
   (6608, 6618), (6784, 6793), (6800, 6809), (6992, 7001), (7088, 7097), (7232, 7241),
   (7248, 7257), (8304, 8304), (8308, 8313), (8320, 8329), (9312, 9320), (9332, 9340),
   (9352, 9360), (9450, 9450), (9461, 9469), (9471, 9471), (10102, 10110), (10112, 10120),
   (10122, 10130), (42528, 42537), (43216, 43225), (43264, 43273), (43472, 43481),
   (43504, 43513), (43600, 43609), (44016, 44025), (65296, 65305), (66720, 66729),
   (68160, 68163), (68912, 68921), (69216, 69224), (69714, 69722), (69734, 69743),
   (69872, 69881), (69942, 69951), (70096, 70105), (70384, 70393), (70736, 70745),
   (70864, 70873), (71248, 71257), (71360, 71369), (71472, 71481), (71904, 71913),
   (72016, 72025), (72784, 72793), (73040, 73049), (73120, 73129), (92768, 92777),
   (92864, 92873), (93008, 93017), (120782, 120831), (123200, 123209), (123632, 123641),
   (125264, 125273), (127232, 127242), (130032, 130041)]

/-- The zeros of the runs of ten decimal digits. -/
def decimalZeros : List Nat :=
  [48, 1632, 1776, 1984, 2406, 2534, 2662, 2790, 2918, 3046, 3174, 3302, 3430, 3558, 3664, 3792,
   3872, 4160, 4240, 6112, 6160, 6470, 6608, 6784, 6800, 6992, 7088, 7232, 7248, 42528, 43216,
   43264, 43472, 43504, 43600, 44016, 65296, 66720, 68912, 69734, 69872, 69942, 70096, 70384,
   70736, 70864, 71248, 71360, 71472, 71904, 72016, 72784, 73040, 73120, 92768, 92864, 93008,
   120782, 120792, 120802, 120812, 120822, 123200, 123632, 125264, 130032]


/-- A character that counts as a digit. -/
def isDigit (c : Char) : Bool :=
  inRanges digitRanges c.toNat

private def decimalFrom : List Nat -> Nat -> Option Nat
  | [], _ => none
  | first :: rest, n =>
    if n < first then none else if n < first + 10 then some (n - first) else decimalFrom rest n

/-- The decimal value of a digit, where it has one. -/
def decimalValue? (c : Char) : Option Nat :=
  decimalFrom decimalZeros c.toNat

/-- A digit with a decimal value. -/
def isDecimal (c : Char) : Bool :=
  (decimalValue? c).isSome

/-- A nonempty text of digits. -/
def isDigits (s : String) : Bool :=
  !s.toList.isEmpty && s.toList.all isDigit

/-- A numeral of more digits than this is refused. -/
def numeralLimit : Nat := 4300

private def numeralFrom : Nat -> List Char -> Option Nat
  | n, [] => some n
  | n, c :: rest =>
    match decimalValue? c with
    | some d => numeralFrom (10 * n + d) rest
    | none => none

/-- The number that a nonempty list of decimal digits writes, unless it is too long. -/
def numeral? (cs : List Char) : Option Nat :=
  if cs.isEmpty || numeralLimit < cs.length then none else numeralFrom 0 cs

theorem isSome_numeralFrom (n : Nat) (cs : List Char) :
    (numeralFrom n cs).isSome = cs.all isDecimal := by
  induction cs generalizing n with
  | nil => rfl
  | cons c rest ih =>
    rw [numeralFrom, List.all_cons, isDecimal]
    cases decimalValue? c with
    | none => rfl
    | some d => simp [ih]

/-- A text is read as a number if it consists of decimal digits and is not too long. -/
theorem isSome_numeral?_iff (cs : List Char) :
    (numeral? cs).isSome = true ↔ cs ≠ [] ∧ cs.length ≤ numeralLimit ∧ cs.all isDecimal = true := by
  rw [numeral?]
  split
  · rename_i refused
    simp only [Bool.or_eq_true, List.isEmpty_iff, decide_eq_true_eq] at refused
    simp only [Option.isSome_none, Bool.false_eq_true, false_iff]
    rintro ⟨nonempty, short, -⟩
    exact refused.elim nonempty (Nat.not_lt.mpr short)
  · rename_i taken
    simp only [Bool.or_eq_true, List.isEmpty_iff, decide_eq_true_eq, not_or, Nat.not_lt] at taken
    rw [isSome_numeralFrom]
    exact ⟨fun decimal => ⟨taken.1, taken.2, decimal⟩, fun parts => parts.2.2⟩

theorem isSome_numeral?_of_isDigits {s : String} (digits : isDigits s = true) :
    (numeral? s.toList).isSome = true ↔
      s.toList.length ≤ numeralLimit ∧ s.toList.all isDecimal = true := by
  have nonempty : s.toList ≠ [] := by
    rintro blank
    simp [isDigits, blank] at digits
  rw [isSome_numeral?_iff]
  exact and_iff_right nonempty

theorem decimalValue?_of_isDigit {c : Char} (digit : c.isDigit = true) :
    decimalValue? c = some (c.toNat - '0'.toNat) := by
  have bounds : 48 ≤ c.toNat ∧ c.toNat ≤ 57 := by
    simpa [Char.isDigit, UInt32.le_iff_toNat_le] using digit
  rw [decimalValue?, decimalZeros, decimalFrom, if_neg (by omega), if_pos (by omega)]
  rfl

theorem isDecimal_of_isDigit {c : Char} (digit : c.isDigit = true) : isDecimal c = true := by
  rw [isDecimal, decimalValue?_of_isDigit digit]
  rfl

theorem numeralFrom_eq_some {cs : List Char} (digits : ∀ c ∈ cs, c.isDigit = true) (n : Nat) :
    numeralFrom n cs = some (Nat.ofDigitChars 10 cs n) := by
  induction cs generalizing n with
  | nil => rfl
  | cons c rest ih =>
    rw [numeralFrom, decimalValue?_of_isDigit (digits c List.mem_cons_self)]
    exact ih (fun d mem => digits d (List.mem_cons_of_mem _ mem)) _

/-- The digits of a number write it, unless there are too many of them. -/
theorem numeral?_toDigits {n : Nat} (short : (Nat.toDigits 10 n).length ≤ numeralLimit) :
    numeral? (Nat.toDigits 10 n) = some n := by
  have taken : ((Nat.toDigits 10 n).isEmpty || decide (numeralLimit < (Nat.toDigits 10 n).length))
      = false := by
    simp [Nat.not_lt.mpr short]
  rw [numeral?, taken, if_neg Bool.false_ne_true,
    numeralFrom_eq_some fun c => Nat.isDigit_of_mem_toDigits (by decide) (by decide),
    Nat.ofDigitChars_ten_toDigits]

/-- The decimal digits of a number. -/
def ofNat (n : Nat) : String :=
  .ofList (Nat.toDigits 10 n)

/-- The decimal digits of an integer, with a minus sign where it is negative. -/
def ofInt : Int -> String
  | .ofNat n => ofNat n
  | .negSucc n => "-" ++ ofNat (n + 1)

end ViewDoc.Text
