import ViewDoc.Text.EntityTable
import ViewDoc.Text.Letter
/-!
Character references of HTML, numeric and named. A name is read as the longest known one that the
text starts with; what names nothing is left as it stands.
-/

set_option autoImplicit false

namespace ViewDoc.Text

private def hexValue? (c : Char) : Option Nat :=
  if isAsciiDigit c then some (c.toNat - 48)
  else if 'a' ≤ c && c ≤ 'f' then some (c.toNat - 87)
  else if 'A' ≤ c && c ≤ 'F' then some (c.toNat - 55)
  else none

private def digitsValue (base : Nat) (cs : List Char) : Nat :=
  cs.foldl (fun n c => base * n + (hexValue? c).getD 0) 0

/-- What the references to the code points 128 to 159 stand for. -/
def legacyReferences : List Nat :=
  [0x20ac, 0x81, 0x201a, 0x192, 0x201e, 0x2026, 0x2020, 0x2021, 0x2c6, 0x2030, 0x160, 0x2039,
   0x152, 0x8d, 0x17d, 0x8f, 0x90, 0x2018, 0x2019, 0x201c, 0x201d, 0x2022, 0x2013, 0x2014, 0x2dc,
   0x2122, 0x161, 0x203a, 0x153, 0x9d, 0x17e, 0x178]

private def isInvalidReference (n : Nat) : Bool :=
  (1 ≤ n && n ≤ 8) || n == 11 || (14 ≤ n && n ≤ 31) || (127 ≤ n && n ≤ 159) ||
    (0xfdd0 ≤ n && n ≤ 0xfdef) || (n % 0x10000) ≥ 0xfffe

/-- The characters that a numeric reference stands for. -/
def referencedBy (n : Nat) : List Char :=
  if n == 0 then ['\ufffd']
  else if n == 13 then ['\r']
  else if 128 ≤ n && n ≤ 159 then
    match legacyReferences[n - 128]? with
    | some m => [Char.ofNat m]
    | none => []
  else if (0xd800 ≤ n && n ≤ 0xdfff) || n > 0x10ffff then ['\ufffd']
  else if isInvalidReference n then []
  else [Char.ofNat n]

private def named? (name : List Char) : Option (List Char) :=
  match name with
  | [] => none
  | c :: _ =>
    ((namedReferences c).find? (·.1.toList == name)).map fun entry => entry.2.map Char.ofNat

/-- The longest known name of at least two characters, out of the first `size` of `name`. -/
private def longestNamed (name : List Char) : Nat -> Option (List Char)
  | 0 => none
  | size + 1 =>
    if size + 1 < 2 then none
    else
      match named? (name.take (size + 1)) with
      | some image => some (image ++ name.drop (size + 1))
      | none => longestNamed name size

private def isNameChar (c : Char) : Bool :=
  !(['\t', '\n', '\x0c', ' ', '<', '&', '#', ';'].contains c)

private def takeSemicolon : List Char -> List Char × List Char
  | ';' :: rest => ([';'], rest)
  | rest => ([], rest)

/-- Reads one reference after its ampersand: what it stands for, and the number of characters
read. Nothing read means that the ampersand stands for itself. -/
def readReference (cs : List Char) : List Char × Nat :=
  match cs with
  | '#' :: x :: rest =>
    if x == 'x' || x == 'X' then
      let digits := rest.takeWhile fun c => (hexValue? c).isSome
      if digits.isEmpty then (['&'], 0)
      else
        (referencedBy (digitsValue 16 digits),
          2 + digits.length + (takeSemicolon (rest.drop digits.length)).1.length)
    else
      let digits := (x :: rest).takeWhile isAsciiDigit
      if digits.isEmpty then (['&'], 0)
      else
        (referencedBy (digitsValue 10 digits),
          1 + digits.length + (takeSemicolon ((x :: rest).drop digits.length)).1.length)
  | _ =>
    let letters := (cs.takeWhile isNameChar).take 32
    if letters.isEmpty then (['&'], 0)
    else
      let name := letters ++ (takeSemicolon (cs.drop letters.length)).1
      ((longestNamed name name.length).getD ('&' :: name), name.length)

private def decodeFrom : Nat -> List Char -> List Char
  | _, [] => []
  | skip + 1, _ :: rest => decodeFrom skip rest
  | 0, c :: rest =>
    if c == '&' then (readReference rest).1 ++ decodeFrom (readReference rest).2 rest
    else c :: decodeFrom 0 rest

/-- The text with every character reference replaced by what it stands for. -/
def decodeEntities (s : String) : String :=
  .ofList (decodeFrom 0 s.toList)

private theorem decodeFrom_of_not_mem {cs : List Char} (none : '&' ∉ cs) :
    decodeFrom 0 cs = cs := by
  induction cs with
  | nil => rfl
  | cons c rest ih =>
    obtain ⟨first, later⟩ := not_or.mp (mt List.mem_cons.mpr none)
    rw [decodeFrom, if_neg (by simpa using Ne.symm first), ih later]

/-- A text without an ampersand holds no reference. -/
theorem decodeEntities_of_not_mem {s : String} (none : '&' ∉ s.toList) : decodeEntities s = s := by
  rw [decodeEntities, decodeFrom_of_not_mem none, String.ofList_toList]

end ViewDoc.Text
