import ViewDoc.Text.Ranges
/-!
Blank characters, and texts without the blanks around them.
-/

set_option autoImplicit false

namespace ViewDoc.Text

/-- Sorted ranges of the blank code points: controls, separators and spaces. -/
def blankRanges : List (Nat × Nat) :=
  [(9, 13), (28, 32), (133, 133), (160, 160), (5760, 5760), (8192, 8202), (8232, 8233),
   (8239, 8239), (8287, 8287), (12288, 12288)]

/-- A character that trimming removes. -/
def isBlank (c : Char) : Bool :=
  inRanges blankRanges c.toNat

/-- The list without the leading and trailing characters that satisfy `p`. -/
def trimWhere (p : Char -> Bool) (cs : List Char) : List Char :=
  ((cs.dropWhile p).reverse.dropWhile p).reverse

/-- The text without the blanks around it. -/
def trim (s : String) : String :=
  .ofList (trimWhere isBlank s.toList)

/-- A text of blanks only, or of nothing. -/
def isBlankText (s : String) : Bool :=
  s.toList.all isBlank

/-- The trimmed text, unless nothing is left. -/
def trimmed? (s : String) : Option String :=
  if isBlankText s then none else some (trim s)

end ViewDoc.Text
