/-!
Cutting texts at separators.
-/

set_option autoImplicit false

namespace ViewDoc.Text

/-- The pieces between the characters that satisfy `p`; never empty. -/
def splitWhere (p : Char -> Bool) : List Char -> List (List Char)
  | [] => [[]]
  | c :: rest =>
    if p c then [] :: splitWhere p rest
    else
      match splitWhere p rest with
      | [] => [[c]]
      | piece :: pieces => (c :: piece) :: pieces

/-- The pieces of a text between the occurrences of `sep`. -/
def split (sep : Char) (s : String) : List String :=
  (splitWhere (· == sep) s.toList).map String.ofList

/-- The pieces of a text between the occurrences of `sep`, without the empty ones. -/
def pieces (sep : Char) (s : String) : List String :=
  (split sep s).filter (· ≠ "")

/-- The text before the first `stop`. -/
def before (stop : Char) (s : String) : String :=
  .ofList (s.toList.takeWhile (· ≠ stop))

/-- Whether `part` stands somewhere in the list. -/
def hasPart (part : List Char) : List Char -> Bool
  | [] => part.isEmpty
  | c :: rest => part.isPrefixOf (c :: rest) || hasPart part rest

/-- Whether `part` stands somewhere in the text. -/
def contains (part s : String) : Bool :=
  hasPart part.toList s.toList

theorem splitWhere_ne_nil (p : Char -> Bool) (cs : List Char) : splitWhere p cs ≠ [] := by
  cases cs with
  | nil => simp [splitWhere]
  | cons c rest =>
    simp only [splitWhere]
    split
    · simp
    · split <;> simp

end ViewDoc.Text
