import ViewDoc.Text.Digit
import ViewDoc.Text.Letter
/-!
Names in generated code: identifiers made from arbitrary texts, the names of state setters, and
names that avoid those already taken.
-/

set_option autoImplicit false

namespace ViewDoc.Tsx

/-- A character that an identifier may start with. -/
def isNameStart (c : Char) : Bool :=
  Text.isAsciiLetter c || c == '_' || c == '$'

/-- A character of a generated identifier. -/
def isNameChar (c : Char) : Bool :=
  isNameStart c || Text.isAsciiDigit c

/-- An identifier made from a text: every other character becomes a low line, and so does the place
before a leading digit. -/
def identifier (s : String) : String :=
  match s.toList.map fun c => if isNameChar c then c else '_' with
  | [] => "_"
  | c :: rest => .ofList (if isNameStart c then c :: rest else '_' :: c :: rest)

/-- The name of the function that sets a state variable. -/
def setter (name : String) : String :=
  "set" ++
    match name.toList with
    | [] => ""
    | c :: rest => .ofList (c.toUpper :: rest)

/-- The name with a number after it; there is no zero. -/
def numbered (base : String) (n : Nat) : String :=
  if n = 0 then base else base ++ Text.ofNat n

/-- The first of `base`, `base1`, `base2` and so on that is not taken. -/
def freshName (taken : List String) (base : String) : String :=
  (((List.range (taken.length + 1)).map (numbered base)).find?
    fun name => !taken.contains name).getD base

/-- The text without one line break at its end. -/
private def withoutLastBreak (cs : List Char) : List Char :=
  if cs.getLast? == some '\n' then cs.dropLast else cs

/-- Whether a text starts like an identifier and goes on with word characters and those that `more`
admits. One line break may follow. -/
def isNameWith (more : Char -> Bool) (s : String) : Bool :=
  match withoutLastBreak s.toList with
  | [] => false
  | c :: rest => isNameStart c && rest.all fun d => Text.isWordChar d || d == '$' || more d

/-- Whether a text is an identifier, or names a member after a point. -/
def isMemberName (s : String) : Bool :=
  isNameWith (fun _ => false) s

/-- Whether a text names an attribute. -/
def isAttributeName (s : String) : Bool :=
  isNameWith (fun c => c == ':' || c == '.' || c == '-') s

end ViewDoc.Tsx
