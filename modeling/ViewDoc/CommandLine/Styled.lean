import ViewDoc.CommandLine.Literal
import ViewDoc.CommandLine.StyleName
import ViewDoc.Text.Emoji
/-!
Styled texts: tags in square brackets open and close styles and are not shown. A bracket starts a tag
only before a small letter, a number sign, a slash or an at sign; a backslash takes its meaning
away. Between the tags emoji stand for their short names.
-/

set_option autoImplicit false

namespace ViewDoc.CommandLine

/-- What a tag opens: a style by its name, perhaps with what follows an equals sign. -/
structure Tag where
  name : String
  argument : Option (List Char) := none
  deriving DecidableEq, Repr

/-- A part of a styled text. -/
inductive StyledPart where
  | plain (cs : List Char)
  | opening (t : Tag)
  | closing (name : String)
  deriving DecidableEq, Repr

namespace StyledPart

/-- A character that a tag may start with. -/
def startsTag (c : Char) : Bool :=
  ('a' ≤ c && c ≤ 'z') || c == '#' || c == '/' || c == '@'

/-- The inside of a tag and the text after it, if the text after a bracket is a tag. -/
def tag? : List Char -> Option (List Char × List Char)
  | [] => none
  | c :: cs =>
    if startsTag c then
      let rest := cs.takeWhile fun d => d != ']' && d != '['
      match cs.drop rest.length with
      | ']' :: after => some (c :: rest, after)
      | _ => none
    else none

/-- The part that a tag stands for. -/
def ofTag (inside : List Char) : StyledPart :=
  let name := inside.takeWhile (· != '=')
  match name with
  | '/' :: style => .closing (Text.trim (.ofList style))
  | _ =>
    .opening ⟨.ofList name,
      if name.length < inside.length then some (inside.drop (name.length + 1)) else none⟩

private def run (seen : List Char) : List StyledPart :=
  if seen.isEmpty then [] else [.plain seen.reverse]

/-- The parts of a text, after characters that are kept in reverse. The first argument bounds their
number. -/
def ofText : Nat -> List Char -> List Char -> List StyledPart
  | 0, seen, _ => run seen
  | _, seen, [] => run seen
  | fuel + 1, seen, c :: cs =>
    let slashes := (c :: cs).takeWhile (· == '\\')
    match (c :: cs).drop slashes.length with
    | '[' :: inner =>
      match tag? inner with
      | some (inside, after) =>
        run seen ++ run (List.replicate (slashes.length / 2) '\\') ++
          [if slashes.length % 2 = 1 then .plain ('[' :: inside ++ [']']) else ofTag inside] ++
          ofText fuel [] after
      | none => ofText fuel ('[' :: slashes ++ seen) inner
    | _ => ofText fuel (c :: seen) cs

/-- The text without the backslashes before opening brackets. -/
def unescaped : List Char -> List Char
  | [] => []
  | '\\' :: '[' :: rest => '[' :: unescaped rest
  | c :: rest => c :: unescaped rest

end StyledPart

namespace Tag

/-- Whether the argument of an action makes sense: a name, perhaps with literals in brackets, or
literals alone. -/
def isCallable (argument : List Char) : Bool :=
  let cs := Text.trimWhere Text.isBlank argument
  let name := cs.takeWhile fun c => Text.isWordChar c || c == '.'
  let rest := cs.drop name.length
  let group := 2 ≤ rest.length && rest.head? == some '(' && rest.getLast? == some ')' &&
    !rest.contains '\n'
  rest.isEmpty || Literal.isLiteral (if group then rest else cs)

/-- Whether a tag may be closed: an action must make sense by then. -/
def isClosable (t : Tag) : Bool :=
  match t.argument with
  | some argument =>
    !(t.name.toList.head? == some '@') || argument.isEmpty || isCallable argument
  | none => true

/-- Takes the latest tag of a name out of those that are open, or the latest of all for no name. -/
def take? (name : Option String) : List Tag -> Option (Tag × List Tag)
  | [] => none
  | t :: rest =>
    if name.all fun n => t.name = n then some (t, rest)
    else (take? name rest).map fun r => (r.1, t :: r.2)

end Tag

/-- What is shown of the parts, given the open tags. -/
def shownParts : List Tag -> List StyledPart -> Except Fault (List Char)
  | _, [] => .ok []
  | tags, .plain cs :: rest => do
    return Text.withEmoji (StyledPart.unescaped cs) ++ (← shownParts tags rest)
  | tags, .opening t :: rest => do
    shownParts ({ t with name := ← styleName t.name } :: tags) rest
  | tags, .closing name :: rest => do
    let name ← if name = "" then pure none else some <$> styleName name
    match Tag.take? name tags with
    | some (t, left) => if t.isClosable then shownParts left rest else throw .looseTag
    | none => throw .looseTag

/-- A control character that is dropped from what is shown. -/
def isDropped (c : Char) : Bool :=
  c.toNat = 7 || c.toNat = 8 || (11 ≤ c.toNat && c.toNat ≤ 13)

/-- What is shown of a styled text. -/
def shownText (s : String) : Except Fault String :=
  (shownParts [] (StyledPart.ofText (s.length + 1) [] s.toList)).map fun cs =>
    .ofList (cs.filter fun c => !isDropped c)

end ViewDoc.CommandLine
