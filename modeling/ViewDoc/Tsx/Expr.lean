import ViewDoc.Json.Writer
import ViewDoc.Ref.Path
import ViewDoc.Tsx.Name
/-!
Expressions of generated code, and their text. Members are read through `?.`, so that reading what
is missing gives `undefined`.
-/

set_option autoImplicit false

namespace ViewDoc.Tsx

/-- What is read from a base: a named member or a position. -/
inductive Member where
  | name (key : String)
  | position (i : Int)
  deriving DecidableEq, Repr

namespace Member

/-- The member that a step of a path reads. -/
def ofStep : Path.Step -> Member
  | .key k => .name k
  | .index n => .position n

/-- The text by which a member is read. -/
def text : Member -> String
  | .position i => "?.[" ++ Text.ofInt i ++ "]"
  | .name key =>
    if isMemberName key then "?." ++ key else "?.[" ++ Json.writeText true key ++ "]"

end Member

/-- A base with the members read from it, one after the other. -/
def memberText (base : String) (members : List Member) : String :=
  members.foldl (fun acc m => acc ++ m.text) base

/-- Whether the text of an expression needs parentheses before a member is read from it. -/
def needsParens (text : String) : Bool :=
  !(isMemberName text || text.toList.head? == some '(')

/-- The text of an expression as the base of a member. -/
def baseText (text : String) : String :=
  if needsParens text then "(" ++ text ++ ")" else text

/-- A text in braces. -/
def braced (s : String) : String :=
  "\x7b" ++ s ++ "\x7d"

/-- An expression. -/
inductive Expr where
  | undefined
  | name (identifier : String)
  | literal (v : Value)
  /-- Members read from an expression. -/
  | members (base : Expr) (steps : List Path.Step)
  /-- The first expression, unless it is missing, and then the second. -/
  | orElse (first second : Expr)
  | array (items : List Expr)
  | object (entries : List (String × Expr))
  /-- The entries of an expression with more entries after them. -/
  | extended (base : Expr) (entries : List (String × Expr))
  deriving Repr, Inhabited

namespace Expr

/-- The text of members read from a base. -/
private def readText (base : String) (steps : List Path.Step) : String :=
  memberText (baseText base) (steps.map Member.ofStep)

mutual

/-- The text of an expression. -/
def text : Expr -> String
  | .undefined => "undefined"
  | .name identifier => identifier
  | .literal v => Json.write .plainLine v
  | .members base steps => readText (text base) steps
  | .orElse first second => "(" ++ text first ++ " ?? " ++ text second ++ ")"
  | .array items => "[" ++ ", ".intercalate (itemTexts items) ++ "]"
  | .object entries =>
    if entries.isEmpty then braced "" else braced (" " ++ ", ".intercalate (entryTexts entries) ++ " ")
  | .extended base entries =>
    braced (" ...(" ++ text base ++ " ?? " ++ braced "" ++ "), " ++
      ", ".intercalate (entryTexts entries) ++ " ")

/-- The texts of items. -/
def itemTexts : List Expr -> List String
  | [] => []
  | e :: rest => text e :: itemTexts rest

/-- The texts of entries. -/
def entryTexts : List (String × Expr) -> List String
  | [] => []
  | (key, e) :: rest => (Json.writeText true key ++ ": " ++ text e) :: entryTexts rest

end

/-- Whether an expression reads as `undefined`. -/
def isUndefined (e : Expr) : Bool :=
  e.text == "undefined"

end Expr

end ViewDoc.Tsx
