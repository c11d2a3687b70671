import ViewDoc.Tsx.Statement
/-!
Markup of generated components: elements with attributes, text, and loops over lists, laid out in
lines.
-/

set_option autoImplicit false

namespace ViewDoc.Tsx

/-- The value of an attribute. -/
inductive AttributeValue where
  | quoted (s : String)
  | braced (e : Expr)
  | handler (statements : List Statement)
  deriving Repr, Inhabited

/-- An attribute of an element. -/
structure Attribute where
  name : String
  value : AttributeValue
  deriving Repr, Inhabited

/-- A loop: what it goes over, its two variables, and the member of an item that is its key. -/
structure Loop where
  source : Expr
  item : String
  index : String
  key : Option (List Path.Step) := none
  deriving Repr, Inhabited

/-- Markup. -/
inductive Markup where
  | text (s : String)
  | value (e : Expr)
  | element (tag : String) (attributes : List Attribute) (children : List Markup)
  /-- One copy of the template for every item. -/
  | each (loop : Loop) (template : List Markup)
  /-- The same, with markup that stands in for an empty list. -/
  | eachOr (loop : Loop) (empty : Markup) (template : List Markup)
  deriving Repr, Inhabited

namespace Attribute

/-- The text of an attribute. -/
def text (a : Attribute) : String :=
  a.name ++ "=" ++
    match a.value with
    | .quoted s => "\"" ++ s ++ "\""
    | .braced e => Tsx.braced e.text
    | .handler statements =>
      Tsx.braced ("(event) => " ++
        Tsx.braced (" " ++ " ".intercalate (statements.map Statement.text) ++ " "))

end Attribute

namespace Loop

/-- The list of a loop as an array. -/
def arrayText (l : Loop) : String :=
  "asArray(" ++ l.source.text ++ ")"

/-- The call that opens a loop. -/
def mapText (l : Loop) : String :=
  l.arrayText ++ ".map((" ++ l.item ++ ", " ++ l.index ++ ") => ("

/-- The key of a copy. -/
def keyText (l : Loop) : String :=
  match l.key with
  | none => l.index
  | some steps => (Expr.members (.name l.item) steps).text ++ " ?? " ++ l.index

end Loop

/-- A line at a level of indentation. -/
def lineAt (level : Nat) (s : String) : String :=
  .ofList (List.replicate (2 * level) ' ') ++ s

/-- A tag with its attributes. -/
def openingText (tag : String) (attributes : List Attribute) : String :=
  " ".intercalate (tag :: attributes.map Attribute.text)

/-- The lines around the copies of a template. -/
private def copies (level : Nat) (l : Loop) (inner : List String) : List String :=
  lineAt (level + 2) ("<React.Fragment key=" ++ braced l.keyText ++ ">") :: inner ++
    [lineAt (level + 2) "</React.Fragment>", lineAt level "))\x7d"]

namespace Markup

mutual

/-- The lines of markup at a level of indentation. -/
def lines (level : Nat) : Markup -> List String
  | .text s => [lineAt level s]
  | .value e => [lineAt level (braced e.text)]
  | .element tag attributes children =>
    let opening := "<" ++ openingText tag attributes
    match linesOfAll (level + 1) children with
    | [] => [lineAt level (opening ++ " />")]
    | inner =>
      lineAt level (opening ++ ">") :: inner ++ [lineAt level ("</" ++ tag ++ ">")]
  | .each loop template =>
    lineAt level ("\x7b" ++ loop.mapText) :: copies level loop (linesOfAll (level + 3) template)
  | .eachOr loop empty template =>
    lineAt level ("\x7b" ++ loop.arrayText ++ ".length === 0 ? (") :: lines (level + 1) empty ++
      lineAt level (") : " ++ loop.mapText) :: copies level loop (linesOfAll (level + 3) template)

/-- The lines of markup, one piece after the other. -/
def linesOfAll (level : Nat) : List Markup -> List String
  | [] => []
  | m :: rest => lines level m ++ linesOfAll level rest

end

mutual

/-- Whether there is a loop in the markup. -/
def hasLoop : Markup -> Bool
  | .element _ _ children => anyLoop children
  | .each .. | .eachOr .. => true
  | _ => false

/-- Whether there is a loop in one of the pieces. -/
def anyLoop : List Markup -> Bool
  | [] => false
  | m :: rest => hasLoop m || anyLoop rest

end

end Markup

end ViewDoc.Tsx
