import ViewDoc.Value.Entries
/-!
Tables under construction. A table may be opened once, what stands inline is closed at once, and no
value takes the place of another.
-/

set_option autoImplicit false

namespace ViewDoc.Toml

/-- Changes the table at a key, and makes the tables on the way there. A list stands for its last
item where `intoLists` admits it. There is no result where something on the way is no table. -/
def updateAt? (intoLists : Bool) (change : Entries -> Option Entries) :
    List String -> Entries -> Option Entries
  | [], es => change es
  | part :: key, es =>
    match Entries.get? es part with
    | none => (updateAt? intoLists change key []).map fun inner => Entries.set es part (.object inner)
    | some (.object inner) =>
      (updateAt? intoLists change key inner).map fun inner => Entries.set es part (.object inner)
    | some (.list items) =>
      match items.getLast? with
      | some (.object inner) =>
        if intoLists then
          (updateAt? intoLists change key inner).map fun inner =>
            Entries.set es part (.list (items.dropLast ++ [.object inner]))
        else none
      | _ => none
    | some _ => none

/-- Puts a value under a name that is free. -/
def addValue? (name : String) (v : Value) (es : Entries) : Option Entries :=
  if Entries.has es name then none else some (es ++ [(name, v)])

/-- Adds a table to the list of tables under a name, which may be free. -/
def addElement? (name : String) (es : Entries) : Option Entries :=
  match Entries.get? es name with
  | none => some (es ++ [(name, .list [.object []])])
  | some (.list items) => some (Entries.set es name (.list (items ++ [.object []])))
  | some _ => none

/-- A statement of a settings file: the opening of a table, the opening of an element of a list of
tables, or a value for a key. -/
inductive Statement where
  | table (key : List String)
  | element (key : List String)
  | pair (key : List String) (v : Value)
  deriving Repr

/-- Whether a value is a table or a list. -/
def isContainer : Value -> Bool
  | .object _ | .list _ => true
  | _ => false

/-- A settings file that was read in part: its tables, the key of the open one, the keys that may
not be opened again, those that are closed with all below them, and those that may not be opened
again after the open table ends. -/
structure Building where
  root : Entries := []
  header : List String := []
  opened : List (List String) := []
  closed : List (List String) := []
  pending : List (List String) := []
  deriving Repr

namespace Building

/-- Whether a key or one above it is closed. -/
def isClosed (b : Building) (key : List String) : Bool :=
  b.closed.any fun k => k.isPrefixOf key

/-- Ends the open table. -/
def settle (b : Building) : Building :=
  { b with opened := b.opened ++ b.pending, pending := [] }

/-- Forgets what was said about a key and all below it. -/
def forget (b : Building) (key : List String) : Building :=
  { b with opened := b.opened.filter fun k => !key.isPrefixOf k,
           closed := b.closed.filter fun k => !key.isPrefixOf k }

/-- Opens a table. -/
def openTable? (b : Building) (key : List String) : Option Building :=
  let b := b.settle
  if b.opened.contains key || b.isClosed key then none
  else
    (updateAt? true some key b.root).map fun root =>
      { b with root, header := key, opened := b.opened ++ [key] }

/-- Opens an element of a list of tables. -/
def openElement? (b : Building) (key : List String) : Option Building :=
  let b := b.settle
  if b.isClosed key then none
  else
    (updateAt? true (addElement? (key.getLast?.getD "")) key.dropLast b.root).map fun root =>
      let b := b.forget key
      { b with root, header := key, opened := b.opened ++ [key] }

/-- The keys of the tables between the open one and a value. -/
def between (b : Building) (key : List String) : List (List String) :=
  (List.range (key.length - 1)).map fun i => b.header ++ key.take (i + 1)

/-- Puts a value under a key of the open table. -/
def putValue? (b : Building) (key : List String) (v : Value) : Option Building :=
  let between := b.between key
  let whole := b.header ++ key
  if between.any b.opened.contains || b.isClosed whole.dropLast then none
  else
    (updateAt? true (addValue? (key.getLast?.getD "") v) whole.dropLast b.root).map fun root =>
      { b with root, pending := b.pending ++ between,
               closed := if isContainer v then b.closed ++ [whole] else b.closed }

/-- Carries out a statement. -/
def follow? (b : Building) : Statement -> Option Building
  | .table key => b.openTable? key
  | .element key => b.openElement? key
  | .pair key v => b.putValue? key v

end Building

/-- An inline table under construction, with the keys that are closed. -/
structure Inline where
  entries : Entries := []
  closed : List (List String) := []
  deriving Repr

/-- Puts a value under a key of an inline table. -/
def Inline.put? (t : Inline) (key : List String) (v : Value) : Option Inline :=
  if t.closed.any fun k => k.isPrefixOf key then none
  else
    (updateAt? false (addValue? (key.getLast?.getD "") v) key.dropLast t.entries).map fun entries =>
      { entries, closed := if isContainer v then t.closed ++ [key] else t.closed }

end ViewDoc.Toml
