import ViewDoc.Action.BuiltIn
import ViewDoc.Text.Case
import ViewDoc.Text.Split
import ViewDoc.Tsx.Reference
import ViewDoc.Tsx.Statement
/-!
Statements for event bindings. An action is looked for among the props of function type, then among
the built-in actions, and last it may be the increment; every other action is announced.
-/

set_option autoImplicit false

namespace ViewDoc.Tsx

/-- The types that have a name of their own in documents. -/
def primitiveTypes : List (String × String) :=
  [("string", "string"), ("number", "number"), ("boolean", "boolean"), ("any", "any"),
    ("unknown", "unknown"), ("array", "any[]"), ("object", "Record<string, any>")]

/-- Whether a declared type is one of functions. -/
def isFunctionType (type : String) : Bool :=
  Text.contains "=>" type || Text.contains "function" (Text.lower type)

/-- A declared type as it is written in code. A type that is no name is written as declared, and an
unknown name admits anything. -/
def typeText (type : String) : String :=
  if isFunctionType type then
    if Text.contains "=>" type then type else "(...args: any[]) => void"
  else
    match primitiveTypes.lookup (Text.lower type) with
    | some text => text
    | none =>
      if "[]".toList.isSuffixOf type.toList || Text.contains "<" type || Text.contains "|" type then
        type
      else "any"


open Noted (note ofExcept)

namespace Declared

/-- Whether a prop of function type is declared under a name. -/
def isFunctionProp (names : Declared) (name : String) : Bool :=
  match Entries.get? names.props name with
  | some p => isFunctionType p.type
  | none => false

/-- The state variables with their initial values. -/
def initialState (names : Declared) : Entries :=
  names.state.map fun s => (s.1, s.2.initial)

/-- The state variable that an action adds one to. -/
def incremented? (names : Declared) (action : String) : Option String :=
  if action = Increment.action then Increment.target? names.initialState else none

end Declared

namespace Draft

/-- The statements that navigate. A destination that is a text decides the kind of link at once. -/
def navigation (names : Declared) (scope : Scope) (path : String) (params : Entries) :
    Draft (List Statement) := do
  let state ← ofExcept (Navigation.state (Entries.get params "state"))
  let outside := Navigation.externalKind params
  let inside := Navigation.internalKind params
  match Entries.get params "to" with
  | .str written =>
    let url := Text.trim written
    match LinkKind.of? url with
    | some .external => return [.follow outside url state]
    | some .internal => return [.follow inside url state]
    | none =>
      warn "CODEGEN_NAVIGATE_TARGET_INVALID" ("Navigate target '" ++ url ++
        "' is neither an https:// URL nor an absolute path.") path .info
      return []
  | v =>
    match ← value names scope (path ++ ".params.to") v with
    | some e => return if e.isUndefined then [] else [.followEither e outside inside state]
    | none => return []

/-- The statements that run an action which is neither a prop nor navigation. -/
def dispatch (names : Declared) (scope : Scope) (path nodeId action : String) (params : Entries) :
    Draft (List Statement) := do
  let passed := (← value names scope (path ++ ".params") (.object params)).getD (.object [])
  if BuiltIn.ofName? action = some .executeGraph then return [.runGraph passed]
  else
    match names.incremented? action with
    | some variableName => return [.increment (setter (identifier variableName))]
    | none => return [.announce action nodeId passed]

/-- The statements that answer an event of a node. -/
def statements (names : Declared) (scope : Scope) (n : CanonicalFields) (key : String)
    (e : EventBinding) : Draft (List Statement) :=
  match e.action.filter (· ≠ "") with
  | none => return []
  | some action =>
    let path := n.path ++ ".events." ++ key
    if names.isFunctionProp action then return [.call (identifier action)]
    else if BuiltIn.ofName? action = some .navigate then navigation names scope path e.params
    else dispatch names scope path n.id action e.params

end Draft

end ViewDoc.Tsx
