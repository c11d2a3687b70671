import ViewDoc.Canonical.Basic
import ViewDoc.Ref.Params
import ViewDoc.Ref.Resolve
import ViewDoc.Scope.Data
import ViewDoc.Tsx.Draft
import ViewDoc.Tsx.Expr
/-!
Expressions for references and for the values that hold them. A parameter and a state variable are
read under the identifier of their name, the item and the index of a list under the variables of its
loop.
-/

set_option autoImplicit false

namespace ViewDoc.Tsx

open Noted (note ofExcept)

/-- What a component declares, and the names that its loops keep clear of. -/
structure Declared where
  props : List (String × PropDecl) := []
  state : List (String × StateDecl) := []
  reserved : List String := []
  deriving Repr, Inhabited

/-- What the expressions of a node see: its data scope, the variables of the innermost loop, the
names given to loop variables, and the number of loops around it. -/
structure Scope where
  data : Expr := .undefined
  item : Option String := none
  index : Option String := none
  aliases : List (String × String) := []
  depth : Nat := 0
  deriving Repr, Inhabited

namespace Draft

/-- A reference to a loop variable outside every loop is reported and undefined. -/
def outOfScope (tag path : String) : Draft Expr := do
  warn "CODEGEN_REFERENCE_OUT_OF_SCOPE" (tag ++ " used outside a list.") path
  return .undefined

/-- The expression for a parameter; one that is not declared is noted. -/
def param (names : Declared) (path : String) : List Path.Step -> Draft Expr
  | .key name :: rest => do
    if !Entries.has names.props name then note (.undeclared name path)
    return .members (.name (identifier name)) rest
  | _ => return .undefined

/-- The expression for a state variable, which must be declared. -/
def stateVariable (names : Declared) (path written : String) : List Path.Step -> Draft Expr
  | .key name :: rest =>
    if Entries.has names.state name then return .members (.name (identifier name)) rest
    else missing
  | _ => missing
where
  missing : Draft Expr := do
    warn "CODEGEN_UNDECLARED_STATE" ("State '" ++ written ++ "' is not declared.") path
    return .undefined

/-- The expression for steps into the data scope. -/
def inData (scope : Scope) (steps : List Path.Step) : Expr :=
  if scope.data.isUndefined then .undefined
  else if steps.isEmpty then scope.data
  else .members scope.data steps

/-- The expression for the data scope: an alias of a loop variable goes before the entries of the
data. -/
def dataMember (scope : Scope) : List Path.Step -> Expr
  | .key name :: rest =>
    match Entries.get? scope.aliases name with
    | some variableName => .members (.name variableName) rest
    | none => inData scope (.key name :: rest)
  | steps => inData scope steps

/-- The expression for a reference at a document path. -/
def reference (names : Declared) (scope : Scope) (path : String) : Ref -> Draft Expr
  | .index =>
    match scope.index with
    | some variableName => return .name variableName
    | none => outOfScope "$index" path
  | .param p => do param names path (← ofExcept (Path.parse p))
  | .state p => do stateVariable names path p (← ofExcept (Path.parse p))
  | .item p => do
    let steps ← ofExcept (Path.parse p)
    match scope.item with
    | some variableName => return .members (.name variableName) steps
    | none => outOfScope "$item" path
  | .data p => do return dataMember scope (← ofExcept (Path.parse p))

/-- The expression for a value without references, if JSON spells it. -/
def literal (path : String) (v : Value) : Draft (Option Expr) :=
  if Json.spells v then return some (.literal v)
  else do
    warn "CODEGEN_VALUE_NOT_SERIALIZABLE" "Value is not JSON-serializable; omitted." path
    return none

mutual

/-- The expression for a value, in which references may stand down to the usual depth. What JSON
does not spell is left out. -/
def value (names : Declared) (scope : Scope) (path : String) : Value -> Draft (Option Expr)
  | .list items =>
    if (Value.list items).containsRef Value.defaultDepth then
      return some (.array (← valueItems names scope path 0 items))
    else literal path (.list items)
  | .object es =>
    match Ref.ofValue? (.object es) with
    | some r => return some (← reference names scope path r)
    | none =>
      if (Value.object es).containsRef Value.defaultDepth then
        return some (.object (← valueEntries names scope path es))
      else literal path (.object es)
  | v => literal path v

/-- The expressions for list items, numbered from `i`; one that is left out is undefined. -/
def valueItems (names : Declared) (scope : Scope) (path : String) (i : Nat) :
    List Value -> Draft (List Expr)
  | [] => return []
  | v :: rest => do
    let e ← value names scope (path ++ "[" ++ Text.ofNat i ++ "]") v
    return e.getD .undefined :: (← valueItems names scope path (i + 1) rest)

/-- The expressions for entries, without those that are left out. -/
def valueEntries (names : Declared) (scope : Scope) (path : String) :
    List (String × Value) -> Draft (List (String × Expr))
  | [] => return []
  | (key, v) :: rest => do
    let e ← value names scope (path ++ "." ++ key) v
    let others ← valueEntries names scope path rest
    return (e.map fun x => (key, x)).toList ++ others

end

/-- The expression for what a source refers to, if it may name the source of a scope or a list. -/
def source (names : Declared) (scope : Scope) (path : String) (v : Value) : Draft (Option Expr) :=
  match Ref.ofValue? v with
  | some .index | none => return none
  | some r => return some (← reference names scope path r)

/-- The expression for a scope before entries are put over it and a path narrows it. -/
def baseScope (names : Declared) (scope : Scope) (path : String) (d : DataDecl) : Draft Expr := do
  let live ← source names scope (path ++ ".data.source") d.source
  let design ← match (d.design false).nonNull? with
    | some v => value names scope (path ++ ".data.value") v
    | none => pure none
  match live, design with
  | some e, some f => return .orElse e f
  | some e, none => return e
  | none, some f => return f
  | none, none => return if (Ref.ofValue? d.source).isSome then .undefined else scope.data

/-- The expression for the data scope of a node at a document path. -/
def dataScope (names : Declared) (scope : Scope) (path : String) : Option DataDecl -> Draft Expr
  | none => return scope.data
  | some d => do
    let base ← baseScope names scope path d
    let whole ← match d.extend with
      | .object (e :: es) =>
        (.extended base ·) <$> valueEntries names scope (path ++ ".data.extend") (e :: es)
      | _ => pure base
    match d.pick.word? with
    | some p => return .members whole (← ofExcept (Path.parse p))
    | none => return whole

end Draft

end ViewDoc.Tsx
