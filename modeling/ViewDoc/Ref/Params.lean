import ViewDoc.Ref.Basic
import ViewDoc.Ref.Path
/-!
The parameters that a value refers to, at any depth.
-/

set_option autoImplicit false

namespace ViewDoc

namespace Ref

/-- The top-level parameter that a reference reads, if its path starts with a name. -/
def paramName : Ref -> Except Fault (List String)
  | .param path => do
    match ← Path.parse path with
    | .key name :: _ => return [name]
    | _ => return []
  | _ => .ok []

end Ref

namespace Value

mutual

/-- The names of the parameters that references in a value read, in document order. -/
def paramNames : Value -> Except Fault (List String)
  | .list items => paramNamesOfItems items
  | .object es =>
    match Ref.ofValue? (.object es) with
    | some (.param path) => Ref.paramName (.param path)
    | _ => paramNamesOfEntries es
  | .mapping es => paramNamesOfKeyed es
  | _ => .ok []

/-- The parameter names in list items. -/
def paramNamesOfItems : List Value -> Except Fault (List String)
  | [] => .ok []
  | v :: rest => do return (← paramNames v) ++ (← paramNamesOfItems rest)

/-- The parameter names in entries. -/
def paramNamesOfEntries : List (String × Value) -> Except Fault (List String)
  | [] => .ok []
  | (_, v) :: rest => do return (← paramNames v) ++ (← paramNamesOfEntries rest)

/-- The parameter names in entries with keys of any kind. -/
def paramNamesOfKeyed : List (Key × Value) -> Except Fault (List String)
  | [] => .ok []
  | (_, v) :: rest => do return (← paramNames v) ++ (← paramNamesOfKeyed rest)

end

end Value

end ViewDoc
