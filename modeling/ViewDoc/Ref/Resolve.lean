import ViewDoc.Ref.Basic
import ViewDoc.Ref.Path
import ViewDoc.Value.Key
/-!
Resolving references against a context. What is found may hold references itself, and these are
resolved too, down to a depth that the caller limits.
-/

set_option autoImplicit false

namespace ViewDoc

/-- What references read: parameters, state, the data scope, and the current list entry. -/
structure Context where
  params : Entries := []
  state : Entries := []
  data : Value := .null
  item : Value := .null
  index : Option Int := none
  deriving Repr, Inhabited

namespace Context

/-- A context as an object. -/
def toValue (c : Context) : Value :=
  .object [("params", .object c.params), ("state", .object c.state), ("data", c.data),
    ("item", c.item), ("index", Value.ofOption (c.index.map .int))]

/-- The context with another data scope. -/
def withData (ctx : Context) (data : Value) : Context :=
  { ctx with data := data }

/-- The aliases of an entry that have a name. -/
def aliases (item : Value) (index : Int) (itemAs indexAs : Option String) : Entries :=
  let named (name : Option String) (v : Value) : Entries :=
    match name with
    | some n => if n = "" then [] else [(n, v)]
    | none => []
  Entries.ofList (named itemAs item ++ named indexAs (.int index))

/-- The context of one list entry. Aliases are put into the data scope, which becomes an object if
it was none. -/
def withItem (ctx : Context) (item : Value) (index : Int) (itemAs indexAs : Option String) :
    Context :=
  let names := aliases item index itemAs indexAs
  let data := if names.isEmpty then ctx.data
    else ctx.data.overlaid (Keyed.ofEntries names)
  { ctx with data := data, item := item, index := some index }

end Context

namespace Ref

/-- What a reference reads in a context. -/
def resolve (ctx : Context) : Ref -> Except Fault Value
  | .param path => Path.read (.object ctx.params) path
  | .state path => Path.read (.object ctx.state) path
  | .data path => Path.read ctx.data path
  | .item path => Path.read ctx.item path
  | .index => .ok (Value.ofOption (ctx.index.map .int))

end Ref

namespace Value

/-- The depth down to which references are resolved unless a caller says otherwise. -/
def defaultDepth : Int := 12

/-- The number of levels that a depth limit admits: the top is at depth zero. -/
def levels (maxDepth : Int) : Nat :=
  (maxDepth + 1).toNat

/-- A reference is looked up; anything else stands for itself. -/
def resolveOne (ctx : Context) (v : Value) : Except Fault Value :=
  match Ref.ofValue? v with
  | some r => r.resolve ctx
  | none => .ok v

/-- Resolves references in the value, and in what they read, on the given number of levels. A
reference that was read stays as it is. -/
def resolveLevels (ctx : Context) : Nat -> Value -> Except Fault Value
  | 0, v => .ok v
  | level + 1, v => do
    match ← resolveOne ctx v with
    | .list items => return .list (← items.mapM (resolveLevels ctx level))
    | .object es =>
      if (Ref.ofValue? (.object es)).isSome then return .object es
      else
        return .object (← es.mapM fun e => do return (e.1, ← resolveLevels ctx level e.2))
    | .mapping es =>
      return .mapping (← es.mapM fun e => do return (e.1, ← resolveLevels ctx level e.2))
    | leaf => return leaf

/-- Resolves references down to a depth. -/
def resolve (ctx : Context) (maxDepth : Int) (v : Value) : Except Fault Value :=
  resolveLevels ctx (levels maxDepth) v

/-- Whether a reference stands on one of the given number of levels. -/
def containsRefIn : Nat -> Value -> Bool
  | 0, _ => false
  | level + 1, v =>
    (Ref.ofValue? v).isSome ||
      match v with
      | .list items => items.any (containsRefIn level)
      | .object es => es.any fun e => containsRefIn level e.2
      | .mapping es => es.any fun e => containsRefIn level e.2
      | _ => false

/-- Whether a reference stands in the value, down to a depth. -/
def containsRef (maxDepth : Int) (v : Value) : Bool :=
  containsRefIn (levels maxDepth) v

end Value

end ViewDoc
