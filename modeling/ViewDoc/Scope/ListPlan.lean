import ViewDoc.Scope.Data
/-!
The expansion of a list node: one entry for each item of its source, each with its own context.
-/

set_option autoImplicit false

namespace ViewDoc

/-- One item of a list with its key and the context of the nodes rendered for it. -/
structure ListEntry where
  key : Value
  item : Value
  index : Nat
  context : Context
  deriving Repr

/-- The entries of a list, and the id of the node shown when there are none. -/
structure ListPlan where
  entries : List ListEntry
  emptyNodeId : Option String
  deriving Repr

namespace ListPlan

/-- Whether there is nothing to list. -/
def isEmpty (p : ListPlan) : Bool :=
  p.entries.isEmpty

end ListPlan

namespace ListDecl

/-- What a list iterates over: what its source refers to, else an array in the scope, else the
scope itself. -/
def sourceValue (d : ListDecl) (scope : Value) (ctx : Context) : Except Fault Value :=
  if Ref.isSource d.source then d.source.resolveOne (ctx.withData scope)
  else
    match d.arrayField.word? with
    | some path => Path.read scope path
    | none => .ok scope

/-- The key of an item: what the key path reads, or else the position. -/
def keyOf (keyBy : Option String) (item : Value) (index : Nat) : Except Fault Value :=
  match keyBy with
  | none => .ok (.int index)
  | some path => do return ((← Path.read item path).nonNull?).getD (.int index)

/-- The entries of the items from a position on. -/
def entriesFrom (d : ListDecl) (ctx : Context) : Nat -> List Value -> Except Fault (List ListEntry)
  | _, [] => .ok []
  | i, item :: rest => do
    let key ← keyOf d.keyBy.word? item i
    let entry : ListEntry := ⟨key, item, i, ctx.withItem item i d.itemAs.word? d.indexAs.word?⟩
    return entry :: (← d.entriesFrom ctx (i + 1) rest)

/-- Expands a list. A source that is not a list counts as empty. -/
def plan (d : ListDecl) (scope : Value) (ctx : Context) : Except Fault ListPlan := do
  match ← d.sourceValue scope ctx with
  | .list items => return ⟨← d.entriesFrom (ctx.withData scope) 0 items, d.emptyNodeId.word?⟩
  | _ => return ⟨[], d.emptyNodeId.word?⟩

end ListDecl

end ViewDoc
