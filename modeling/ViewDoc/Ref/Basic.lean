import ViewDoc.Value.Entries
/-!
References: objects with exactly one entry, whose key names what the reference reads and whose value
is the path to read. Everything else is literal.
-/

set_option autoImplicit false

namespace ViewDoc

/-- A reference to a parameter, to state, to the data scope, or to the current list entry. -/
inductive Ref where
  | param (path : String)
  | state (path : String)
  | data (path : String)
  | item (path : String)
  | index
  deriving DecidableEq, Repr

namespace Ref

/-- The keys that mark references. -/
def tags : List String :=
  ["$param", "$state", "$data", "$item", "$index"]

/-- The reference that a path under a tag makes. -/
def ofTag? (tag path : String) : Option Ref :=
  match tag with
  | "$param" => some (.param path)
  | "$state" => some (.state path)
  | "$data" => some (.data path)
  | "$item" => some (.item path)
  | "$index" => some .index
  | _ => none

/-- Reads a value as a reference. The index may also be marked by `true`. -/
def ofValue? : Value -> Option Ref
  | .object [(tag, .str path)] => ofTag? tag path
  | .object [("$index", .bool true)] => some .index
  | _ => none

/-- The name of what a reference reads. -/
def kind : Ref -> String
  | .param _ => "param"
  | .state _ => "state"
  | .data _ => "data"
  | .item _ => "item"
  | .index => "index"

/-- The path of a reference, where it has one. -/
def path? : Ref -> Option String
  | .param path | .state path | .data path | .item path => some path
  | .index => none

/-- A reference in its document form. -/
def toValue (r : Ref) : Value :=
  match r.path? with
  | some path => .object [("$" ++ r.kind, .str path)]
  | none => .object [("$index", .bool true)]

/-- The reference tags among the keys of a value, in the order of the tags. -/
def tagsIn : Value -> List String
  | .object es => tags.filter fun tag => Entries.has es tag
  | _ => []

/-- Whether a value is a reference that may name the source of a scope or a list. -/
def isSource (v : Value) : Bool :=
  match ofValue? v with
  | some .index => false
  | some _ => true
  | none => false

theorem ofValue?_toValue (r : Ref) : ofValue? r.toValue = some r := by
  cases r <;> rfl

end Ref

end ViewDoc
