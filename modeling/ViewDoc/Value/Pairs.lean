import ViewDoc.Fault
import ViewDoc.Value.Key
/-!
Values read as entries: an object has its own, and a sequence of pairs has one for each pair.
-/

set_option autoImplicit false

namespace ViewDoc

/-- The members of a value that is a sequence: the items of a list, the characters of a text, the
keys of an object. -/
def Value.members? : Value -> Option (List Value)
  | .list items => some items
  | .str s => some (s.toList.map fun c => .str (.ofList [c]))
  | .object es => some (es.map fun e => .str e.1)
  | .mapping es => some (es.map fun e => e.1.toValue)
  | _ => none

/-- The entry that a pair makes. -/
def pairOf (v : Value) : Except Fault (Key × Value) :=
  match v.members? with
  | none => .error .noEntries
  | some [k, w] =>
    match k.key? with
    | some key => .ok (key, w)
    | none => .error .noEntries
  | some _ => .error .notPair

/-- The entries that a value consists of. Lists and objects are no keys. -/
def Value.entries (v : Value) : Except Fault (List (Key × Value)) :=
  match v.keyed?, v.members? with
  | some es, _ => .ok es
  | none, some items => do return Keyed.ofList (← items.mapM pairOf)
  | none, none => .error .noEntries

end ViewDoc
