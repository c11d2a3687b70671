import ViewDoc.Decode
/-!
What a node declares about its data scope and about list rendering. The fields are as loose as
authors write them; what they mean is decided where they are used.
-/

set_option autoImplicit false

namespace ViewDoc

/-- A data scope declaration: a live source, a design-time value, a preview value, entries merged
over the scope, and a path that narrows it. -/
structure DataDecl where
  source : Value := .null
  pick : Value := .null
  value : Value := .null
  mock : Value := .null
  extend : Value := .null
  extras : Entries := []
  deriving DecidableEq, Repr, Inhabited

/-- A list declaration: where the items come from, the names of item and index, the path of the
item's key, and the node shown for an empty list. -/
structure ListDecl where
  source : Value := .null
  arrayField : Value := .null
  itemAs : Value := .null
  indexAs : Value := .null
  keyBy : Value := .null
  emptyNodeId : Value := .null
  extras : Entries := []
  deriving DecidableEq, Repr, Inhabited

private def anyOf (es : Entries) (names : List String) : Value :=
  ((Decode.lookup? es names).map (·.2)).getD .null

namespace DataDecl

/-- Reads a declaration from an object. -/
def ofEntries (es : Entries) : DataDecl :=
  { source := anyOf es ["source"], pick := anyOf es ["pick"], value := anyOf es ["value"],
    mock := anyOf es ["mock"], extend := anyOf es ["extend"],
    extras := Decode.extras es [["source"], ["pick"], ["value"], ["mock"], ["extend"]] }

/-- Reads a declaration from a value, which must be an object. -/
def decode : Value -> Decoded DataDecl
  | .object es => .value (ofEntries es)
  | _ => .fail .modelType

/-- The named fields of a declaration. -/
def fields (d : DataDecl) : Entries :=
  [("source", d.source), ("pick", d.pick), ("value", d.value), ("mock", d.mock),
    ("extend", d.extend)]

/-- The declaration as an object, whose entries `shape` selects. -/
def toValue (d : DataDecl) (shape : Entries -> Entries := id) : Value :=
  .object (shape (d.fields ++ d.extras))

end DataDecl

namespace ListDecl

private def names : List (List String) :=
  [["source"], ["arrayField", "array_field"], ["itemAs", "item_as"], ["indexAs", "index_as"],
    ["keyBy", "key_by"], ["emptyNodeId", "empty_node_id"]]

/-- Reads a declaration from an object; the compound names have two spellings. -/
def ofEntries (es : Entries) : ListDecl :=
  { source := anyOf es ["source"], arrayField := anyOf es ["arrayField", "array_field"],
    itemAs := anyOf es ["itemAs", "item_as"], indexAs := anyOf es ["indexAs", "index_as"],
    keyBy := anyOf es ["keyBy", "key_by"],
    emptyNodeId := anyOf es ["emptyNodeId", "empty_node_id"],
    extras := Decode.extras es names }

/-- Reads a declaration from a value, which must be an object. -/
def decode : Value -> Decoded ListDecl
  | .object es => .value (ofEntries es)
  | _ => .fail .modelType

/-- The named fields of a declaration. -/
def fields (d : ListDecl) : Entries :=
  [("source", d.source), ("arrayField", d.arrayField), ("itemAs", d.itemAs),
    ("indexAs", d.indexAs), ("keyBy", d.keyBy), ("emptyNodeId", d.emptyNodeId)]

/-- The declaration as an object, whose entries `shape` selects. -/
def toValue (d : ListDecl) (shape : Entries -> Entries := id) : Value :=
  .object (shape (d.fields ++ d.extras))

end ListDecl

end ViewDoc
