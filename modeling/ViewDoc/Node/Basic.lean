import ViewDoc.Node.Declaration
import ViewDoc.Tree
/-!
Component nodes as authors write them, and reading them from values. Fields of a wrong shape are set
aside, so that the rest of a node survives: such a field, or a child that is no object, goes to the
node's record of what was set aside.
-/

set_option autoImplicit false

namespace ViewDoc

/-- What an author writes at a node, besides its children. -/
structure NodeFields where
  id : String := ""
  type : String := ""
  text : Value := .null
  style : Entries := []
  props : Entries := []
  events : Entries := []
  data : Option DataDecl := none
  list : Option ListDecl := none
  aside : Entries := []
  extras : Entries := []
  deriving DecidableEq, Repr, Inhabited

/-- A component node with its descendants. -/
abbrev Node := Tree NodeFields

namespace NodeFields

/-- The fields of a node as entries around the given children. -/
def toEntries (n : NodeFields) (children : List Value) : Entries :=
  [("id", .str n.id), ("type", .str n.type), ("text", n.text), ("style", .object n.style),
    ("props", .object n.props), ("events", .object n.events),
    ("data", Value.ofOption (n.data.map fun d => d.toValue)),
    ("list", Value.ofOption (n.list.map fun d => d.toValue)), ("children", .list children)] ++ n.extras

end NodeFields

namespace Node

mutual

/-- A node as an object. -/
def toValue : Node -> Value
  | .node n cs => .object (n.toEntries (toValues cs))

/-- Nodes as objects. -/
def toValues : List Node -> List Value
  | [] => []
  | t :: rest => toValue t :: toValues rest

end

/-- The children that are objects cannot be kept with those that are not. -/
def misplacedChildren (es : Entries) : Entries :=
  match Entries.get? es "children" with
  | none => []
  | some .null => []
  | some (.list items) =>
    if items.all Value.isObject then []
    else [("children", .list (items.filter fun v => !v.isObject))]
  | some v => [("children", v)]

/-- The fields of an object that are set aside, in the order in which they are looked at. -/
def setAside (es : Entries) : Entries :=
  Decode.wrongShape es Value.isText ["id", "type"] ++
    Decode.wrongShape es Value.isObject ["data", "list", "style", "props", "events"] ++
    misplacedChildren es

/-- An object without the fields that are set aside, and without mappings that are null. -/
def settled (es : Entries) : Entries :=
  let gone := (Entries.keys (setAside es)).filter (· ≠ "children")
  es.filter fun e =>
    !gone.contains e.1 && !(["style", "props", "events"].contains e.1 && e.2.isNull)

private def fieldNames : List (List String) :=
  [["id"], ["type"], ["text"], ["style"], ["props"], ["events"], ["data"], ["list", "list_"],
    ["children"], ["invalid_fields"]]

/-- Reads a field that is a text. -/
def textField (es : Entries) (name : String) : Decoded String :=
  Decode.field es [name] (.value "") Decode.text

/-- Reads a field that is an object. -/
def objectField (es : Entries) (name : String) : Decoded Entries :=
  Decode.field es [name] (.value []) Decode.object

/-- Reads the fields of a node and joins them with the outcome for its children. -/
def decodeFields (es : Entries) (children : Unit -> Decoded (List Node)) : Decoded Node :=
  (Decode.asideRecord es "invalid_fields").andThen fun record =>
    let kept := settled es
    let record := Keyed.merge record (Keyed.ofEntries (setAside es))
    let make (id type : String) (style props events : Entries) (data : Option DataDecl)
        (list : Option ListDecl) (children : List Node) (aside : Entries) : Node :=
      .node { id, type, text := Entries.get kept "text", style, props, events, data, list, aside,
              extras := Decode.extras kept fieldNames } children
    make <$> textField kept "id" <*> textField kept "type" <*> objectField kept "style"
      <*> objectField kept "props" <*> objectField kept "events"
      <*> Decode.field kept ["data"] (.value none) (Decode.optional DataDecl.decode)
      <*> Decode.field kept ["list", "list_"] (.value none) (Decode.optional ListDecl.decode)
      <*> children () <*> Decode.asideField kept "invalid_fields" record

mutual

/-- Reads a node, which must be an object. -/
def decode : Value -> Decoded Node
  | .object es => decodeFields es fun _ => decodeChildren es
  | _ => .fail .modelType

/-- Reads the children among the entries of a node: the objects in the list of that name. -/
def decodeChildren : List (String × Value) -> Decoded (List Node)
  | [] => .value []
  | (key, v) :: rest =>
    if key = "children" then (decodeItemsOf v).under (.key "children") else decodeChildren rest

/-- Reads the objects of a list as nodes. -/
def decodeItemsOf : Value -> Decoded (List Node)
  | .list items => decodeItems 0 items
  | _ => .value []

/-- Reads the objects among items as nodes, numbered without the others. -/
def decodeItems : Nat -> List Value -> Decoded (List Node)
  | _, [] => .value []
  | i, v :: rest =>
    if v.isObject then
      List.cons <$> (decode v).under (.index i) <*> decodeItems (i + 1) rest
    else decodeItems i rest

end

end Node

end ViewDoc
