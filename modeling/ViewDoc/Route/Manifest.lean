import ViewDoc.Decode.Scalar
import ViewDoc.Route.Path
import ViewDoc.Tree
/-!
Route manifests: trees of routes with the documents that they show.
-/

set_option autoImplicit false

namespace ViewDoc

/-- A route, besides its children. -/
structure RouteFields where
  id : String
  segment : Option String := none
  index : Bool := false
  layoutDocId : Option String := none
  pageDocId : Option String := none
  outletNodeId : Option String := none
  extras : Entries := []
  deriving DecidableEq, Repr, Inhabited

/-- A route with its descendants. -/
abbrev RouteNode := Tree RouteFields

/-- A versioned tree of routes. -/
structure RouteManifest where
  version : String := "1"
  root : RouteNode
  deriving Repr, Inhabited

/-- A listed route: its path, its depth in the tree, and a label. -/
structure RouteItem where
  id : String
  path : String
  depth : Nat
  label : String
  deriving DecidableEq, Repr

/-- A listed route as an object. -/
def RouteItem.toValue (i : RouteItem) : Value :=
  .object [("id", .str i.id), ("path", .str i.path), ("depth", .int i.depth),
    ("label", .str i.label)]

namespace RouteFields

/-- The id of root routes. -/
def rootId : String := "root"

/-- The trimmed segment pattern, or nothing. -/
def pattern (r : RouteFields) : String :=
  Text.trim (r.segment.getD "")

/-- The parts of the segment pattern. -/
def parts (r : RouteFields) : List RoutePart :=
  (Text.pieces '/' r.pattern).map RoutePart.ofText

private def names : List (List String) :=
  [["id"], ["segment"], ["index"], ["layoutDocId", "layout_doc_id"],
    ["pageDocId", "page_doc_id"], ["outletNodeId", "outlet_node_id"], ["children"]]

end RouteFields

namespace RouteNode

/-- Reads the fields of a route and joins them with the outcome for its children. -/
def decodeFields (es : Entries) (children : Unit -> Decoded (List RouteNode)) :
    Decoded RouteNode :=
  let optionalText (names : List String) : Decoded (Option String) :=
    Decode.field es names (.value none) (Decode.optional Decode.text)
  let make (id : String) (segment : Option String) (index : Bool)
      (layoutDocId pageDocId outletNodeId : Option String) (children : List RouteNode) :
      RouteNode :=
    .node { id, segment, index, layoutDocId, pageDocId, outletNodeId,
            extras := Decode.extras es RouteFields.names } children
  make <$> Decode.required es ["id"] Decode.text <*> optionalText ["segment"]
    <*> Decode.field es ["index"] (.value false) Decode.flag
    <*> optionalText ["layoutDocId", "layout_doc_id"]
    <*> optionalText ["pageDocId", "page_doc_id"]
    <*> optionalText ["outletNodeId", "outlet_node_id"] <*> children ()

mutual

/-- Reads a route, which must be an object. -/
def decode : Value -> Decoded RouteNode
  | .object es => decodeFields es fun _ => decodeChildren es
  | _ => .fail .modelType

/-- Reads the children among the entries of a route. -/
def decodeChildren : List (String × Value) -> Decoded (List RouteNode)
  | [] => .value []
  | (key, v) :: rest =>
    if key = "children" then (decodeItemsOf v).under (.key "children") else decodeChildren rest

/-- Reads a list of routes. -/
def decodeItemsOf : Value -> Decoded (List RouteNode)
  | .list items => decodeItems 0 items
  | _ => .fail .listType

/-- Reads numbered items as routes. -/
def decodeItems : Nat -> List Value -> Decoded (List RouteNode)
  | _, [] => .value []
  | i, v :: rest => List.cons <$> (decode v).under (.index i) <*> decodeItems (i + 1) rest

end

mutual

/-- A route as an object. -/
def toValue : RouteNode -> Value
  | .node r cs =>
    .object ([("id", .str r.id), ("segment", .ofText? r.segment), ("index", .bool r.index),
      ("layoutDocId", .ofText? r.layoutDocId), ("pageDocId", .ofText? r.pageDocId),
      ("outletNodeId", .ofText? r.outletNodeId), ("children", .list (toValues cs))] ++ r.extras)

/-- Routes as objects. -/
def toValues : List RouteNode -> List Value
  | [] => []
  | r :: rest => toValue r :: toValues rest

end

/-- The full path of a route below a parent path. -/
def pathBelow (parent : String) (r : RouteFields) : String :=
  let orRoot := if parent = "" then "/" else parent
  if r.index || r.pattern = "" then orRoot
  else if r.pattern.toList.head? == some '/' || parent = "" || parent = "/" then
    RoutePath.rootedRoute r.pattern
  else parent ++ "/" ++ r.pattern

/-- The listing of a route with its path; a root is not listed. -/
def item (path : String) (depth : Nat) (r : RouteFields) : List RouteItem :=
  if r.id = RouteFields.rootId then []
  else
    let label := if r.index then "(index)" else if r.pattern = "" then path else r.pattern
    [⟨r.id, path, depth, label⟩]

mutual

/-- The routes of a tree below a parent path, except roots. -/
def items (parent : String) (depth : Nat) : RouteNode -> List RouteItem
  | .node r cs =>
    item (pathBelow parent r) depth r ++ itemsOf (pathBelow parent r) (depth + 1) cs

/-- The routes of several trees below a parent path. -/
def itemsOf (parent : String) (depth : Nat) : List RouteNode -> List RouteItem
  | [] => []
  | r :: rest => items parent depth r ++ itemsOf parent depth rest

end

/-- The first route with an id, in document order. -/
def find? (r : RouteNode) (id : String) : Option RouteNode :=
  r.walk.find? fun n => n.value.id == id

private def nonEmpty (s : Option String) : List String :=
  s.toList.filter (· ≠ "")

/-- The documents that the routes of a tree show, each once. -/
def documentRefs (r : RouteNode) : List String :=
  (r.walk.flatMap fun n => nonEmpty n.value.layoutDocId ++ nonEmpty n.value.pageDocId).eraseDups

end RouteNode

namespace RouteManifest

/-- A manifest with the id of its root put right. -/
private def withRootId (es : Entries) : Entries :=
  match Entries.get es "root" with
  | .object root =>
    Entries.set es "root" (.object (Entries.set root "id" (.str RouteFields.rootId)))
  | _ => es

/-- Reads a manifest; a missing root is an empty one. -/
def decode : Value -> Decoded RouteManifest
  | .object es =>
    let es := withRootId es
    (fun version root => ⟨version, root⟩) <$>
      Decode.field es ["version"] (.value "1") Decode.text <*>
      Decode.field es ["root"] (.value (.node { id := RouteFields.rootId } [])) RouteNode.decode
  | _ => .fail .modelType

/-- A manifest as an object. -/
def toValue (m : RouteManifest) : Value :=
  .object [("version", .str m.version), ("root", m.root.toValue)]

end RouteManifest

end ViewDoc
