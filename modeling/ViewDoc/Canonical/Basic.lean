import ViewDoc.Diagnostic
import ViewDoc.Document.Logic
import ViewDoc.Node.Declaration
import ViewDoc.Tree
/-!
Canonical documents: every node has an id, a type and a document path, and events have one shape.
-/

set_option autoImplicit false

namespace ViewDoc

/-- An event binding: the trigger, the action it runs, and the action's params. -/
structure EventBinding where
  trigger : String
  action : Option String := none
  params : Entries := []
  deriving DecidableEq, Repr, Inhabited

/-- A canonical node, besides its children. -/
structure CanonicalFields where
  id : String
  type : String
  path : String := ""
  text : Value := .null
  style : Entries := []
  props : Entries := []
  events : List (String × EventBinding) := []
  data : Option DataDecl := none
  list : Option ListDecl := none
  deriving DecidableEq, Repr, Inhabited

/-- A canonical node with its descendants. -/
abbrev CanonicalNode := Tree CanonicalFields

/-- A canonical document. -/
structure CanonicalDocument where
  version : String
  metadata : Option Metadata := none
  logic : Option Logic := none
  animation : Value := .null
  root : CanonicalNode
  deriving Repr, Inhabited

namespace EventBinding

/-- A binding as an object, whose entries `shape` selects. -/
def toValue (e : EventBinding) (shape : Entries -> Entries := id) : Value :=
  .object (shape [("trigger", .str e.trigger), ("action", .ofText? e.action),
    ("params", .object e.params)])

end EventBinding

namespace CanonicalNode

/-- The fields of a canonical node as entries around the given children. -/
def fieldEntries (shape : Entries -> Entries) (n : CanonicalFields) (children : List Value) :
    Entries :=
  [("id", .str n.id), ("type", .str n.type), ("path", .str n.path), ("text", n.text),
    ("style", .object n.style), ("props", .object n.props),
    ("events", .object (n.events.map fun e => (e.1, e.2.toValue shape))),
    ("data", .ofOption (n.data.map fun d => d.toValue shape)),
    ("list", .ofOption (n.list.map fun d => d.toValue shape)), ("children", .list children)]

mutual

/-- A canonical node as an object; `shape` selects the entries of every record. -/
def toValue (shape : Entries -> Entries) : CanonicalNode -> Value
  | .node n cs => .object (shape (fieldEntries shape n (toValues shape cs)))

/-- Canonical nodes as objects. -/
def toValues (shape : Entries -> Entries) : List CanonicalNode -> List Value
  | [] => []
  | t :: rest => toValue shape t :: toValues shape rest

end

/-- The nodes that are the first with their id, in document order. -/
def firstById (nodes : List CanonicalNode) : List CanonicalNode :=
  nodes.foldl (fun acc n => if acc.any (fun m => m.value.id == n.value.id) then acc else acc ++ [n]) []

end CanonicalNode

namespace CanonicalDocument

/-- The first node in document order that has an id. -/
def node? (d : CanonicalDocument) (id : String) : Option CanonicalNode :=
  d.root.walk.find? fun n => n.value.id == id

/-- The index of a document: every id with the first node that has it. -/
def index (d : CanonicalDocument) : List CanonicalNode :=
  CanonicalNode.firstById d.root.walk

/-- A canonical document as an object; `shape` selects the entries of every record. -/
def toValue (d : CanonicalDocument) (shape : Entries -> Entries := id) : Value :=
  .object (shape [("version", .str d.version),
    ("metadata", .ofOption (d.metadata.map fun m => m.toValue shape)),
    ("logic", .ofOption (d.logic.map fun l => l.toValue shape)), ("animation", d.animation),
    ("root", CanonicalNode.toValue shape d.root)])

/-- A canonical document as an object without the fields that are null. -/
def toBareValue (d : CanonicalDocument) : Value :=
  d.toValue fun es => es.filter fun e => !e.2.isNull

end CanonicalDocument

end ViewDoc
