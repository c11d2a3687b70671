import ViewDoc.Canonical.Basic
import ViewDoc.Document.Load
import ViewDoc.Text.Letter
/-!
Building canonical documents. Building never fails on malformed nodes: every repair is reported at
the path of its node, in document order, and after these come the ids that occur again.
-/

set_option autoImplicit false

namespace ViewDoc

namespace Canonical

/-- The path of the root node. -/
def rootPath : String := "ui.root"

/-- The type of nodes that have none. -/
def defaultType : String := "div"

/-- The path of a child. -/
def childPath (path : String) (i : Nat) : String :=
  path ++ ".children[" ++ Text.ofNat i ++ "]"

/-- An id made from a path: what is no ASCII letter, digit or low line becomes a low line. -/
def fallbackId (path : String) : String :=
  .ofList (path.toList.map fun c =>
    if Text.isAsciiLetter c || Text.isAsciiDigit c || c == '_' then c else '_')

/-- The id of a node: what the author wrote, trimmed, or one made from the path. -/
def idOf (n : NodeFields) (path : String) : String :=
  (Text.trimmed? n.id).getD (fallbackId path)

/-- The type of a node: what the author wrote, trimmed, or the default. -/
def typeOf (n : NodeFields) : String :=
  (Text.trimmed? n.type).getD defaultType

/-- The trigger of an event entry: the key, unless a trigger is written. -/
def triggerOf? (key : String) : Value -> Option String
  | .null => Text.trimmed? key
  | v => v.asText?.bind Text.trimmed?

/-- The action of an event entry, perhaps none. -/
def actionOf? : Value -> Option (Option String)
  | .null => some none
  | .str s => some (if s = "" then none else some s)
  | _ => none

/-- The params of an event entry. -/
def paramsOf? : Value -> Option Entries
  | .null => some []
  | v => v.asObject?

/-- The binding that an event entry describes, if its shape is valid. -/
def binding? (key : String) : Value -> Option EventBinding
  | .object es => do
    let trigger ← triggerOf? key (Entries.get es "trigger")
    let action ← actionOf? (Entries.get es "action")
    let params ← paramsOf? (Entries.get es "params")
    return ⟨trigger, action, params⟩
  | _ => none

/-- The bindings of a node, in declared order. -/
def bindings (events : Entries) : List (String × EventBinding) :=
  events.filterMap fun e => (binding? e.1 e.2).map fun b => (e.1, b)

/-- The canonical form of a node at a path, besides its children. -/
def fieldsAt (path : String) (n : NodeFields) : CanonicalFields :=
  { id := idOf n path, type := typeOf n, path, text := n.text, style := n.style, props := n.props,
    events := bindings n.events, data := n.data, list := n.list }

mutual

/-- The canonical form of a tree whose root stands at a path. -/
def ofNode (path : String) : Node -> CanonicalNode
  | .node n cs => .node (fieldsAt path n) (ofChildren path 0 cs)

/-- The canonical forms of children, numbered from `i`. -/
def ofChildren (path : String) (i : Nat) : List Node -> List CanonicalNode
  | [] => []
  | c :: rest => ofNode (childPath path i) c :: ofChildren path (i + 1) rest

end

/-- A report of normalization. -/
def report (code message path : String) (suggestion : Option String := none) :
    Diagnostic :=
  { code, reporter := .canonical, message, path := some path, suggestion }

/-- The reports on one node. -/
def reportsOf (path : String) (n : NodeFields) : List Diagnostic :=
  (if Text.isBlankText n.id then
    [report "CANONICAL_NODE_MISSING_ID" "Node is missing an id; a fallback id was generated." path
      (some "Assign a stable id to this node.")] else []) ++
  (if Text.isBlankText n.type then
    [report "CANONICAL_NODE_MISSING_TYPE"
      ("Node is missing a type; defaulted to '" ++ defaultType ++ "'.") path
      (some "Set a component type for this node.")] else []) ++
  n.aside.map (fun e =>
    report "CANONICAL_NODE_FIELD_INVALID"
      ("Node field '" ++ e.1 ++ "' has an invalid shape and was ignored.") (path ++ "." ++ e.1)) ++
  n.events.filterMap fun e =>
    if (binding? e.1 e.2).isSome then none
    else some (report "CANONICAL_EVENT_INVALID"
      ("Event '" ++ e.1 ++ "' does not have the shape \x7btrigger, action?, params?\x7d; dropped.")
      (path ++ ".events." ++ e.1))

mutual

/-- The reports on a tree, in document order. -/
def reports (path : String) : Node -> List Diagnostic
  | .node n cs => reportsOf path n ++ childReports path 0 cs

/-- The reports on children, numbered from `i`. -/
def childReports (path : String) (i : Nat) : List Node -> List Diagnostic
  | [] => []
  | c :: rest => reports (childPath path i) c ++ childReports path (i + 1) rest

end

/-- The reports on ids that occurred before, given the ids seen so far. -/
def repeats (seen : List String) : List CanonicalNode -> List Diagnostic
  | [] => []
  | n :: rest =>
    if seen.contains n.value.id then
      report "CANONICAL_NODE_DUPLICATE_ID"
        ("Duplicate node id '" ++ n.value.id ++ "'; lookups resolve to the first occurrence.")
        n.value.path :: repeats seen rest
    else repeats (n.value.id :: seen) rest

/-- The reports on malformed values outside the tree. -/
def documentReports (d : Document) : List Diagnostic :=
  d.malformedFields.map fun f =>
    let place := ".".intercalate f.1
    report "CANONICAL_DOCUMENT_FIELD_INVALID"
      ("Document field '" ++ place ++ "' has an invalid shape and was ignored.") place

end Canonical

/-- A canonical document with the reports on its making. -/
structure Normalized where
  document : CanonicalDocument
  diagnostics : List Diagnostic
  deriving Repr

namespace Document

/-- The canonical form of an upgraded document. -/
def canonical (d : Document) : Normalized :=
  let root := Canonical.ofNode Canonical.rootPath d.root
  { document := { version := d.version, metadata := d.metadata, logic := d.logic,
                  animation := d.animation, root },
    diagnostics := Canonical.documentReports d ++ Canonical.reports Canonical.rootPath d.root ++
      Canonical.repeats [] root.walk }

/-- Upgrades a document and brings it into canonical form. -/
def normalize (d : Document) : Except Fault Normalized :=
  d.upgrade.map canonical

end Document

/-- Reads a value as a document, upgrades it, and brings it into canonical form. -/
def normalize (v : Value) : Except Failure Normalized := do
  Failure.ofFault (← Failure.ofDecoded (Document.ofValue v)).normalize

end ViewDoc
