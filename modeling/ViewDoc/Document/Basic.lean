import ViewDoc.Document.Logic
import ViewDoc.Node.Basic
/-!
Documents: a versioned tree of nodes with logic and metadata. Reading a document sets aside what is
malformed outside its tree, and `malformedFields` lists it.
-/

set_option autoImplicit false

namespace ViewDoc

/-- A document. -/
structure Document where
  version : String
  metadata : Option Metadata := none
  root : Node
  uiExtras : Entries := []
  logic : Option Logic := none
  animation : Value := .null
  aside : Entries := []
  extras : Entries := []
  deriving Repr, Inhabited

namespace Document

/-- The version of documents that need no upgrade. -/
def latestVersion : String := "1.2"

/-- The top-level fields of a wrong shape. -/
def setAside (es : Entries) : Entries :=
  Decode.wrongShape es Value.isText ["version"] ++
    Decode.wrongShape es Value.isObject ["metadata", "logic"]

/-- An object without the fields that are set aside, and without a version that is null. -/
def settled (es : Entries) : Entries :=
  let gone := Entries.keys (setAside es)
  es.filter fun e => !gone.contains e.1 && !(e.1 == "version" && e.2.isNull)

/-- Reads the part of a document that holds its tree. -/
def decodeTree : Value -> Decoded (Node × Entries)
  | .object es =>
    (fun root => (root, Decode.extras es [["root"]])) <$> Decode.required es ["root"] Node.decode
  | _ => .fail .modelType

private def fieldNames : List (List String) :=
  [["version"], ["metadata"], ["ui"], ["logic"], ["animation"], ["invalid_fields"]]

/-- Reads a document. -/
def decode : Value -> Decoded Document
  | .object es =>
    (Decode.asideRecord es "invalid_fields").andThen fun record =>
      let kept := settled es
      let record := Keyed.merge record (Keyed.ofEntries (setAside es))
      let make (version : String) (metadata : Option Metadata) (ui : Node × Entries)
          (logic : Option Logic) (aside : Entries) : Document :=
        { version, metadata, root := ui.1, uiExtras := ui.2, logic, aside,
          animation := Entries.get kept "animation", extras := Decode.extras kept fieldNames }
      make <$> Decode.field kept ["version"] (.value latestVersion) Decode.text
        <*> Decode.field kept ["metadata"] (.value none) (Decode.optional Metadata.decode)
        <*> Decode.required kept ["ui"] decodeTree
        <*> Decode.field kept ["logic"] (.value none) (Decode.optional Logic.decode)
        <*> Decode.asideField kept "invalid_fields" record
  | _ => .fail .modelType

/-- A document as an object. -/
def toValue (d : Document) : Value :=
  .object ([("version", .str d.version), ("metadata", .ofOption (d.metadata.map fun m => m.toValue)),
    ("ui", .object (("root", d.root.toValue) :: d.uiExtras)),
    ("logic", .ofOption (d.logic.map fun l => l.toValue)), ("animation", d.animation)] ++ d.extras)

private def placed (place : List String) (es : Entries) : List (List String × Value) :=
  es.map fun e => (place ++ [e.1], e.2)

/-- The malformed parts of the logic. -/
def malformedLogic (l : Logic) : List (List String × Value) :=
  placed ["logic"] l.aside ++
    l.asideEntries.flatMap (fun s => placed ["logic", s.1] s.2) ++
    l.props.flatMap (fun p => placed ["logic", "props", p.1] p.2.aside) ++
    l.state.flatMap (fun s => placed ["logic", "state", s.1] s.2.aside)

/-- The values outside the tree that were set aside, each with its place. -/
def malformedFields (d : Document) : List (List String × Value) :=
  placed [] d.aside ++
    (match d.metadata with
      | some m => placed ["metadata"] m.aside
      | none => []) ++
    (match d.logic with
      | some l => malformedLogic l
      | none => [])

/-- The document that stands in for input without a tree. -/
def standard : Document :=
  { version := latestVersion, root := .node { id := "root", type := "container" } [] }

/-- Whether a value has an object as the root of its tree. -/
def hasRoot : Value -> Bool
  | .object es =>
    match Entries.get es "ui" with
    | .object ui => (Entries.get ui "root").isObject
    | _ => false
  | _ => false

/-- Reads a document, falling back to the standard one where there is no tree. -/
def ofValue (v : Value) : Decoded Document :=
  if hasRoot v then decode v else .value standard

end Document

end ViewDoc
