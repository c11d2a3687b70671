import ViewDoc.Canonical.Basic
/-!
What a node is rendered as: an element, with the imports that it needs.
-/

set_option autoImplicit false

namespace ViewDoc

/-- The form of an import. -/
inductive ImportKind where
  | default
  | named
  | whole
  deriving DecidableEq, Repr, Inhabited

/-- One import: the module, the exported name, and the local name. -/
structure ImportSpec where
  kind : ImportKind
  source : String
  imported : Option String := none
  localName : Option String := none
  deriving DecidableEq, Repr, Inhabited

/-- The element chosen for a node. A fallback is the generic element of a node that nothing knows. -/
structure Resolution where
  element : String
  imports : List ImportSpec := []
  diagnostics : List Diagnostic := []
  omitProps : List String := []
  adapterId : Option String := none
  fallback : Bool := false
  deriving DecidableEq, Repr, Inhabited

namespace ImportKind

/-- The word for a form. -/
def word : ImportKind -> String
  | .default => "default"
  | .named => "named"
  | .whole => "namespace"

/-- The form that a word names. -/
def ofWord? : String -> Option ImportKind
  | "default" => some .default
  | "named" => some .named
  | "namespace" => some .whole
  | _ => none

end ImportKind

namespace ImportSpec

private def nonEmpty (s : Option String) : Option String :=
  s.filter (· ≠ "")

/-- The name that the import binds. -/
def binding (i : ImportSpec) : String :=
  ((nonEmpty i.localName).or i.imported).getD ""

/-- What makes two imports the same. -/
def identity (i : ImportSpec) : ImportKind × String × String × String :=
  (i.kind, i.source, i.imported.getD "", i.localName.getD "")

/-- An import of an exported name. -/
def named (source imported : String) : ImportSpec :=
  { kind := .named, source, imported := some imported }

/-- Reads an import. -/
def decode : Value -> Decoded ImportSpec
  | .object es =>
    let kind : Value -> Decoded ImportKind
      | .str s => match ImportKind.ofWord? s with
        | some k => .value k
        | none => .fail .unknownChoice
      | _ => .fail .unknownChoice
    let optionalText (name : String) : Decoded (Option String) :=
      Decode.field es [name] (.value none) (Decode.optional Decode.text)
    (fun kind source imported localName => { kind, source, imported, localName }) <$>
      Decode.required es ["kind"] kind <*> Decode.required es ["source"] Decode.text <*>
      optionalText "imported" <*> optionalText "local"
  | _ => .fail .modelType

/-- An import as an object. -/
def toValue (i : ImportSpec) : Value :=
  .object [("kind", .str i.kind.word), ("source", .str i.source),
    ("imported", .ofText? i.imported), ("local", .ofText? i.localName)]

end ImportSpec

namespace Resolution

/-- The element of nodes that nothing knows. -/
def fallbackElement : String := "div"

/-- The resolution of a node that nothing knows, with its report. -/
def unknown (code message suggestion : String) (path : String) (adapterId : Option String) :
    Resolution :=
  { element := fallbackElement, adapterId, fallback := true,
    diagnostics := [{ code, reporter := .adapter, message, path := some path,
                      suggestion := some suggestion }] }

/-- A resolution as an object. -/
def toValue (r : Resolution) : Value :=
  .object [("element", .str r.element), ("imports", .list (r.imports.map ImportSpec.toValue)),
    ("diagnostics", .list (r.diagnostics.map Diagnostic.toValue)),
    ("omit_props", .list (r.omitProps.map .str)), ("adapter_id", .ofText? r.adapterId),
    ("fallback", .bool r.fallback)]

end Resolution

/-- The elements that never have children. -/
def voidElements : List String :=
  ["area", "base", "br", "col", "embed", "hr", "img", "input", "link", "meta", "source", "track",
    "wbr"]

end ViewDoc
