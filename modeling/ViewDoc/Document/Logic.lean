import ViewDoc.Decode
/-!
The logic of a document: declared props and state, and graphs that are carried along. Malformed
parts are set aside section by section, so that the rest can be used.
-/

set_option autoImplicit false

namespace ViewDoc

/-- A declared prop. The default counts only where one is declared. -/
structure PropDecl where
  type : String := "any"
  description : Option String := none
  default : Option Value := none
  aside : Entries := []
  extras : Entries := []
  deriving DecidableEq, Repr, Inhabited

/-- A declared state variable. -/
structure StateDecl where
  type : String := "any"
  initial : Value := .null
  aside : Entries := []
  extras : Entries := []
  deriving DecidableEq, Repr, Inhabited

/-- Props, state and graphs, with the sections and the entries that were set aside. -/
structure Logic where
  props : List (String × PropDecl) := []
  state : List (String × StateDecl) := []
  graphs : Value := .null
  aside : Entries := []
  asideEntries : List (String × Entries) := []
  extras : Entries := []
  deriving DecidableEq, Repr, Inhabited

/-- Name, description and tags of a document. -/
structure Metadata where
  name : Option String := none
  description : Option String := none
  tags : List String := []
  aside : Entries := []
  extras : Entries := []
  deriving DecidableEq, Repr, Inhabited

/-- An object without the named fields that are null or no text. -/
def withTexts (es : Entries) (names : List String) : Entries :=
  es.filter fun e => !(names.contains e.1 && !e.2.isText)

/-- The record of set-aside fields: the new one, unless it is empty. -/
def asideOf (es more : Entries) : Decoded Entries :=
  if more.isEmpty then Decode.field es ["invalid_fields"] (.value []) Decode.object else .value more

/-- Reads a text that may be absent or null. -/
def optionalText (es : Entries) (name : String) : Decoded (Option String) :=
  Decode.field es [name] (.value none) (Decode.optional Decode.text)

namespace PropDecl

/-- Reads a prop declaration. -/
def decode : Value -> Decoded PropDecl
  | .object es =>
    let kept := withTexts es ["type", "description"]
    let extras := Decode.extras kept [["type"], ["description"], ["default"], ["invalid_fields"]]
    (fun type description aside =>
        { type, description, default := Entries.get? kept "default", aside, extras }) <$>
      Decode.field kept ["type"] (.value "any") Decode.text <*> optionalText kept "description" <*>
      asideOf kept (Decode.wrongShape es Value.isText ["type", "description"])
  | _ => .fail .modelType

/-- A prop declaration as an object, whose entries `shape` selects. -/
def toValue (p : PropDecl) (shape : Entries -> Entries := id) : Value :=
  .object (shape ([("type", .str p.type), ("description", .ofText? p.description),
    ("default", .ofOption p.default)] ++ p.extras))

end PropDecl

namespace StateDecl

/-- Reads a state declaration. -/
def decode : Value -> Decoded StateDecl
  | .object es =>
    let kept := withTexts es ["type"]
    let extras := Decode.extras kept [["type"], ["initial"], ["invalid_fields"]]
    (fun type aside => { type, initial := Entries.get kept "initial", aside, extras }) <$>
      Decode.field kept ["type"] (.value "any") Decode.text <*>
      asideOf kept (Decode.wrongShape es Value.isText ["type"])
  | _ => .fail .modelType

/-- A state declaration as an object, whose entries `shape` selects. -/
def toValue (s : StateDecl) (shape : Entries -> Entries := id) : Value :=
  .object (shape ([("type", .str s.type), ("initial", s.initial)] ++ s.extras))

end StateDecl

namespace Logic

/-- The entries of a section that are no objects. -/
def droppedEntries (es : Entries) (name : String) : List (String × Entries) :=
  match Entries.get? es name with
  | some (.object members) =>
    let dropped := members.filter fun e => !e.2.isObject
    if dropped.isEmpty then [] else [(name, dropped)]
  | _ => []

/-- A section without the entries that are no objects. -/
def keptSection (es : Entries) (name : String) : Value :=
  match Entries.get? es name with
  | some (.object members) => .object (members.filter fun e => e.2.isObject)
  | _ => .object []

/-- Reads the entries of a section that are objects. -/
def decodeSection {α : Type} (es : Entries) (name : String)
    (decode : Value -> Decoded α) : Decoded (List (String × α)) :=
  (Decode.objectOf decode (keptSection es name)).under (.key name)

/-- Reads the logic of a document. -/
def decode : Value -> Decoded Logic
  | .object es =>
    let aside := Decode.wrongShape es Value.isObject ["props", "state"]
    let dropped := droppedEntries es "props" ++ droppedEntries es "state"
    let asideEntries : Decoded (List (String × Entries)) :=
      if dropped.isEmpty then
        Decode.field es ["invalid_entries"] (.value []) (Decode.objectOf Decode.object)
      else .value dropped
    let extras := Decode.extras es
      [["props"], ["state"], ["graphs"], ["invalid_fields"], ["invalid_entries"]]
    (fun props state aside asideEntries =>
        { props, state, graphs := Entries.get es "graphs", aside, asideEntries, extras }) <$>
      decodeSection es "props" PropDecl.decode <*> decodeSection es "state" StateDecl.decode <*>
      asideOf es aside <*> asideEntries
  | _ => .fail .modelType

/-- The logic as an object; `shape` selects the entries of every record. -/
def toValue (l : Logic) (shape : Entries -> Entries := id) : Value :=
  .object (shape ([("props", .object (l.props.map fun p => (p.1, p.2.toValue shape))),
    ("state", .object (l.state.map fun s => (s.1, s.2.toValue shape))), ("graphs", l.graphs)] ++
    l.extras))

end Logic

namespace Metadata

/-- The tags that are set aside: all of them when they are no list, else those that are no text. -/
def asideTags (es : Entries) : Entries :=
  match Entries.get? es "tags" with
  | none => []
  | some .null => []
  | some (.list items) =>
    if items.all Value.isText then [] else [("tags", .list (items.filter fun v => !v.isText))]
  | some v => [("tags", v)]

private def keptTags (es : Entries) : List String :=
  match Entries.get es "tags" with
  | .list items => items.filterMap Value.asText?
  | _ => []

theorem keptTags_eq {es : Entries} {items : List Value}
    (found : Entries.get? es "tags" = some (.list items)) :
    keptTags es = items.filterMap Value.asText? := by
  have read : Entries.get es "tags" = .list items := congrArg (·.getD Value.null) found
  rw [keptTags, read]

/-- Reads the metadata of a document. -/
def decode : Value -> Decoded Metadata
  | .object es =>
    let kept := withTexts es ["name", "description"]
    let aside := Decode.wrongShape es Value.isText ["name", "description"] ++ asideTags es
    let extras := Decode.extras kept [["name"], ["description"], ["tags"], ["invalid_fields"]]
    (fun name description aside => { name, description, tags := keptTags es, aside, extras }) <$>
      optionalText kept "name" <*> optionalText kept "description" <*> asideOf kept aside
  | _ => .fail .modelType

/-- The metadata as an object, whose entries `shape` selects. -/
def toValue (m : Metadata) (shape : Entries -> Entries := id) : Value :=
  .object (shape ([("name", .ofText? m.name), ("description", .ofText? m.description),
    ("tags", .list (m.tags.map .str))] ++ m.extras))

end Metadata

end ViewDoc
