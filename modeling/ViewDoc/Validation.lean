import ViewDoc.Canonical.Build
import ViewDoc.Scope.Data
/-!
Validation of documents: issues with ids and types, with data and list declarations, and with
values that carry several reference tags. Each issue points into the document.
-/

set_option autoImplicit false

namespace ViewDoc

/-- An issue at a place of the document. -/
structure Issue where
  code : String
  message : String
  path : String
  severity : Severity := .error
  deriving DecidableEq, Repr, Inhabited

/-- An issue as an object. -/
def Issue.toValue (i : Issue) : Value :=
  .object [("code", .str i.code), ("message", .str i.message), ("path", .str i.path),
    ("severity", .str i.severity.word)]

/-- The upgraded document with its issues, and the reports of its canonical form. -/
structure ValidationReport where
  document : Document
  issues : List Issue
  diagnostics : List Diagnostic
  deriving Repr

namespace Validation

/-- A text that may name a loop variable: a letter, low line or dollar sign, then also digits and
hyphens, and perhaps one line break at the end. -/
def isAlias (s : String) : Bool :=
  let isStart (c : Char) : Bool := Text.isAsciiLetter c || c == '_' || c == '$'
  let isNext (c : Char) : Bool := isStart c || Text.isAsciiDigit c || c == '-'
  match s.toList with
  | [] => false
  | c :: rest =>
    isStart c && (rest.all isNext || (rest.getLast? == some '\n' && rest.dropLast.all isNext))

/-- The issue with an object that carries several reference tags. -/
def ambiguous (path : String) (tags : List String) : Issue :=
  ⟨"MIR_VALUE_REF_AMBIGUOUS",
    "Value carries several reference tags (" ++ ", ".intercalate tags ++
      ") and is treated as a literal.", path, .error⟩

mutual

/-- The issues with objects that carry several reference tags, at any depth of a value. -/
def refIssues (path : String) : Value -> List Issue
  | .object es =>
    (if 1 < (Ref.tagsIn (.object es)).length then [ambiguous path (Ref.tagsIn (.object es))]
      else []) ++ refIssuesOfEntries path es
  | .list items => refIssuesOfItems path 0 items
  | _ => []

/-- The issues in entries. -/
def refIssuesOfEntries (path : String) : List (String × Value) -> List Issue
  | [] => []
  | (k, v) :: rest => refIssues (path ++ "/" ++ k) v ++ refIssuesOfEntries path rest

/-- The issues in list items, numbered from `i`. -/
def refIssuesOfItems (path : String) (i : Nat) : List Value -> List Issue
  | [] => []
  | v :: rest => refIssues (path ++ "/" ++ Text.ofNat i) v ++ refIssuesOfItems path (i + 1) rest

end

/-- An issue, if there is one. -/
def issueIf (broken : Bool) (code message path : String) : List Issue :=
  if broken then [⟨code, message, path, .error⟩] else []

/-- The issues with a data declaration. -/
def dataIssues (path : String) (d : DataDecl) : List Issue :=
  issueIf (!d.pick.isNull && d.pick.word?.isNone) "MIR_DATA_PICK_INVALID"
    "data.pick must be a non-empty string." (path ++ "/pick") ++
  issueIf (!d.source.isNull && !Ref.isSource d.source) "MIR_DATA_SOURCE_INVALID"
    "data.source must be a single-key value reference other than $index." (path ++ "/source") ++
  issueIf (!d.extend.isNull && !d.extend.isObject) "MIR_DATA_EXTEND_INVALID"
    "data.extend must be an object." (path ++ "/extend") ++
  refIssues (path ++ "/source") d.source ++ refIssues (path ++ "/value") d.value ++
  refIssues (path ++ "/mock") d.mock ++ refIssues (path ++ "/extend") d.extend

/-- The issue with the name for a loop variable, if it is given and names none. -/
def aliasIssue (path key : String) (v : Value) : List Issue :=
  let valid := match v with
    | .null => true
    | .str s => isAlias s
    | _ => false
  issueIf (!valid) "MIR_LIST_ALIAS_INVALID" ("list." ++ key ++ " must be a valid identifier.")
    (path ++ "/" ++ key)

/-- Whether the node for an empty list is given and not among the ids. -/
def emptyNodeMissing (ids : List String) (v : Value) : Bool :=
  v.isTruthy &&
    match v with
    | .str s => !ids.contains s
    | _ => true

/-- The issues with a list declaration in a document with the given ids. -/
def listIssues (ids : List String) (path : String) (d : ListDecl) : List Issue :=
  issueIf (!d.source.isNull && !Ref.isSource d.source) "MIR_LIST_SOURCE_INVALID"
    "list.source must be a single-key value reference other than $index." (path ++ "/source") ++
  aliasIssue path "itemAs" d.itemAs ++ aliasIssue path "indexAs" d.indexAs ++
  issueIf (!d.keyBy.isNull && !d.keyBy.isText) "MIR_LIST_KEYBY_INVALID"
    "list.keyBy must be a string." (path ++ "/keyBy") ++
  issueIf (!d.arrayField.isNull && !d.arrayField.isText) "MIR_LIST_ARRAY_FIELD_INVALID"
    "list.arrayField must be a string." (path ++ "/arrayField") ++
  issueIf (emptyNodeMissing ids d.emptyNodeId) "MIR_LIST_EMPTY_NODE_NOT_FOUND"
    ("list.emptyNodeId '" ++ d.emptyNodeId.display ++ "' does not match any node.")
    (path ++ "/emptyNodeId")

/-- The issue with the id of a node, given the ids seen before. -/
def idIssues (seen : List String) (path : String) (n : NodeFields) : List Issue :=
  if Text.isBlankText n.id then
    [⟨"MIR_NODE_ID_REQUIRED", "Node id must be a non-empty string.", path ++ "/id", .error⟩]
  else
    issueIf (seen.contains (Text.trim n.id)) "MIR_NODE_ID_DUPLICATE"
      ("Node id '" ++ Text.trim n.id ++ "' is used more than once.") (path ++ "/id")

/-- The issues with a node at a place, given all ids of the document and those seen before. -/
def nodeIssues (ids seen : List String) (path : String) (n : NodeFields) : List Issue :=
  idIssues seen path n ++
  issueIf (Text.isBlankText n.type) "MIR_NODE_TYPE_REQUIRED"
    "Node type must be a non-empty string." (path ++ "/type") ++
  n.aside.flatMap (fun e =>
    issueIf true "MIR_NODE_FIELD_INVALID" ("Node field '" ++ e.1 ++ "' has an invalid shape.")
      (path ++ "/" ++ e.1)) ++
  ((n.data.map (dataIssues (path ++ "/data"))).getD []) ++
  ((n.list.map (listIssues ids (path ++ "/list"))).getD []) ++
  refIssues (path ++ "/text") n.text ++ refIssues (path ++ "/props") (.object n.props) ++
  refIssues (path ++ "/style") (.object n.style) ++ refIssues (path ++ "/events") (.object n.events)

mutual

/-- The nodes of a tree in document order, each with its pointer. -/
def placed (path : String) : Node -> List (String × NodeFields)
  | .node n cs => (path, n) :: placedChildren path 0 cs

/-- The nodes below a node, whose children are numbered from `i`. -/
def placedChildren (path : String) (i : Nat) : List Node -> List (String × NodeFields)
  | [] => []
  | c :: rest =>
    placed (path ++ "/children/" ++ Text.ofNat i) c ++ placedChildren path (i + 1) rest

end

/-- The issues with placed nodes, given all ids of the document and those seen before. -/
def treeIssues (ids seen : List String) : List (String × NodeFields) -> List Issue
  | [] => []
  | (path, n) :: rest =>
    nodeIssues ids seen path n ++ treeIssues ids (Text.trim n.id :: seen) rest

/-- The ids that nodes have, as the author wrote them, without the blank ones. -/
def authoredIds (root : Node) : List String :=
  (root.walk.map fun n => n.value.id).filter fun id => !Text.isBlankText id

/-- The issues with malformed values outside the tree. -/
def documentIssues (d : Document) : List Issue :=
  d.malformedFields.map fun f =>
    let pointer := "/" ++ "/".intercalate f.1
    ⟨"MIR_DOCUMENT_FIELD_INVALID", "Document field '" ++ pointer ++ "' has an invalid shape.",
      pointer, .error⟩

/-- The issues with a document. -/
def issues (d : Document) : List Issue :=
  documentIssues d ++ treeIssues (authoredIds d.root) [] (placed "/ui/root" d.root)

/-- Validates a document. -/
def ofDocument (d : Document) : Except Fault ValidationReport := do
  let document ← d.upgrade
  return ⟨document, issues document, (← document.normalize).diagnostics⟩

/-- Reads a value as a document and validates it. -/
def ofValue (v : Value) : Except Failure ValidationReport := do
  let report ← Failure.ofFault (ofDocument (← Failure.ofDecoded (Document.ofValue v)))
  if Document.hasRoot v then return report
  else
    return { report with issues := [⟨"MIR_DOCUMENT_ROOT_MISSING", "Document has no ui.root object.",
      "/ui/root", .error⟩] }

end Validation

namespace ValidationReport

/-- Whether there are issues. -/
def hasError (r : ValidationReport) : Bool :=
  !r.issues.isEmpty

/-- The issues with a code. -/
def byCode (r : ValidationReport) (code : String) : List Issue :=
  r.issues.filter fun i => i.code == code

/-- A one-line summary. -/
def summary (r : ValidationReport) : String :=
  "ValidationResult(issues=" ++ Text.ofNat r.issues.length ++ ", diagnostics=" ++
    Text.ofNat r.diagnostics.length ++ ")"

end ValidationReport

end ViewDoc
