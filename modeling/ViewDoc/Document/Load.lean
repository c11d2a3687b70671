import ViewDoc.Document.Upgrade
import ViewDoc.Failure
import ViewDoc.Json.Reader
import ViewDoc.Storage.Basic
import ViewDoc.Value.Display
import ViewDoc.Value.Key
/-!
Loading documents from values and files. A value may be a workspace snapshot: an object that holds a
list of documents, of which one page is designated.
-/

set_option autoImplicit false

namespace ViewDoc.Workspace

/-- The type of the documents that are pages. -/
def pageType : Value := .str "mir-page"

/-- Whether an entry is a page. -/
def isPage (entry : Entries) : Bool :=
  Entries.get entry "type" == pageType

/-- Whether the path of an entry is missing, blank or the root. -/
def isAtRoot (entry : Entries) : Bool :=
  let path := Entries.get entry "path"
  let text := if path.isTruthy then Text.trim path.display else ""
  text == "" || text == "/"

private def hasId (entry : Entries) : Bool :=
  (Entries.get entry "id").isTruthy

/-- The id of the designated document: of the first page at the root, else of the first page, else
of the first document. -/
def designatedId (documents : List Entries) : Value :=
  let rootPage := documents.find? fun d => isPage d && isAtRoot d && hasId d
  let page := documents.find? fun d => isPage d && hasId d
  match (rootPage.or page).or documents.head? with
  | some d => Entries.get d "id"
  | none => .null

/-- The content of the first document that has the designated id. -/
def content? (documents : List Entries) : Option Value :=
  let id := designatedId documents
  if id.isNull then none
  else
    (documents.find? fun d => (Entries.get d "id").equal id).map fun d => Entries.get d "content"

/-- The documents of a snapshot. -/
def documents? : Value -> Option (List Entries)
  | .object es => (Entries.get es "documents").asList?.map fun items => items.filterMap Value.asObject?
  | _ => none

/-- The value that a document is read from: the snapshot's designated page, or the value itself. -/
def unwrap (v : Value) : Value :=
  if Document.hasRoot v then v else ((documents? v).bind content?).getD v

end ViewDoc.Workspace

namespace ViewDoc.Document

/-- Reads a document or a snapshot and upgrades what it finds. -/
def resolve (v : Value) : Except Failure Document := do
  Failure.ofFault (← Failure.ofDecoded (ofValue (Workspace.unwrap v))).upgrade

private def loadError (file message : String) : Failure :=
  .reported ⟨.document, message, some { source := some file }⟩

/-- Reads a document from the text of a file. -/
def ofText (file text : String) : Except Failure Document :=
  match Json.read text with
  | .error .malformed => .error (loadError file "Invalid JSON")
  | .error .longNumeral => .error (.fault (.numeral ""))
  | .ok (.object es) => resolve (.object es)
  | .ok _ => .error (loadError file "Document must be a JSON object")

/-- Reads a document from the file that a path leads to from a base. -/
def load (s : Storage) (base : Location) (path : String) : Except Failure Document :=
  let shown := Location.spelling path
  if path.toList.contains '\x00' then .error (.fault .nullInPath)
  else
    match s.readPath base path with
    | .error _ => .error (loadError shown "Cannot read document")
    | .ok bytes =>
      match String.fromUTF8? bytes with
      | none => .error .notText
      | some text => ofText shown text

end ViewDoc.Document
