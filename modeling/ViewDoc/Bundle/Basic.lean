import ViewDoc.Diagnostic
import ViewDoc.Storage.Basic
/-!
Bundles: generated files with their paths, one of which is the entry.
-/

set_option autoImplicit false

namespace ViewDoc

/-- What a bundle is: a whole project, a component, or the component of a node graph. -/
inductive BundleKind where
  | project
  | component
  | nodeGraph
  deriving DecidableEq, Repr, Inhabited

/-- A file of a bundle. -/
structure BundleFile where
  path : String
  content : String
  language : String := "text"
  deriving DecidableEq, Repr, Inhabited

/-- A bundle. -/
structure Bundle where
  kind : BundleKind
  entry : String
  files : List BundleFile := []
  diagnostics : List Diagnostic := []
  deriving DecidableEq, Repr, Inhabited

namespace BundleKind

/-- The word for a kind. -/
def word : BundleKind -> String
  | .project => "project"
  | .component => "component"
  | .nodeGraph => "nodegraph"

/-- The kind that a word names. -/
def ofWord? : String -> Option BundleKind
  | "project" => some .project
  | "component" => some .component
  | "nodegraph" => some .nodeGraph
  | _ => none

end BundleKind

namespace BundleFile

/-- The languages of files, by the ending of their names. -/
def languages : List (String × String) :=
  [(".tsx", "typescript"), (".ts", "typescript"), (".json", "json"), (".css", "css"),
    (".html", "html")]

/-- The language of a file. -/
def languageOf (path : String) : String :=
  (languages.lookup (Location.ending path)).getD "text"

/-- A file whose path tells its language. -/
def ofContent (path content : String) : BundleFile :=
  { path, content, language := languageOf path }

/-- A file as an object. -/
def toValue (f : BundleFile) : Value :=
  .object [("path", .str f.path), ("content", .str f.content), ("language", .str f.language)]

/-- Reads a file. -/
def decode : Value -> Decoded BundleFile
  | .object es =>
    (fun path content language => { path, content, language }) <$>
      Decode.required es ["path"] Decode.text <*> Decode.required es ["content"] Decode.text <*>
      Decode.field es ["language"] (.value "text") Decode.text
  | _ => .fail .modelType

end BundleFile

namespace Bundle

/-- The first file at a path. -/
def file? (b : Bundle) (path : String) : Option BundleFile :=
  b.files.find? fun f => f.path == path

/-- A bundle as an object. -/
def toValue (b : Bundle) : Value :=
  .object [("type", .str b.kind.word), ("entryFilePath", .str b.entry),
    ("files", .list (b.files.map BundleFile.toValue)),
    ("diagnostics", .list (b.diagnostics.map Diagnostic.toValue))]

/-- Reads a bundle. -/
def decode : Value -> Decoded Bundle
  | .object es =>
    (fun kind entry files diagnostics => { kind, entry, files, diagnostics }) <$>
      Decode.required es ["type"] (Decode.choice BundleKind.ofWord?) <*>
      Decode.required es ["entryFilePath", "entry_file_path"] Decode.text <*>
      Decode.field es ["files"] (.value []) (Decode.list BundleFile.decode) <*>
      Decode.field es ["diagnostics"] (.value []) (Decode.list Diagnostic.decode)
  | _ => .fail .modelType

end Bundle

end ViewDoc
