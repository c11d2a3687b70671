import ViewDoc.Bundle.Basic
import ViewDoc.Tsx.Module
/-!
Bundles of documents: the component with its stylesheets, or a project around the generated
component, with a package manifest, a page, settings of the type checker and the bundler, and the
module that mounts the component.
-/

set_option autoImplicit false

namespace ViewDoc.Project

/-- The path of the component in a project. -/
def componentPath : String := "src/App.tsx"

/-- Runs of characters that a package name does not have become one hyphen each; `open_` tells that
the run before has its hyphen. -/
private def hyphenated (open_ : Bool) : List Char -> List Char
  | [] => []
  | c :: rest =>
    if ('a' ≤ c && c ≤ 'z') || Text.isAsciiDigit c || c == '.' || c == '_' || c == '-' then
      c :: hyphenated false rest
    else if open_ then hyphenated true rest
    else '-' :: hyphenated true rest

/-- The package name of a component. -/
def packageName (component : String) : String :=
  let isMark (c : Char) : Bool := c == '-' || c == '.' || c == '_'
  let name := Text.trimWhere isMark (hyphenated false (Text.lower component).toList)
  if name.isEmpty then "mdr-app" else .ofList name

/-- The version of React in a project. -/
def reactVersion : String := "^18.3.1"

private def texts (es : List (String × String)) : Value :=
  .object (es.map fun e => (e.1, .str e.2))

/-- The dependencies of a project: React, and what the component imports, sorted. -/
def dependencies (m : Tsx.Module) : List (String × String) :=
  let sorted := m.dependencies.mergeSort fun a b => a.1 ≤ b.1
  sorted.foldl (fun acc e => if Entries.has acc e.1 then acc else acc ++ [e])
    [("react", reactVersion), ("react-dom", reactVersion)]

/-- The package manifest. -/
def manifest (m : Tsx.Module) : Value :=
  .object [("name", .str (packageName m.name)), ("private", .bool true),
    ("version", .str "0.1.0"), ("type", .str "module"),
    ("scripts", texts [("dev", "vite"), ("build", "tsc && vite build"),
      ("preview", "vite preview")]),
    ("dependencies", texts (dependencies m)),
    ("devDependencies", texts [("@types/react", "^18.3.12"), ("@types/react-dom", "^18.3.1"),
      ("@vitejs/plugin-react", "^4.3.3"), ("typescript", "^5.6.3"), ("vite", "^5.4.10")])]

/-- The page that loads the project. -/
def page (title : String) : String :=
  "\n".intercalate
    ["<!DOCTYPE html>", "<html lang=\"en\">", "  <head>", "    <meta charset=\"UTF-8\" />",
      "    <meta name=\"viewport\" content=\"width=device-width, initial-scale=1.0\" />",
      "    <title>" ++ title ++ "</title>", "  </head>", "  <body>", "    <div id=\"root\"></div>",
      "    <script type=\"module\" src=\"/src/main.tsx\"></script>", "  </body>", "</html>", ""]

/-- The settings of the type checker. -/
def typeSettings : Value :=
  let compilerOptions : Entries :=
    [("target", .str "ES2020"), ("useDefineForClassFields", .bool true),
      ("lib", .list [.str "ES2020", .str "DOM", .str "DOM.Iterable"]), ("module", .str "ESNext"),
      ("skipLibCheck", .bool true), ("moduleResolution", .str "Bundler"),
      ("allowImportingTsExtensions", .bool true), ("resolveJsonModule", .bool true),
      ("isolatedModules", .bool true), ("noEmit", .bool true), ("jsx", .str "react-jsx"),
      ("strict", .bool false)]
  .object [("compilerOptions", .object compilerOptions), ("include", .list [.str "src"])]

/-- The settings of the bundler. -/
def bundlerSettings : String :=
  "\n".intercalate
    ["import \x7b defineConfig \x7d from 'vite';", "import react from '@vitejs/plugin-react';", "",
      "export default defineConfig(\x7b", "  plugins: [react()],", "\x7d);", ""]

/-- The module that mounts the component. -/
def entryModule : String :=
  "\n".intercalate
    ["import React from 'react';", "import ReactDOM from 'react-dom/client';",
      "import App from './App';", "",
      "ReactDOM.createRoot(document.getElementById('root')!).render(", "  <React.StrictMode>",
      "    <App />", "  </React.StrictMode>", ");", ""]

/-- The files of a project by their paths. A stylesheet takes the place of a file at its path. -/
def files (m : Tsx.Module) : List (String × String) :=
  Entries.merge
    [("package.json", Json.write .indented (manifest m) ++ "\n"), ("index.html", page m.name),
      ("tsconfig.json", Json.write .indented typeSettings ++ "\n"),
      ("vite.config.ts", bundlerSettings), ("src/main.tsx", entryModule), (componentPath, m.text)]
    (m.stylesheets.map fun s => ("src/" ++ s.path, s.content))

end ViewDoc.Project

namespace ViewDoc.Bundle

/-- The path of the entry. -/
def entryPath (m : Tsx.Module) : BundleKind -> String
  | .project => Project.componentPath
  | _ => m.name ++ ".tsx"

/-- The files of a bundle by their paths. A stylesheet takes the place of a file at its path. -/
def filesOf (m : Tsx.Module) : BundleKind -> List (String × String)
  | .project => Project.files m
  | kind => Entries.merge [(entryPath m kind, m.text)]
      (m.stylesheets.map fun s => (s.path, s.content))

/-- The bundle of a module. -/
def ofModule (m : Tsx.Module) (kind : BundleKind) : Bundle :=
  { kind, entry := entryPath m kind, diagnostics := m.diagnostics,
    files := (filesOf m kind).map fun f => .ofContent f.1 f.2 }

/-- The bundle of a document in canonical form. -/
def ofDocument (source : Normalized) (kind : BundleKind) (options : Tsx.Options) :
    Except Fault Bundle :=
  (Tsx.Module.generate source options).map fun m => ofModule m kind

end ViewDoc.Bundle
