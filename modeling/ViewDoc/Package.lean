import ViewDoc.Text.Split
import ViewDoc.Value.Entries
/-!
Packages behind imports: the name of the package that a specifier belongs to, and where the import
comes from under a dependency strategy.
-/

set_option autoImplicit false

namespace ViewDoc

/-- Where packages come from: the workspace, a package manager, or a server of modules. -/
inductive DependencyStrategy where
  | workspace
  | npm
  | esmSh
  deriving DecidableEq, Repr, Inhabited

/-- A resolved import. -/
structure PackageImport where
  source : String
  package : Option String := none
  version : Option String := none
  declared : Bool := false
  deriving DecidableEq, Repr

namespace DependencyStrategy

/-- The word for a strategy. -/
def word : DependencyStrategy -> String
  | .workspace => "workspace"
  | .npm => "npm"
  | .esmSh => "esm-sh"

/-- The strategy that a word names. -/
def ofWord? : String -> Option DependencyStrategy
  | "workspace" => some .workspace
  | "npm" => some .npm
  | "esm-sh" => some .esmSh
  | _ => none

end DependencyStrategy

namespace PackageImport

/-- The server of modules that is used unless another is named. -/
def defaultServer : String := "https://esm.sh"

private def startsWith (s : String) (stem : String) : Bool :=
  stem.toList.isPrefixOf s.toList

/-- Whether a specifier names a package, rather than a file or an address. -/
def isBare (source : String) : Bool :=
  !(startsWith source "." || startsWith source "/" || startsWith source "http://" ||
    startsWith source "https://")

/-- The name of the package that a bare specifier belongs to; a scope and a name count as one. -/
def packageName? (source : String) : Option String :=
  if !isBare source then none
  else
    let segments := Text.split '/' source
    if startsWith source "@" then some ("/".intercalate (segments.take 2)) else segments.head?

/-- Resolves a specifier under a strategy with a table of versions. -/
def resolve (source : String) (strategy : DependencyStrategy) (server : String)
    (versions : List (String × String)) : PackageImport :=
  match packageName? source with
  | none => { source }
  | some package =>
    let version := if package = "" then none else Entries.get? versions package
    match strategy with
    | .esmSh =>
      let base := String.ofList (server.toList.reverse.dropWhile (· == '/')).reverse
      let pinned := match version.filter (· ≠ "") with
        | some v => package ++ "@" ++ v
        | none => package
      let rest := String.ofList (source.toList.drop package.toList.length)
      { source := base ++ "/" ++ pinned ++ rest, package, version }
    | _ => { source, package, version, declared := true }

end PackageImport

end ViewDoc
