import ViewDoc.Component.Resolution
import ViewDoc.Noted
/-!
Drafts: pieces of a generated module together with notes, in order, on what the module needs for
them and on what there is to report.
-/

set_option autoImplicit false

namespace ViewDoc.Tsx

/-- A stylesheet that a document carries along. -/
structure Stylesheet where
  path : String
  content : String
  deriving DecidableEq, Repr, Inhabited

/-- A note on a piece of a module. -/
inductive Note where
  | report (d : Diagnostic)
  /-- A parameter is read that is not declared. -/
  | undeclared (param path : String)
  | imports (specs : List ImportSpec)
  | stylesheet (sheet : Stylesheet)
  deriving Repr, Inhabited

/-- A piece of a module with its notes. -/
abbrev Draft (α : Type) : Type :=
  Noted Note α

namespace Draft

/-- Reports on a document path. -/
def warn (code message path : String) (severity : Severity := .warning) : Draft Unit :=
  Noted.note (.report { code, severity, reporter := .codegen, message, path := some path })

end Draft

namespace Note

/-- The report on a parameter that is not declared. -/
def undeclaredReport (param path : String) : Diagnostic :=
  { code := "CODEGEN_UNDECLARED_PARAM", severity := .info, reporter := .codegen,
    message := "Param '" ++ param ++
      "' is referenced but not declared; declared as an optional any prop.",
    path := some path }

/-- The reports among the notes; an undeclared parameter is reported where it is read first. -/
def reports (seen : List String) : List Note -> List Diagnostic
  | [] => []
  | .report d :: rest => d :: reports seen rest
  | .undeclared param path :: rest =>
    if seen.contains param then reports seen rest
    else undeclaredReport param path :: reports (param :: seen) rest
  | _ :: rest => reports seen rest

/-- The undeclared parameters, in the order in which they are first read. -/
def undeclaredParams (notes : List Note) : List String :=
  notes.foldl (fun acc n => match n with
    | .undeclared param _ => if acc.contains param then acc else acc ++ [param]
    | _ => acc) []

/-- The imports, each once. -/
def importSpecs (notes : List Note) : List ImportSpec :=
  let all := notes.flatMap fun n => match n with
    | .imports specs => specs
    | _ => []
  all.foldl (fun acc i =>
    if acc.any fun known => known.identity == i.identity then acc else acc ++ [i]) []

/-- The stylesheets; of those at one path the first. -/
def stylesheets (notes : List Note) : List Stylesheet :=
  notes.foldl (fun acc n => match n with
    | .stylesheet sheet =>
      if acc.any fun known => known.path == sheet.path then acc else acc ++ [sheet]
    | _ => acc) []

end Note

end ViewDoc.Tsx
