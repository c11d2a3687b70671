import ViewDoc.Canonical.Build
import ViewDoc.Package
import ViewDoc.Tsx.Element
/-!
Generated modules: one function component for a document, with its imports, its props and its state.
-/

set_option autoImplicit false

namespace ViewDoc.Tsx

/-- How a component is generated. -/
structure Options where
  name : Option String := none
  registry : ComponentRegistry := .standard
  icons : IconRegistry := .standard
  strategy : DependencyStrategy := .workspace
  server : String := PackageImport.defaultServer
  versions : List (String × String) := []

/-- A parameter of a component. -/
structure Parameter where
  name : String
  type : String
  default : Option Value := none
  deriving Repr, Inhabited

/-- A state variable of a component. -/
structure StateVariable where
  name : String
  initial : Value
  deriving Repr, Inhabited

/-- The module of a component. -/
structure Module where
  name : String
  imports : List (ImportSpec × PackageImport)
  stylesheets : List Stylesheet
  parameters : List Parameter
  state : List StateVariable
  root : Markup
  diagnostics : List Diagnostic
  deriving Repr

/-- An import statement. -/
inductive ImportStatement where
  | named (source : String) (bindings : List String)
  | whole (source name : String)
  | default (source name : String)
  deriving DecidableEq, Repr

namespace ImportStatement

/-- The binding of a named import. -/
def bindingText (i : ImportSpec) : String :=
  let imported := i.imported.filter (· ≠ "")
  match imported, i.localName.filter (· ≠ "") with
  | some exported, some name => if exported = name then exported else exported ++ " as " ++ name
  | some exported, none => exported
  | none, _ => i.binding

/-- Adds a binding to the named import of a module. -/
def addNamed (source binding : String) : List ImportStatement -> List ImportStatement
  | [] => [.named source [binding]]
  | .named known bindings :: rest =>
    if known = source then
      .named known (if bindings.contains binding then bindings else bindings ++ [binding]) :: rest
    else .named known bindings :: addNamed source binding rest
  | s :: rest => s :: addNamed source binding rest

/-- Adds an import that is resolved to a module. -/
def add (statements : List ImportStatement) (i : ImportSpec × PackageImport) :
    List ImportStatement :=
  match i.1.kind with
  | .named => addNamed i.2.source (bindingText i.1) statements
  | .whole => statements ++ [.whole i.2.source i.1.binding]
  | .default => statements ++ [.default i.2.source i.1.binding]

/-- The text of an import statement. -/
def text : ImportStatement -> String
  | .named source bindings =>
    "import " ++ braced (" " ++ ", ".intercalate bindings ++ " ") ++ " from '" ++ source ++ "';"
  | .whole source name => "import * as " ++ name ++ " from '" ++ source ++ "';"
  | .default source name => "import " ++ name ++ " from '" ++ source ++ "';"

end ImportStatement

namespace Declared

/-- The parameters that a node refers to. -/
def paramsOf (n : CanonicalFields) : Except Fault (List String) := do
  let values := [n.text, .object n.style, .object n.props] ++
    n.events.map (fun e => .object e.2.params) ++ (n.data.map fun d => d.toValue).toList ++
    (n.list.map fun l => l.source).toList
  return (← values.mapM Value.paramNames).flatten

/-- The names that the body of a component binds. -/
def reservedNames (d : CanonicalDocument) (l : Logic) : Except Fault (List String) := do
  let referred := (← d.root.walk.mapM fun t => paramsOf t.value).flatten
  let state := l.state.map fun s => identifier s.1
  return l.props.map (fun p => identifier p.1) ++ state ++ state.map setter ++
    referred.map identifier

/-- What the component of a document declares. -/
def ofDocument (d : CanonicalDocument) : Except Fault Declared := do
  let l := d.logic.getD {}
  return { props := l.props, state := l.state, reserved := ← reservedNames d l }

end Declared

namespace Module

/-- The name of components whose document has none. -/
def defaultName : String := "MdrComponent"

/-- The name of a component: the one asked for, else that of the document. -/
def nameOf (requested : Option String) (metadata : Option Metadata) : String :=
  match requested.filter (· ≠ "") with
  | some name => identifier name
  | none =>
    let written := ((metadata.bind Metadata.name).getD "").toList.filter fun c => !Text.isBlank c
    if written.isEmpty then defaultName else identifier (.ofList written)

/-- The parameters of a component: the declared props, and what is read without a declaration. -/
def parametersOf (names : Declared) (undeclared : List String) : List Parameter :=
  let declared (p : String × PropDecl) : Parameter :=
    ⟨identifier p.1, typeText p.2.type, p.2.default.filter fun v => Json.spells v⟩
  names.props.map declared ++ undeclared.map fun name => ⟨identifier name, "any", none⟩

/-- The state variables of a component. What JSON does not spell starts as null. -/
def stateOf (names : Declared) : List StateVariable :=
  names.state.map fun s =>
    ⟨identifier s.1, if Json.spells s.2.initial then s.2.initial else .null⟩

/-- The module of a document, with the reports on the making of both. -/
def generate (source : Normalized) (options : Options) : Except Fault Module := do
  let d := source.document
  let names ← Declared.ofDocument d
  let b : Blueprint := ⟨d, names, options.registry, options.icons⟩
  let (root, notes) ← Draft.node b (d.root.size + 1) {} d.root
  return { name := nameOf options.name d.metadata, root, stylesheets := Note.stylesheets notes,
           imports := (Note.importSpecs notes).map fun i =>
             (i, PackageImport.resolve i.source options.strategy options.server options.versions),
           parameters := parametersOf names (Note.undeclaredParams notes), state := stateOf names,
           diagnostics := source.diagnostics ++ Note.reports [] notes }

/-- The packages that the imports of a module belong to, each with its version. -/
def dependencies (m : Module) : List (String × String) :=
  m.imports.foldl (fun acc i =>
    match i.2.package with
    | some package =>
      if i.2.declared && package ≠ "" then
        Entries.set acc package ((i.2.version.filter (· ≠ "")).getD "latest")
      else acc
    | none => acc) []

/-- The import statements of a module. -/
def importLines (m : Module) : List String :=
  (if m.state.isEmpty then "import React from 'react';"
    else "import React, \x7b useState \x7d from 'react';") ::
    (m.imports.foldl ImportStatement.add []).map ImportStatement.text ++
    m.stylesheets.map fun s => "import './" ++ s.path ++ "';"

private def interfaceLines (m : Module) : List String :=
  ("interface " ++ m.name ++ "Props \x7b") ::
    m.parameters.map (fun p => lineAt 1 (p.name ++ "?: " ++ p.type ++ ";")) ++ ["\x7d"]

private def parameterText (p : Parameter) : String :=
  match p.default with
  | some v => p.name ++ " = " ++ Json.write .plainLine v
  | none => p.name

private def signature (m : Module) : String :=
  "export default function " ++ m.name ++
    (if m.parameters.isEmpty then "()"
      else
        "(" ++ braced (" " ++ ", ".intercalate (m.parameters.map parameterText) ++ " ") ++ ": " ++
          m.name ++ "Props)") ++ " \x7b"

private def stateLine (s : StateVariable) : String :=
  lineAt 1 ("const [" ++ s.name ++ ", " ++ setter s.name ++ "] = useState(" ++
    Json.write .plainLine s.initial ++ ");")

private def bodyLines (m : Module) : List String :=
  signature m :: m.state.map stateLine ++ lineAt 1 "return (" :: m.root.lines 2 ++
    [lineAt 1 ");", "\x7d"]

private def arrayHelper : String :=
  "const asArray = (value: unknown): any[] => (Array.isArray(value) ? value : []);"

/-- The text of a module. -/
def text (m : Module) : String :=
  let sections := [importLines m] ++ (if m.parameters.isEmpty then [] else [interfaceLines m]) ++
    (if m.root.hasLoop then [[arrayHelper]] else []) ++ [bodyLines m]
  "\n\n".intercalate (sections.map fun lines => "\n".intercalate lines) ++ "\n"

end Module

end ViewDoc.Tsx
