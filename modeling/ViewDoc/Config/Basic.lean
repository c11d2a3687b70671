import ViewDoc.Bundle.Basic
import ViewDoc.Failure
import ViewDoc.Package
import ViewDoc.Tsx.Module
import ViewDoc.View.Session
/-!
Settings: how components are generated, how views are rendered, and how deep references are
resolved. Every setting has a default, and there are no others.
-/

set_option autoImplicit false

namespace ViewDoc

/-- Settings for generated components and bundles. -/
structure CodegenSettings where
  name : Option String := none
  strategy : DependencyStrategy := .workspace
  server : String := PackageImport.defaultServer
  versions : List (String × String) := []
  kind : BundleKind := .project
  deriving DecidableEq, Repr, Inhabited

/-- Settings for rendered views. -/
structure RenderSettings where
  strict : Bool := false
  needsSelection : Bool := false
  takesParams : Bool := true
  deriving DecidableEq, Repr, Inhabited

/-- All settings. -/
structure Config where
  codegen : CodegenSettings := {}
  render : RenderSettings := {}
  maxDepth : Int := Value.defaultDepth
  deriving DecidableEq, Repr, Inhabited

namespace CodegenSettings

private def fields : List (List String) :=
  [["component_name"], ["dependency_strategy"], ["esm_sh_base_url"], ["package_versions"],
    ["export_type"]]

private def ofEntries (es : Entries) : Decoded CodegenSettings :=
  (fun name strategy server versions kind => { name, strategy, server, versions, kind }) <$>
    Decode.field es ["component_name"] (.value none) (Decode.optional Decode.text) <*>
    Decode.field es ["dependency_strategy"] (.value .workspace)
      (Decode.choice DependencyStrategy.ofWord?) <*>
    Decode.field es ["esm_sh_base_url"] (.value PackageImport.defaultServer) Decode.text <*>
    Decode.field es ["package_versions"] (.value []) (Decode.objectOf Decode.text) <*>
    Decode.field es ["export_type"] (.value .project) (Decode.choice BundleKind.ofWord?)

/-- Reads the section for code generation. -/
def decode : Value -> Decoded CodegenSettings :=
  Decode.closed fields ofEntries

/-- The settings that options are made of, by their names. -/
def optionEntries (c : CodegenSettings) : Entries :=
  [("component_name", .ofText? c.name), ("dependency_strategy", .str c.strategy.word),
    ("esm_sh_base_url", .str c.server),
    ("package_versions", .object (c.versions.map fun v => (v.1, .str v.2)))]

/-- The settings with the bundle kind, as an object. -/
def toValue (c : CodegenSettings) : Value :=
  .object (c.optionEntries ++ [("export_type", .str c.kind.word)])

/-- The options with overrides, of which null says nothing. There is no overriding what is no
option. -/
def overridden (c : CodegenSettings) (overrides : Entries) : Except Fault Entries :=
  let given := overrides.filter fun e => !e.2.isNull
  match given.find? fun e => e.1 ≠ "registry" && !Entries.has c.optionEntries e.1 with
  | some e => .error (.unknownSetting e.1)
  | none => .ok (Entries.merge c.optionEntries given)

/-- The options for a component, under a name of its own if one is given. -/
def options (c : CodegenSettings) (name : Option String) : Tsx.Options :=
  { name := name.or c.name, strategy := c.strategy, server := c.server, versions := c.versions }

end CodegenSettings

namespace RenderSettings

/-- Whether a word names the strict mode of rendering or the tolerant one. -/
def modeOfWord? : String -> Option Bool
  | "strict" => some true
  | "tolerant" => some false
  | _ => none

private def fields : List (List String) :=
  [["render_mode"], ["require_selection_before_events"], ["allow_external_props"]]

private def ofEntries (es : Entries) : Decoded RenderSettings :=
  (fun strict needsSelection takesParams => { strict, needsSelection, takesParams }) <$>
    Decode.field es ["render_mode"] (.value false) (Decode.choice modeOfWord?) <*>
    Decode.field es ["require_selection_before_events"] (.value false) Decode.flag <*>
    Decode.field es ["allow_external_props"] (.value true) Decode.flag

/-- Reads the section for rendering. -/
def decode : Value -> Decoded RenderSettings :=
  Decode.closed fields ofEntries

/-- The settings by their names. -/
def entries (r : RenderSettings) : Entries :=
  [("render_mode", .str (if r.strict then "strict" else "tolerant")),
    ("require_selection_before_events", .bool r.needsSelection),
    ("allow_external_props", .bool r.takesParams)]

end RenderSettings

namespace Config

private def decodeResolver : Value -> Decoded Int :=
  Decode.closed [["max_depth"]] fun es =>
    Decode.field es ["max_depth"] (.value Value.defaultDepth) (Decode.wholeFrom 1)

/-- Reads all settings. -/
def decode : Value -> Decoded Config :=
  Decode.closed [["codegen"], ["render"], ["resolver"]] fun es =>
    (fun codegen render maxDepth => { codegen, render, maxDepth }) <$>
      Decode.field es ["codegen"] (.value {}) CodegenSettings.decode <*>
      Decode.field es ["render"] (.value {}) RenderSettings.decode <*>
      Decode.field es ["resolver"] (.value Value.defaultDepth) decodeResolver

/-- All settings as an object. -/
def toValue (c : Config) : Value :=
  .object [("codegen", c.codegen.toValue), ("render", .object c.render.entries),
    ("resolver", .object [("max_depth", .int c.maxDepth)])]

/-- The settings that rendering goes by, by their names. -/
def renderEntries (c : Config) : Entries :=
  c.render.entries ++ [("max_depth", .int c.maxDepth)]

/-- A session on a document under these settings, with given params. -/
def session (c : Config) (source : Normalized) (given : Entries) : Session :=
  let s := Session.ofNormalized source (if c.render.takesParams then given else [])
  { s with needsSelection := c.render.needsSelection,
           stage.settings := { strict := c.render.strict, maxDepth := c.maxDepth } }

end Config

end ViewDoc
