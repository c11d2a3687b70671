import ViewDoc.Bundle.Export
import ViewDoc.Bundle.Write
import ViewDoc.CommandLine.Arguments
import ViewDoc.CommandLine.Console
import ViewDoc.Config.Load
import ViewDoc.Document.Load
import ViewDoc.Log.Journal
import ViewDoc.Route.Match
import ViewDoc.Validation
/-!
The commands: validating a document, printing its canonical form, exporting it as a bundle, rendering
its view, and matching a path against a manifest. Paths are taken from a base directory.
-/

set_option autoImplicit false

namespace ViewDoc.CommandLine

open Run

/-- The version that is printed. -/
def version : String := "0.4.0"

/-- The document of a file. -/
def loadDocument (base : Location) (path : String) : Run Document := do
  orTell (Document.load (← get).storage base path)

/-- Validates a document. Issues are listed, and end the run. -/
def validate (base : Location) (path : String) : Run Unit := do
  let report ← orFault (Validation.ofDocument (← loadDocument base path))
  if report.issues.isEmpty then
    say ("OK " ++ Location.spelling path ++ " (version " ++ report.document.version ++ ")")
  else
    sayTable ⟨"Issues in " ++ Location.lastName path, ["Code", "Path", "Message"],
      report.issues.map fun i => [i.code, i.path, i.message]⟩
    say (Text.ofNat report.issues.length ++ " issue(s)")
    stop (.exit 1)

/-- Prints the canonical form of a document. -/
def printCanonical (base : Location) (path : String) : Run Unit := do
  let n ← orFault (← loadDocument base path).normalize
  put (Json.write .interchange n.document.toBareValue ++ "\n")
  tellDiagnostics n.diagnostics

private def bundleTable (b : Bundle) : Table :=
  ⟨b.kind.word ++ " bundle", ["Path", "Language", "Bytes"],
    b.files.map fun f =>
      [if f.path = b.entry then f.path ++ " (entry)" else f.path, f.language,
        Text.ofNat f.content.utf8ByteSize]⟩

private def writeFiles (base : Location) (b : Bundle) (directory : String) : Run Nat := do
  let w := b.write (← get).storage base directory
  modify fun c => { c with storage := w.storage }
  return (← orTell w.outcome).length

/-- Exports a document: writes the files of its bundle, or lists them. -/
def exportBundle (base : Location) (path : String) (kind : Option BundleKind)
    (output config name : Option String) : Run Unit := do
  let c ← orTell (Config.load (← get).storage base config)
  let d ← loadDocument base path
  let n ← orFault d.normalize
  let b ← orFault (Bundle.ofDocument n (kind.getD c.codegen.kind) (c.codegen.options name))
  match output with
  | some directory =>
    let count ← writeFiles base b directory
    tellDiagnostics b.diagnostics
    say ("Wrote " ++ Text.ofNat count ++ " files to " ++ Location.spelling directory)
  | none =>
    tellDiagnostics b.diagnostics
    sayTable (bundleTable b)

private def givenParams (raws : List String) : Run Entries :=
  match readParams raws with
  | .ok es => pure es
  | .error .noKey => stop (.refused (.malformedParam (" ".intercalate raws)))
  | .error .longNumeral => stop (.stopped (.fault (.numeral "")))

/-- Renders the view of a document. -/
def renderView (base : Location) (path : String) (params : List String) (route : String)
    (preview : Bool) (config : Option String) : Run Unit := do
  let given ← givenParams params
  let c ← orTell (Config.load (← get).storage base config)
  let n ← orFault (← loadDocument base path).normalize
  let s := c.session n given
  let s := { s with stage.path := route, stage.settings.preview := preview }
  let (_, rendering) ← orFault s.render
  put (Json.write .plainIndented rendering.view.toValue ++ "\n")
  tellDiagnostics rendering.diagnostics

/-- The route manifest of a file, if it holds one. -/
def readManifest? (s : Storage) (base : Location) (path : String) : Option RouteManifest := do
  let bytes ← (s.readPath base path).toOption
  let v ← (Json.read (← String.fromUTF8? bytes)).toOption
  match RouteManifest.decode v with
  | .value m => some m
  | _ => none

private def orDash (s : Option String) : String :=
  (s.filter (· ≠ "")).getD "-"

private def routeRow (r : RouteFields) : List String :=
  [r.id, if r.index then "(index)" else orDash r.segment, orDash r.layoutDocId,
    orDash r.pageDocId]

/-- Matches a path against a route manifest. -/
def matchRoute (base : Location) (manifest path : String) (allowPartial : Bool) : Run Unit := do
  match readManifest? (← get).storage base manifest with
  | none => fail ("Cannot load manifest " ++ Location.spelling manifest)
  | some m =>
    match m.root.matchPath path allowPartial with
    | none =>
      say ("No route matches " ++ path)
      stop (.exit 1)
    | some found =>
      sayTable ⟨"Route match for " ++ path, ["Route", "Segment", "Layout", "Page"],
        found.chain.map routeRow⟩
      found.params.forM fun p => say ("  [bold]" ++ p.1 ++ "[/bold] = " ++ p.2)
      if found.remainder.isEmpty then pure ()
      else say ("Remainder: " ++ found.remainderPath)

/-- The paths that a command names. -/
def Command.paths : Command -> List String
  | .validate document | .canonical document => [document]
  | .writeBundle document _ output config _ => document :: output.toList ++ config.toList
  | .render document _ _ _ config => document :: config.toList
  | .route manifest _ _ => [manifest]

/-- Runs a command. -/
def Command.run (base : Location) (c : Command) : Run Unit := do
  c.paths.forM checkPath
  match c with
  | .validate document => CommandLine.validate base document
  | .canonical document => printCanonical base document
  | .writeBundle document kind output config name =>
    exportBundle base document kind output config name
  | .render document params path preview config =>
    renderView base document params path preview config
  | .route manifest path allowPartial => matchRoute base manifest path allowPartial

/-- Opens the journal of a run: its directory is made, and its file is there from then on. -/
def openJournal (now : Moment) (base : Location) (verbose : Bool) (directory : String) :
    Run Unit := do
  checkPath directory
  let j : Log.Journal := ⟨if verbose then Log.debugLevel else Log.warningLevel, directory⟩
  let s ← orStop (((← get).storage.makePath base directory).mapError .storage)
  let place := Location.resolve base j.path
  let before := (s.file? place).getD ⟨#[]⟩
  let s ← orStop
    ((s.writeFile place (before ++ Log.Journal.content (j.kept now []))).mapError .storage)
  modify fun c => { c with storage := s }

/-- The paths that a run may read: the settings in the base directory, and what its arguments
name. -/
def readPaths (args : List String) : List String :=
  [Config.fileName, Config.projectFileName] ++
    match Opening.ofArgs args with
    | .ok (.command name rest _ logDirectory) =>
      (logDirectory.toList.map fun d => (Log.Journal.mk 0 d).path) ++
        match name.request rest with
        | .ok (.run c) => c.paths
        | _ => []
    | _ => []

/-- What is printed to help. -/
def helpText : String :=
  "Commands: validate, canonical, export, render, route\n"

/-- Does what the arguments ask for. -/
def Opening.run (now : Moment) (base : Location) : Opening -> Run Unit
  | .version => put ("mirkit " ++ CommandLine.version ++ "\n")
  | .help => put helpText
  | .command name args verbose logDirectory => do
    logDirectory.toList.forM (openJournal now base verbose)
    match name.request args with
    | .ok .help => put helpText
    | .ok (.run c) => c.run base
    | .error e => stop (.refused e)

/-- Runs a command line: the console at the end, and the ending. -/
def run (now : Moment) (s : Storage) (base : Location) (args : List String) : Console × Ending :=
  let task : Run Unit :=
    match Opening.ofArgs args with
    | .ok o => o.run now base
    | .error e => stop (.refused e)
  match (ExceptT.run task).run { storage := s } with
  | (.ok _, c) => (c, .exit 0)
  | (.error e, c) => (c, e)

end ViewDoc.CommandLine
