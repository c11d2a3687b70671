import ViewDoc.Config.Basic
import ViewDoc.Toml.Reader
/-!
Loading settings: from a file of their own, or from the table that a project file keeps for them.
-/

set_option autoImplicit false

namespace ViewDoc.Config

/-- The name of settings files. -/
def fileName : String := "mirkit.toml"

/-- The name of project files. -/
def projectFileName : String := "pyproject.toml"

/-- The name of the table that a project file keeps for the settings. -/
def tableName : String := "mirkit"

private def loadError (path message : String) : Failure :=
  .reported ⟨.config, message, some { source := some path }⟩

/-- The entries of a settings file. -/
def readFile (s : Storage) (place : Location) (path : String) : Except Failure Entries :=
  match s.read place with
  | .error _ => .error (loadError path "Cannot read config")
  | .ok bytes =>
    match String.fromUTF8? bytes with
    | none => .error .notText
    | some text =>
      match Toml.read text with
      | .ok es => .ok es
      | .error .malformed => .error (loadError path "Invalid TOML")
      | .error .longNumeral => .error (.fault (.numeral ""))

/-- The tools of a project file. -/
def toolsOf (es : Entries) : Value :=
  (Entries.get? es "tool").getD (.object [])

/-- Whether the tools of a project file mention the settings. -/
def mentions : Value -> Except Fault Bool
  | .object es => .ok (Entries.has es tableName)
  | .list items => .ok (items.contains (.str tableName))
  | .str s => .ok (1 < (s.splitOn tableName).length)
  | _ => .error .noEntries

/-- The path of the settings in a directory: their own file, else a project file that mentions
them. -/
def find? (s : Storage) (directory : Location) : Except Failure (Option String) :=
  let own := directory ++ [fileName]
  let project := directory ++ [projectFileName]
  if s.isPresent own then .ok (some (Location.text own))
  else if !s.isPresent project then .ok none
  else do
    let es ← readFile s project (Location.text project)
    let mentioned ← Failure.ofFault (mentions (toolsOf es))
    return if mentioned then some (Location.text project) else none

/-- The settings among the entries of a project file. -/
def projectSettings (es : Entries) : Except Fault Value :=
  match toolsOf es with
  | .object tools => .ok ((Entries.get? tools tableName).getD (.object []))
  | _ => .error .notObject

/-- Reads the settings in the file at a place, to which a path leads. -/
def readFrom (s : Storage) (place : Location) (path : String) : Except Failure Config := do
  let shown := Location.spelling path
  let es ← readFile s place shown
  let v ← if Location.lastName path = projectFileName then Failure.ofFault (projectSettings es)
    else .ok (.object es)
  match decode v with
  | .value c => return c
  | .problems ps => throw (.rejected .config { source := some shown } ps)
  | .fault f => throw (.fault f)

/-- Loads the settings from a path, where there need not be anything. -/
def loadFrom (s : Storage) (base : Location) (path : String) : Except Failure Config :=
  if path.toList.contains '\x00' then .ok {}
  else
    match s.locate base path with
    | .error .tooLong => .error (.storage .tooLong)
    | .error _ => .ok {}
    | .ok place => if s.isPresent place then readFrom s place path else .ok {}

/-- Loads the settings from a given path, else from what is found in the directory. -/
def load (s : Storage) (base : Location) (path : Option String) : Except Failure Config := do
  let found ← match path with
    | some _ => .ok path
    | none => find? s base
  match found with
  | some p => loadFrom s base p
  | none => return {}

end ViewDoc.Config
