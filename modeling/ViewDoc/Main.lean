import Std.Time.DateTime.Timestamp
import ViewDoc.CommandLine.Commands
/-!
The program: it reads what the arguments name, runs the command line, and brings the files and the
output of the run into the world.
-/

set_option autoImplicit false

namespace ViewDoc.CommandLine

/-- Takes a file or a directory of the world into storage, if there is one at a place. -/
def fetch (s : Storage) (place : Location) : IO Storage := do
  try
    let content ← IO.FS.readBinFile (Location.text place)
    return { s with files := Storage.setFile place content s.files }
  catch _ =>
    let directory := (← IO.currentDir) / Location.text place
    if ← directory.isDir then return { s with directories := s.directories ++ [place] }
    else return s

/-- Brings the directories and files that a run made into the world. -/
def deliver (before after : Storage) : IO Unit := do
  for place in after.directoriesSince before do
    IO.FS.createDirAll (Location.text place)
  for (place, content) in after.filesSince before do
    IO.FS.createDirAll (Location.text place.dropLast)
    IO.FS.writeBinFile (Location.text place) content

/-- What is told about an ending that told nothing itself. -/
def Ending.note? : Ending -> Option String
  | .exit _ => none
  | .refused e => some ("Error: " ++ e.text)
  | .stopped f => some ("Stopped: " ++ reprStr f)

/-- The moment that it is now. -/
def now : IO Moment := do
  let t ← Std.Time.Timestamp.now
  return ⟨t.toNanosecondsSinceUnixEpoch.val / 1000⟩

/-- Runs the command line in the current directory. -/
def runHere (args : List String) : IO UInt32 := do
  let base := Location.resolve [] (← IO.currentDir).toString
  let places := (readPaths args).map (Location.resolve base)
  let s ← places.foldlM fetch { directories := [base] }
  let (console, ending) := run (← now) s base args
  deliver s console.storage
  for p in console.out do IO.print p.text
  for p in console.err do IO.eprint p.text
  if let some note := ending.note? then IO.eprintln note
  return ending.code.toUInt32

end ViewDoc.CommandLine

/-- The program. -/
def main (args : List String) : IO UInt32 :=
  ViewDoc.CommandLine.runHere args
