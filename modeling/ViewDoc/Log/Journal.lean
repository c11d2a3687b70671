import ViewDoc.Fault
import ViewDoc.Log.Record
import ViewDoc.Storage.Basic
import ViewDoc.Value.Entries
/-!
Journals: the log file of a directory, which keeps the records of the library's loggers from a level
on.
-/

set_option autoImplicit false

namespace ViewDoc.Log

/-- A journal: the least level that it keeps, and the directory of its file. -/
structure Journal where
  level : Int
  directory : String
  deriving DecidableEq, Repr

/-- Where records go. -/
inductive Sink where
  | console
  | file (path : String)
  deriving DecidableEq, Repr

namespace Journal

/-- The name of journal files. -/
def fileName : String := "mirkit.log"

/-- The path of the file. -/
def path (j : Journal) : String :=
  Location.spelling (Location.spelling j.directory ++ "/" ++ fileName)

/-- Where the records of a journal go. -/
def sinks (j : Journal) : List Sink :=
  [.console, .file j.path]

/-- The level from which on records are kept. Zero stands for no choice. -/
def threshold (j : Journal) : Int :=
  if j.level = 0 then warningLevel else j.level

/-- Whether a logger is the root or below it. -/
def isOwn (logger : String) : Bool :=
  logger = rootLogger || (rootLogger ++ ".").toList.isPrefixOf logger.toList

/-- Whether a record is kept. One whose level is not positive never is. -/
def keeps (j : Journal) (r : Record) : Bool :=
  isOwn r.logger && 0 < r.level && j.threshold ≤ r.level

/-- The record that a journal starts with. -/
def opening (j : Journal) (time : Moment) : Record :=
  { logger := rootLogger, level := debugLevel, message := "mirkit logging initialized", time,
    context := .object [("log_format", .str "jsonl"), ("log_file", .str j.path)] }

/-- The names of what every record has, which are not free for further fields. -/
def takenNames : List String :=
  ["logger", "level", "message", "context"]

/-- The context of a record with further fields, or null if there are none at all. -/
def contextOf (context fields : Entries) : Except Fault Value :=
  match fields.find? fun e => takenNames.contains e.1 with
  | some e => .error (.takenName e.1)
  | none =>
    let all := Entries.merge context fields
    .ok (if all.isEmpty then .null else .object all)

/-- The records in the file after some were logged, from the time when it was opened. -/
def kept (j : Journal) (opened : Moment) (logged : List Record) : List Record :=
  (j.opening opened :: logged).filter j.keeps

/-- The content of the file. -/
def content (records : List Record) : ByteArray :=
  ("".intercalate (records.map fun r => r.dataLine ++ "\n")).toUTF8

end Journal

end ViewDoc.Log
