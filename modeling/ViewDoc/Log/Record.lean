import ViewDoc.Json.Writer
import ViewDoc.Log.Moment
/-!
Log records, as lines of JSON for programs and as lines of text for readers.
-/

set_option autoImplicit false

namespace ViewDoc.Log

/-- The failure that a record tells of. -/
structure Cause where
  kind : String
  message : String
  deriving DecidableEq, Repr

/-- A log record. -/
structure Record where
  logger : String
  level : Int
  message : String := ""
  time : Moment := .ofSeconds 0
  file : String := ""
  line : Int := 0
  context : Value := .null
  cause : Option Cause := none
  deriving DecidableEq, Repr

/-- The logger above all others. -/
def rootLogger : String := "mirkit"

/-- The level of records that only help to find errors. -/
def debugLevel : Int := 10

/-- The level of records that are shown without the name of their level. -/
def infoLevel : Int := 20

/-- The level from which on records are kept unless another is chosen, and tell where they were
made. -/
def warningLevel : Int := 30

/-- The name of a level. -/
def levelName (level : Int) : String :=
  match level with
  | 50 => "CRITICAL"
  | 40 => "ERROR"
  | 30 => "WARNING"
  | 20 => "INFO"
  | 10 => "DEBUG"
  | 0 => "NOTSET"
  | _ => "Level " ++ Text.ofInt level

/-- The component that a logger belongs to: its name without that of the root. -/
def componentOf (logger : String) : String :=
  let top := (rootLogger ++ ".").toList
  if top.isPrefixOf logger.toList then .ofList (logger.toList.drop top.length) else logger

/-- The text of a cause. -/
def Cause.text (c : Cause) : String :=
  if c.message = "" then c.kind else c.kind ++ ": " ++ c.message

namespace Record

/-- The entries of a record. A context says nothing unless it holds something. -/
def entries (r : Record) : Entries :=
  [("timestamp", .str r.time.text), ("level", .str (levelName r.level)),
    ("component", .str (componentOf r.logger)), ("message", .str r.message)] ++
  (if r.context.isTruthy then [("context", r.context)] else []) ++
  (if warningLevel ≤ r.level then
    [("source", .object [("file", .str r.file), ("line", .int r.line)])] else []) ++
  (r.cause.map fun c =>
    ("exception", Value.object [("type", .str c.kind), ("message", .str c.message)])).toList

/-- A record as a line of JSON. -/
def dataLine (r : Record) : String :=
  Json.write .line (.object r.entries)

/-- A record as text. -/
def text (r : Record) : String :=
  "[" ++ r.time.timeText ++ "] [" ++ componentOf r.logger ++ "]" ++
    (if r.level = infoLevel then "" else " " ++ levelName r.level ++ ":") ++ " " ++ r.message ++
    ((r.cause.map fun c => "\n" ++ c.text).getD "")

end Record

end ViewDoc.Log
