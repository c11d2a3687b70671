import ViewDoc.Log.Record
import ViewDoc.Log.Template
/-!
The lines that tell of a record: one of data and one for readers. Both are made from a template with
its values and a time in seconds.
-/

set_option autoImplicit false

namespace ViewDoc.Log

/-- Why the lines of a record cannot be made. -/
inductive LineFault where
  | time (f : TimeFault)
  | template (f : TemplateFault)
  deriving DecidableEq, Repr

/-- The record with a time and a message. The line of data comes first: it needs the time and then the
message; the line for readers needs what a clock tells. -/
def Record.completed (r : Record) (time : Value) (template : String) (values : List Value) :
    Except LineFault Record := do
  let time ← (Moment.ofTime time).mapError .time
  let message ← (Log.message template values).mapError .template
  let time ← time.clocked.mapError .time
  return { r with time, message }

end ViewDoc.Log
