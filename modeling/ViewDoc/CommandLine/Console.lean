import ViewDoc.CommandLine.Arguments
import ViewDoc.CommandLine.Table
import ViewDoc.Diagnostic
import ViewDoc.Failure
/-!
Running commands: they change storage, print to two channels, and may end early.
-/

set_option autoImplicit false

namespace ViewDoc.CommandLine

/-- What is printed at once: a text as it stands, lines, or a table. -/
inductive Printed where
  | raw (s : String)
  | lines (s : String)
  | table (t : Table)
  deriving DecidableEq, Repr

/-- How a run ends: with an exit code, with a refusal of its arguments, or with a failure that no
command reports. -/
inductive Ending where
  | exit (code : Nat)
  | refused (e : UsageError)
  | stopped (f : Failure)

/-- The storage and what was printed so far, on the channel for results and on that for messages. -/
structure Console where
  storage : Storage
  out : List Printed := []
  err : List Printed := []

/-- A step of a run. -/
abbrev Run (α : Type) : Type := ExceptT Ending (StateM Console) α

/-- The exit code of an ending. -/
def Ending.code : Ending -> Nat
  | .exit code => code
  | .refused _ => 2
  | .stopped _ => 1

/-- The text of what is printed. -/
def Printed.text : Printed -> String
  | .raw s => s
  | .lines s => s ++ "\n"
  | .table t => t.text ++ "\n"

namespace Run

variable {α : Type}

/-- Ends the run. -/
def stop (e : Ending) : Run α :=
  throw e

/-- The result of a computation; its failure stops the run. -/
def orStop : Except Failure α -> Run α
  | .ok a => pure a
  | .error f => stop (.stopped f)

/-- The result of a computation that may have a fault. -/
def orFault (x : Except Fault α) : Run α :=
  orStop (Failure.ofFault x)

/-- Prints a text as it stands. -/
def put (s : String) : Run Unit :=
  modify fun c => { c with out := c.out ++ [.raw s] }

/-- The lines of a styled text, with blanks for tabulators. -/
private def styledLines (s : String) : Run Printed := do
  let lines := Text.split '\n' (← orFault (shownText s))
  return .lines ("\n".intercalate (lines.map fun l => .ofList (Text.expandTabs l.toList)))

/-- Prints a styled text among the results. -/
def say (s : String) : Run Unit := do
  let shown ← styledLines s
  modify fun c => { c with out := c.out ++ [shown] }

/-- Prints a styled text among the messages. -/
def tell (s : String) : Run Unit := do
  let shown ← styledLines s
  modify fun c => { c with err := c.err ++ [shown] }

/-- Prints a table among the results. -/
def sayTable (t : Table) : Run Unit := do
  let shown ← orFault t.shown
  modify fun c => { c with out := c.out ++ [.table shown] }

/-- Prints a table among the messages. -/
def tellTable (t : Table) : Run Unit := do
  let shown ← orFault t.shown
  modify fun c => { c with err := c.err ++ [.table shown] }

/-- Tells an error and ends the run. -/
def fail (message : String) : Run α := do
  tell ("Error: " ++ message)
  stop (.exit 1)

/-- The result of a computation. A failure that is reported to users is told, and any other stops
the run. -/
def orTell : Except Failure α -> Run α
  | .ok a => pure a
  | .error f =>
    match f.report? with
    | some text => fail text
    | none => stop (.stopped f)

/-- A path, which must not hold the character that no path may hold. -/
def checkPath (path : String) : Run Unit :=
  if path.toList.contains '\x00' then stop (.stopped (.fault .nullInPath)) else pure ()

/-- Tells diagnostics, if there are any. -/
def tellDiagnostics (ds : List Diagnostic) : Run Unit :=
  if ds.isEmpty then pure ()
  else
    tellTable ⟨"Diagnostics", ["Severity", "Code", "Path", "Message"],
      ds.map fun d => [d.severity.word, d.code, (d.path.filter (· ≠ "")).getD "-", d.message]⟩

end Run

end ViewDoc.CommandLine
