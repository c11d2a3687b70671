import ViewDoc.Fault
import ViewDoc.Text.Digit
import ViewDoc.Value.Key
/-!
Paths into values, such as `users[0].name`. A path is a sequence of steps; dots and brackets that
mark no step are passed over. Reading what is missing gives null.
-/

set_option autoImplicit false

namespace ViewDoc.Path

/-- One step: a name, or a bracketed position. -/
inductive Step where
  | key (name : String)
  | index (position : Nat)
  deriving DecidableEq, Repr

/-- A step before its numeral is read. -/
inductive Mark where
  | run (cs : List Char)
  | bracketed (digits : List Char)
  deriving DecidableEq, Repr

/-- The run that ends, given in reverse, unless it is empty. -/
private def ended (run : List Char) : List Mark :=
  if run.isEmpty then [] else [.run run.reverse]

/-- Cuts a path into marks. `bracket` tells that the current run, kept in reverse, follows an opening
bracket and consists of decimal digits. -/
def marksFrom (bracket : Bool) (run : List Char) : List Char -> List Mark
  | [] => ended run
  | c :: rest =>
    if c == '[' then ended run ++ marksFrom true [] rest
    else if c == '.' then ended run ++ marksFrom false [] rest
    else if c == ']' then
      (if bracket && !run.isEmpty then [.bracketed run.reverse] else ended run) ++
        marksFrom false [] rest
    else marksFrom (bracket && Text.isDecimal c) (c :: run) rest

/-- The marks of a path. -/
def marks (path : String) : List Mark :=
  marksFrom false [] path.toList

/-- The step at a mark. -/
def Mark.step : Mark -> Except Fault Step
  | .run cs => .ok (.key (.ofList cs))
  | .bracketed digits =>
    match Text.numeral? digits with
    | some n => .ok (.index n)
    | none => .error (.numeral (.ofList digits))

/-- The steps of a path. -/
def parse (path : String) : Except Fault (List Step) :=
  (marks path).mapM Mark.step

/-- The name under which a step looks into an object. -/
def Step.name : Step -> String
  | .key name => name
  | .index n => Text.ofNat n

/-- The position at which a step looks into a list, if it is one. -/
def Step.position? : Step -> Except Fault (Option Nat)
  | .index n => .ok (some n)
  | .key name =>
    if Text.isDigits name then
      match Text.numeral? name.toList with
      | some n => .ok (some n)
      | none => .error (.numeral name)
    else .ok none

/-- Takes one step from a value. -/
def Step.read (s : Step) : Value -> Except Fault Value
  | .list items => do
    match ← s.position? with
    | some n => return items[n]?.getD .null
    | none => return .null
  | .object es => .ok (Entries.get es s.name)
  | .mapping es => .ok ((Keyed.get? es (.text s.name)).getD .null)
  | _ => .ok .null

/-- Takes steps from a value. -/
def readSteps : Value -> List Step -> Except Fault Value
  | v, [] => .ok v
  | v, s :: rest => do readSteps (← s.read v) rest

/-- Reads a value at a path; the empty path reads the value itself. -/
def read (v : Value) (path : String) : Except Fault Value := do
  readSteps v (← parse path)

end ViewDoc.Path
