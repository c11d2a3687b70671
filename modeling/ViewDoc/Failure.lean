import ViewDoc.Decode
import ViewDoc.Storage.Basic
/-!
Failures at the boundaries: input that cannot be read, a configuration that makes no sense, an icon
provider that does not load, a bundle that cannot be written.
-/

set_option autoImplicit false

namespace ViewDoc

/-- Where an error arose: the origin of the input, a document path, and a node. -/
structure ErrorContext where
  source : Option String := none
  path : Option String := none
  nodeId : Option String := none
  deriving DecidableEq, Repr, Inhabited

/-- The families of errors that are reported to users. -/
inductive ErrorKind where
  | document
  | config
  | iconProvider
  | writing
  deriving DecidableEq, Repr

/-- A reported error. -/
structure ReportedError where
  kind : ErrorKind
  message : String
  context : Option ErrorContext := none
  deriving DecidableEq, Repr

/-- Everything that can keep an operation from its result. -/
inductive Failure where
  | reported (e : ReportedError)
  /-- A reported error whose cause is a list of problems. -/
  | rejected (kind : ErrorKind) (context : ErrorContext) (ps : List Problem)
  | invalid (ps : List Problem)
  | fault (f : Fault)
  /-- A file holds bytes that are no text. -/
  | notText
  | storage (f : StorageFault)
  deriving Repr

namespace ErrorContext

/-- The parts of a context that are given, on one line. -/
def text (c : ErrorContext) : String :=
  let part (before after : String) (s : Option String) : List String :=
    match s with
    | some s => if s = "" then [] else [before ++ s ++ after]
    | none => []
  " ".intercalate (part "" "" c.source ++ part "at " "" c.path ++ part "(node " ")" c.nodeId)

end ErrorContext

namespace ReportedError

/-- The text of an error: the line of its context, if it has one, and its message. -/
def text (e : ReportedError) : String :=
  match e.context with
  | some c => c.text ++ "\n" ++ e.message
  | none => e.message

end ReportedError

namespace Loc

/-- The text of a step. -/
def text : Loc -> String
  | .key name => name
  | .index i => Text.ofInt i

end Loc

namespace Problem

/-- The text of a problem: its place and its code. -/
def text (p : Problem) : String :=
  ".".intercalate (p.loc.map Loc.text) ++ ": " ++ p.kind.code

end Problem

namespace Failure

/-- What is told to users of a failure, if it is reported to them. -/
def report? : Failure -> Option String
  | .reported e => some e.text
  | .rejected _ context ps =>
    some ("\n".intercalate
      ([context.text, Text.ofNat ps.length ++ " validation errors"] ++ ps.map Problem.text))
  | _ => none

/-- Turns a fault into a failure. -/
def ofFault {α : Type} : Except Fault α -> Except Failure α
  | .ok a => .ok a
  | .error f => .error (.fault f)

/-- Turns the outcome of decoding into a result. -/
def ofDecoded {α : Type} : Decoded α -> Except Failure α
  | .value a => .ok a
  | .problems ps => .error (.invalid ps)
  | .fault f => .error (.fault f)

end Failure

end ViewDoc
