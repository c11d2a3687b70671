import ViewDoc.Decode.Scalar
/-!
Diagnostics: what normalization, components and code generation report about authored input while
they go on.
-/

set_option autoImplicit false

namespace ViewDoc

/-- How grave a diagnostic is. -/
inductive Severity where
  | error
  | warning
  | info
  deriving DecidableEq, Repr, Inhabited

/-- The part of the library that reports. -/
inductive Reporter where
  | canonical
  | adapter
  | codegen
  deriving DecidableEq, Repr, Inhabited

/-- One report. -/
structure Diagnostic where
  code : String
  severity : Severity := .warning
  reporter : Reporter
  message : String
  path : Option String := none
  suggestion : Option String := none
  deriving DecidableEq, Repr, Inhabited

namespace Severity

/-- The word for a severity. -/
def word : Severity -> String
  | .error => "error"
  | .warning => "warning"
  | .info => "info"

/-- The severity that a word names. -/
def ofWord? : String -> Option Severity
  | "error" => some .error
  | "warning" => some .warning
  | "info" => some .info
  | _ => none

end Severity

namespace Reporter

/-- The word for a reporter. -/
def word : Reporter -> String
  | .canonical => "canonical-ir"
  | .adapter => "adapter"
  | .codegen => "codegen"

/-- The reporter that a word names. -/
def ofWord? : String -> Option Reporter
  | "canonical-ir" => some .canonical
  | "adapter" => some .adapter
  | "codegen" => some .codegen
  | _ => none

end Reporter

namespace Diagnostic

/-- A diagnostic as an object. -/
def toValue (d : Diagnostic) : Value :=
  .object [("code", .str d.code), ("severity", .str d.severity.word),
    ("source", .str d.reporter.word), ("message", .str d.message), ("path", .ofText? d.path),
    ("suggestion", .ofText? d.suggestion)]

/-- Reads a diagnostic. -/
def decode : Value -> Decoded Diagnostic
  | .object es =>
    let optionalText (name : String) : Decoded (Option String) :=
      Decode.field es [name] (.value none) (Decode.optional Decode.text)
    (fun code severity reporter message path suggestion =>
        { code, severity, reporter, message, path, suggestion }) <$>
      Decode.required es ["code"] Decode.text <*>
      Decode.required es ["severity"] (Decode.choice Severity.ofWord?) <*>
      Decode.required es ["source"] (Decode.choice Reporter.ofWord?) <*>
      Decode.required es ["message"] Decode.text <*> optionalText "path" <*>
      optionalText "suggestion"
  | _ => .fail .modelType

/-- Whether one of the diagnostics is an error. -/
def anyError (ds : List Diagnostic) : Bool :=
  ds.any fun d => d.severity == .error

/-- The diagnostics with a code. -/
def withCode (code : String) (ds : List Diagnostic) : List Diagnostic :=
  ds.filter fun d => d.code == code

end Diagnostic

end ViewDoc
