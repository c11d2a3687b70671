import ViewDoc.Bundle.Basic
import ViewDoc.Json.Reader
import ViewDoc.Text.Blank
/-!
The arguments of a command line: options with their values, and the rest. Two hyphens end the
options. A param is a key and a value with an equals sign between them; a value that is no JSON is a
text.
-/

set_option autoImplicit false

namespace ViewDoc.CommandLine

/-- Why a param cannot be read: it has no key, or its value is a number of too many digits. -/
inductive ParamFault where
  | noKey
  | longNumeral
  deriving DecidableEq, Repr

/-- The key and the value of a param. -/
def readParam (raw : String) : Except ParamFault (String × Value) :=
  let key := raw.toList.takeWhile (· != '=')
  let name := Text.trim (.ofList key)
  match raw.toList.drop key.length with
  | [] => .error .noKey
  | _ :: rest =>
    if name = "" then .error .noKey
    else
      match Json.read (.ofList rest) with
      | .ok v => .ok (name, v)
      | .error .malformed => .ok (name, .str (.ofList rest))
      | .error .longNumeral => .error .longNumeral

/-- The entries of several params; the last value of a key stands. -/
def readParams (raws : List String) : Except ParamFault Entries :=
  (raws.mapM readParam).map Entries.ofList


/-- An option. One with a short name takes a value. -/
structure OptionSpec where
  name : String
  letter : Option Char := none
  takesValue : Bool := true
  deriving DecidableEq, Repr

/-- Why arguments are refused. -/
inductive UsageError where
  | unknownOption (name : String)
  | missingValue (name : String)
  | needlessValue (name : String)
  | missingCommand
  | unknownCommand (name : String)
  | missingArgument (name : String)
  | extraArgument (text : String)
  | unknownChoice (word : String)
  | malformedParam (text : String)
  deriving DecidableEq, Repr

/-- The text of a refusal. -/
def UsageError.text : UsageError -> String
  | .unknownOption name => "No such option: " ++ name
  | .missingValue name => "Option " ++ name ++ " needs a value."
  | .needlessValue name => "Option " ++ name ++ " takes no value."
  | .missingCommand => "Missing command."
  | .unknownCommand name => "No such command: " ++ name
  | .missingArgument name => "Missing argument: " ++ name
  | .extraArgument text => "Unexpected argument: " ++ text
  | .unknownChoice word => "Not one of the choices: " ++ word
  | .malformedParam text => "Expected key=value: " ++ text

/-- Arguments in parts: the options given, in order, and the rest. -/
structure Arguments where
  options : List (String × String) := []
  rest : List String := []
  deriving DecidableEq, Repr

namespace Arguments

/-- What one argument is. -/
inductive Role where
  | terminator
  | plain
  | option (spec : OptionSpec) (value : Option String)

/-- The role of a long option, given its name and the value after an equals sign. -/
private def longRole (spec : OptionSpec) (value : Option String) : Except UsageError Role :=
  if value.isSome && !spec.takesValue then .error (.needlessValue spec.name)
  else .ok (.option spec value)

/-- The role of an argument that starts with a hyphen. -/
private def optionRole (specs : List OptionSpec) (arg : String) : Except UsageError Role :=
  let name := arg.toList.takeWhile (· != '=')
  let value := match arg.toList.drop name.length with
    | [] => none
    | _ :: cs => some (String.ofList cs)
  match specs.find? fun s => s.name.toList == name, arg.toList with
  | some spec, _ => longRole spec value
  | none, '-' :: '-' :: _ => .error (.unknownOption arg)
  | none, '-' :: c :: cs =>
    match specs.find? fun s => s.letter == some c with
    | some spec => .ok (.option spec (if cs.isEmpty then none else some (.ofList cs)))
    | none => .error (.unknownOption arg)
  | none, _ => .error (.unknownOption arg)

/-- The role of an argument. A hyphen alone is no option. -/
def roleOf (specs : List OptionSpec) (arg : String) : Except UsageError Role :=
  match arg.toList with
  | ['-', '-'] => .ok .terminator
  | '-' :: _ :: _ => optionRole specs arg
  | _ => .ok .plain

private def withOption (name value : String) (a : Arguments) : Arguments :=
  { a with options := (name, value) :: a.options }

private def withPlain (arg : String) (a : Arguments) : Arguments :=
  { a with rest := arg :: a.rest }

/-- Takes the options out of arguments, while one may wait for its value. Options after other
arguments count only where `throughout` holds. -/
def scan (specs : List OptionSpec) (throughout : Bool) :
    Option OptionSpec -> List String -> Except UsageError Arguments
  | some spec, [] => .error (.missingValue spec.name)
  | some spec, value :: args => (scan specs throughout none args).map (withOption spec.name value)
  | none, [] => .ok {}
  | none, arg :: args => do
    match ← roleOf specs arg with
    | .terminator => return { rest := args }
    | .plain =>
      if throughout then return (← scan specs throughout none args).withPlain arg
      else return { rest := arg :: args }
    | .option spec (some value) =>
      return (← scan specs throughout none args).withOption spec.name value
    | .option spec none =>
      if spec.takesValue then scan specs throughout (some spec) args
      else return (← scan specs throughout none args).withOption spec.name ""

/-- Whether an option is given. -/
def has (a : Arguments) (name : String) : Bool :=
  a.options.any fun o => o.1 == name

/-- All values of an option. -/
def values (a : Arguments) (name : String) : List String :=
  (a.options.filter fun o => o.1 == name).map (·.2)

/-- The last value of an option. -/
def value? (a : Arguments) (name : String) : Option String :=
  (a.values name).getLast?

end Arguments

/-- The commands. -/
inductive CommandName where
  | validate
  | canonical
  | bundle
  | render
  | route
  deriving DecidableEq, Repr

/-- A command with its arguments. -/
inductive Command where
  | validate (document : String)
  | canonical (document : String)
  | writeBundle (document : String) (kind : Option BundleKind) (output config name : Option String)
  | render (document : String) (params : List String) (path : String) (preview : Bool)
      (config : Option String)
  | route (manifest path : String) (allowPartial : Bool)
  deriving DecidableEq, Repr

/-- What the arguments after the name of a command ask for. -/
inductive Request where
  | help
  | run (c : Command)
  deriving DecidableEq, Repr

namespace CommandName

/-- The command of a name. -/
def ofWord? : String -> Option CommandName
  | "validate" => some .validate
  | "canonical" => some .canonical
  | "export" => some .bundle
  | "render" => some .render
  | "route" => some .route
  | _ => none

private def helpOption : OptionSpec := { name := "--help", takesValue := false }

private def configOption : OptionSpec := { name := "--config", letter := some 'c' }

/-- The options of a command. -/
def options : CommandName -> List OptionSpec
  | .validate | .canonical => [helpOption]
  | .bundle =>
    [helpOption, configOption, { name := "--type", letter := some 't' },
      { name := "--output", letter := some 'o' }, { name := "--name", letter := some 'n' }]
  | .render =>
    [helpOption, configOption, { name := "--param", letter := some 'p' }, { name := "--path" },
      { name := "--preview", takesValue := false }]
  | .route => [helpOption, { name := "--partial", takesValue := false }]

private def oneArgument (name : String) : List String -> Except UsageError String
  | [] => .error (.missingArgument name)
  | [arg] => .ok arg
  | _ :: extra :: _ => .error (.extraArgument extra)

private def twoArguments (first second : String) :
    List String -> Except UsageError (String × String)
  | [] => .error (.missingArgument first)
  | [_] => .error (.missingArgument second)
  | [a, b] => .ok (a, b)
  | _ :: _ :: extra :: _ => .error (.extraArgument extra)

private def kindOf : Option String -> Except UsageError (Option BundleKind)
  | none => .ok none
  | some word =>
    match BundleKind.ofWord? word with
    | some kind => .ok (some kind)
    | none => .error (.unknownChoice word)

/-- The command that arguments make of a name. -/
def command (n : CommandName) (a : Arguments) : Except UsageError Command :=
  match n with
  | .validate => (oneArgument "DOCUMENT" a.rest).map .validate
  | .canonical => (oneArgument "DOCUMENT" a.rest).map .canonical
  | .bundle => do
    let kind ← kindOf (a.value? "--type")
    return .writeBundle (← oneArgument "DOCUMENT" a.rest) kind (a.value? "--output")
      (a.value? "--config") (a.value? "--name")
  | .render => do
    return .render (← oneArgument "DOCUMENT" a.rest) (a.values "--param")
      ((a.value? "--path").getD "/") (a.has "--preview") (a.value? "--config")
  | .route => do
    let (manifest, path) ← twoArguments "MANIFEST" "PATH" a.rest
    return .route manifest path (a.has "--partial")

/-- What arguments ask of a command. -/
def request (n : CommandName) (args : List String) : Except UsageError Request := do
  let a ← Arguments.scan n.options true none args
  if a.has "--help" then return .help else return .run (← n.command a)

end CommandName

/-- What the arguments ask for before any command is looked at: the version, the help, or a command
with its own arguments, perhaps with records of the run. -/
inductive Opening where
  | version
  | help
  | command (name : CommandName) (args : List String) (verbose : Bool) (logDirectory : Option String)
  deriving DecidableEq, Repr

namespace Opening

private def options : List OptionSpec :=
  [{ name := "--verbose", takesValue := false }, { name := "--log-dir" },
    { name := "--version", takesValue := false }, { name := "--help", takesValue := false }]

private def ofArguments (a : Arguments) : Except UsageError Opening :=
  match a.options.find? fun o => o.1 == "--version" || o.1 == "--help" with
  | some (name, _) => .ok (if name = "--version" then .version else .help)
  | none =>
    match a.rest with
    | [] => .error .missingCommand
    | name :: args =>
      match CommandName.ofWord? name with
      | some n => .ok (.command n args (a.has "--verbose") (a.value? "--log-dir"))
      | none => .error (.unknownCommand name)

/-- What arguments ask for. -/
def ofArgs (args : List String) : Except UsageError Opening :=
  (Arguments.scan options false none args) >>= ofArguments

end Opening

end ViewDoc.CommandLine
