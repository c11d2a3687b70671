import ViewDoc.Fault
import ViewDoc.Value.Display
import ViewDoc.Value.Pairs
/-!
Decoding values into typed records. Problems are collected, each with the place where it was found,
in the order of the fields; a fault ends the decoding at once.
-/

set_option autoImplicit false

namespace ViewDoc

/-- One step of a place in a value: a name, or a position or a number that is a key. -/
inductive Loc where
  | key (name : String)
  | index (number : Int)
  deriving DecidableEq, Repr

/-- Whether a whole number fits into 64 bits. -/
def fitsWord (i : Int) : Bool :=
  -9223372036854775808 ≤ i && i < 9223372036854775808

/-- The step to a key: a whole number where it is one that fits into 64 bits, or else its text. -/
def Loc.ofKey (k : Key) : Loc :=
  match k.whole? with
  | some i => if fitsWord i then .index i else .key k.display
  | none => .key k.display

/-- What is wrong with a value. -/
inductive Problem.Kind where
  | missing
  | stringType
  | boolType
  | boolParsing
  | intType
  | intParsing
  | intParsingSize
  | intFromFloat
  | tooSmall
  | dictType
  | listType
  | modelType
  | unknownChoice
  | unexpectedKey
  | valueError
  | notFinite
  deriving DecidableEq, Repr

/-- The code of a kind of problem. -/
def Problem.Kind.code : Problem.Kind -> String
  | .missing => "missing"
  | .stringType => "string_type"
  | .boolType => "bool_type"
  | .boolParsing => "bool_parsing"
  | .intType => "int_type"
  | .intParsing => "int_parsing"
  | .intParsingSize => "int_parsing_size"
  | .intFromFloat => "int_from_float"
  | .tooSmall => "greater_than_equal"
  | .dictType => "dict_type"
  | .listType => "list_type"
  | .modelType => "model_type"
  | .unknownChoice => "enum"
  | .unexpectedKey => "extra_forbidden"
  | .valueError => "value_error"
  | .notFinite => "finite_number"

/-- A problem at a place. -/
structure Problem where
  loc : List Loc
  kind : Problem.Kind
  deriving DecidableEq, Repr

/-- The outcome of decoding. -/
inductive Decoded (α : Type) where
  | value (a : α)
  | problems (ps : List Problem)
  | fault (f : Fault)
  deriving Repr

namespace Decoded

variable {α β : Type}

/-- Changes a decoded value. -/
def map (f : α -> β) : Decoded α -> Decoded β
  | .value a => .value (f a)
  | .problems ps => .problems ps
  | .fault e => .fault e

/-- Joins two outcomes: problems add up, and the first fault wins over all problems. -/
def seq (f : Decoded (α -> β)) (x : Unit -> Decoded α) : Decoded β :=
  match f, x () with
  | .fault e, _ => .fault e
  | _, .fault e => .fault e
  | .value g, .value a => .value (g a)
  | .value _, .problems ps => .problems ps
  | .problems ps, .value _ => .problems ps
  | .problems ps, .problems qs => .problems (ps ++ qs)

instance : Applicative Decoded where
  pure := .value
  seq := seq

/-- One problem with the whole value. -/
def fail (kind : Problem.Kind) : Decoded α :=
  .problems [⟨[], kind⟩]

/-- Places an outcome below a step. -/
def under (step : Loc) : Decoded α -> Decoded α
  | .problems ps => .problems (ps.map fun p => { p with loc := step :: p.loc })
  | x => x

/-- The outcome of a computation inside a decoder: a value that is not made of pairs is a problem,
and any other fault ends the decoding. -/
def ofExcept : Except Fault α -> Decoded α
  | .ok a => .value a
  | .error .notPair => .fail .valueError
  | .error f => .fault f

/-- Goes on with a decoded value. -/
def andThen (x : Decoded α) (f : α -> Decoded β) : Decoded β :=
  match x with
  | .value a => f a
  | .problems ps => .problems ps
  | .fault e => .fault e

end Decoded

namespace Decode

variable {α : Type}

/-- Accepts texts. -/
def text : Value -> Decoded String
  | .str s => .value s
  | _ => .fail .stringType

/-- Accepts objects, whatever they hold. -/
def object : Value -> Decoded Entries
  | .object es => .value es
  | _ => .fail .dictType

/-- Accepts null as nothing. -/
def optional (decode : Value -> Decoded α) : Value -> Decoded (Option α)
  | .null => .value none
  | v => (decode v).map some

/-- Joins the outcomes for numbered items. -/
def items (decode : Value -> Decoded α) : Nat -> List Value -> Decoded (List α)
  | _, [] => .value []
  | i, v :: rest =>
    List.cons <$> (decode v).under (.index i) <*> items decode (i + 1) rest

/-- Accepts lists of what a decoder accepts. -/
def list (decode : Value -> Decoded α) : Value -> Decoded (List α)
  | .list vs => items decode 0 vs
  | _ => .fail .listType

/-- Joins the outcomes for keyed entries. -/
def members (decode : Value -> Decoded α) : List (String × Value) -> Decoded (List (String × α))
  | [] => .value []
  | (k, v) :: rest =>
    (fun a as => (k, a) :: as) <$> (decode v).under (.key k) <*> members decode rest

/-- Accepts objects whose entries a decoder accepts. -/
def objectOf (decode : Value -> Decoded α) : Value -> Decoded (List (String × α))
  | .object es => members decode es
  | _ => .fail .dictType

/-- The first of the names that is present, with its value. -/
def lookup? (es : Entries) : List String -> Option (String × Value)
  | [] => none
  | name :: names =>
    match Entries.get? es name with
    | some v => some (name, v)
    | none => lookup? es names

/-- Decodes the field under the first of its names that is present. -/
def field (es : Entries) (names : List String) (absent : Decoded α)
    (decode : Value -> Decoded α) : Decoded α :=
  match lookup? es names with
  | some (name, v) => (decode v).under (.key name)
  | none => absent

/-- Decodes a field that must be present. -/
def required (es : Entries) (names : List String) (decode : Value -> Decoded α) : Decoded α :=
  field es names (.problems [⟨[.key (names.headD "")], .missing⟩]) decode

/-- The entries that no field takes. -/
def extras (es : Entries) (fields : List (List String)) : Entries :=
  let taken := fields.filterMap fun names => (lookup? es names).map (·.1)
  es.filter fun e => !taken.contains e.1

private def refuse : Entries -> Decoded Unit
  | [] => .value ()
  | es => .problems (es.map fun e => ⟨[.key e.1], .unexpectedKey⟩)

/-- Reads an object that may have no entries besides its fields. Other entries are problems, which
come after those with the fields. -/
def closed (fields : List (List String)) (decode : Entries -> Decoded α) : Value -> Decoded α
  | .object es => (fun a _ => a) <$> decode es <*> refuse (extras es fields)
  | _ => .fail .modelType

/-- Accepts an entry whose key is a text. -/
def textKey (e : Key × Value) : Decoded (String × Value) :=
  match e.1.text? with
  | some name => .value (name, e.2)
  | none => .problems [⟨[.ofKey e.1, .key "[key]"], .stringType⟩]

/-- Accepts entries whose keys are texts. -/
def textKeys : List (Key × Value) -> Decoded Entries
  | [] => .value []
  | e :: rest => List.cons <$> textKey e <*> textKeys rest

/-- The record of set-aside fields that a source brings along. Only a value that holds says
anything. -/
def asideRecord (es : Entries) (key : String) : Decoded (List (Key × Value)) :=
  let raw := Entries.get es key
  if raw.isTruthy then .ofExcept raw.entries else .value []

/-- The record of set-aside fields after its update: what a source brought along is replaced by the
new record, unless that is empty. -/
def asideField (es : Entries) (key : String) (record : List (Key × Value)) : Decoded Entries :=
  if record.isEmpty then field es [key] (.value []) object
  else (textKeys record).under (.key key)

/-- Entries whose value is there and not null, and is not of the wanted shape. -/
def wrongShape (es : Entries) (wanted : Value -> Bool) (keys : List String) : Entries :=
  keys.filterMap fun key =>
    match Entries.get? es key with
    | some v => if v.isNull || wanted v then none else some (key, v)
    | none => none

end Decode

end ViewDoc
